import Instrumentation.Proofs.Config.Rules
import Instrumentation.Proofs.UnitName
import Mathlib.Data.List.DropRight

set_option autoImplicit false

/-!
# Faults of configured rules

A configured rule may have a pattern that is refused and methods without names, all at once. `TargetConfig.faults` lists
everything that is wrong with a rule. The rule is refused with the first entry of the list (`toRule_eq_error_iff`), and
`exists_toRule_eq_error_iff` says for which rules there is one.

The rules of a configuration are converted up to the first one that is refused (`mapM_eq_error_iff`).
-/

namespace Instrumentation

/-- What stands after the last separator of a name; the whole name if there is no separator. -/
def afterLastSeparator (name : String) : String :=
  String.ofList (name.toList.rtakeWhile fun c => c ≠ pathSeparator)

/-- A split name ends in what stands after its last separator. -/
theorem splitUnitName_snd (name : String) :
    ((splitUnitName name).getD ("", name)).2 = afterLastSeparator name := by
  have hafter : pathSeparator ∉ name.toList.rtakeWhile fun c => c ≠ pathSeparator := by
    intro hmem
    simpa using List.mem_rtakeWhile_imp hmem
  have hparts : (name.toList.rdropWhile fun c => c ≠ pathSeparator) ++
      (name.toList.rtakeWhile fun c => c ≠ pathSeparator) = name.toList :=
    List.rdropWhile_append_rtakeWhile ..
  rw [splitUnitName, afterLastSeparator]
  rcases List.eq_nil_or_concat (name.toList.rdropWhile fun c => c ≠ pathSeparator) with
    hnil | ⟨before, last, hlast⟩
  · rw [hnil, List.nil_append] at hparts
    rw [hparts] at hafter ⊢
    rw [splitAfterLast_eq_none hafter]
    exact String.ofList_toList.symm
  · -- What is dropped from the right stops at a separator.
    have hsep : last = pathSeparator := by
      have hstop := List.rdropWhile_last_not (fun c => c ≠ pathSeparator) name.toList
        (by rw [hlast]; simp)
      simp only [hlast, List.concat_eq_append, List.getLast_append_singleton] at hstop
      simpa using hstop
    rw [hlast, hsep, List.concat_eq_append, List.append_assoc, List.singleton_append] at hparts
    rw [← hparts, splitAfterLast_append before hafter, hparts]
    rfl

namespace TargetConfig

variable {t : TargetConfig}

/-- What is wrong with the name of a pattern rule. -/
def patternFaults (t : TargetConfig) : List SetupError :=
  if afterLastSeparator t.name = "" then [.invalidPattern t.name .missingSimpleName]
  else if SimpleNamePattern.ofText? (afterLastSeparator t.name) = none then
    [.invalidPattern t.name .malformed]
  else []

/-- What is wrong with the methods of a rule. -/
def methodFaults (t : TargetConfig) : List SetupError :=
  (t.methods.filter fun m => m.name == "").map fun _ => .emptyMethodName t.name

/-- Everything that is wrong with a configured rule, in the order in which it is reported. -/
def faults (t : TargetConfig) : List SetupError :=
  (if t.name = "" then [.emptyTargetName] else []) ++
    ((if t.pattern then t.patternFaults else []) ++ t.methodFaults)

theorem patternFaults_eq_nil_iff :
    t.patternFaults = [] ↔ afterLastSeparator t.name ≠ "" ∧
      SimpleNamePattern.ofText? (afterLastSeparator t.name) ≠ none := by
  unfold patternFaults
  split <;> simp_all

theorem methodFaults_eq_nil_iff : t.methodFaults = [] ↔ ∀ m ∈ t.methods, m.name ≠ "" := by
  simp [methodFaults]

theorem faults_eq_nil_iff :
    t.faults = [] ↔ t.name ≠ "" ∧ (t.pattern = true → t.patternFaults = []) ∧
      t.methodFaults = [] := by
  simp [faults]

theorem head?_methodFaults {e : SetupError} :
    t.methodFaults.head? = some e ↔
      (∃ m ∈ t.methods, m.name = "") ∧ .emptyMethodName t.name = e := by
  rw [methodFaults, List.head?_map, Option.map_eq_some_iff]
  constructor
  · rintro ⟨m, hm, he⟩
    have hmem := List.mem_filter.1 (List.mem_of_head? hm)
    exact ⟨⟨m, hmem.1, by simpa using hmem.2⟩, he⟩
  · rintro ⟨hunnamed, he⟩
    cases hhead : (t.methods.filter fun m => m.name == "").head? with
    | some m => exact ⟨m, rfl, he⟩
    | none =>
        exfalso
        rw [List.head?_eq_none_iff, List.filter_eq_nil_iff] at hhead
        obtain ⟨m, hm, hname⟩ := hunnamed
        exact hhead m hm (by simpa using hname)

theorem bareRule_eq_error_iff {e : SetupError} :
    t.bareRule = .error e ↔ (if t.pattern then t.patternFaults else []).head? = some e := by
  unfold bareRule
  split
  · unfold Rule.pattern patternFaults
    dsimp only
    rw [splitUnitName_snd]
    split
    · simp
    · cases hread : SimpleNamePattern.ofText? (afterLastSeparator t.name) with
      | none => simp
      | some p => simp
  · simp

/-- **A configured rule is refused with the first of its faults.** -/
theorem toRule_eq_error_iff {e : SetupError} : t.toRule = .error e ↔ t.faults.head? = some e := by
  rw [toRule_eq, faults]
  by_cases hname : t.name = ""
  · rw [if_pos hname, if_pos hname, List.singleton_append, List.head?_cons, Option.some.injEq,
      Except.error.injEq]
  · rw [if_neg hname, if_neg hname, List.nil_append, List.head?_append]
    cases hbare : t.bareRule with
    | error fault =>
        rw [bareRule_eq_error_iff.1 hbare, Option.some_or, Option.some.injEq]
        exact Iff.of_eq (Except.error.injEq ..)
    | ok bare =>
        -- The name and the pattern are in order, so the first fault is one of the methods if there is any.
        have hpattern : (if t.pattern then t.patternFaults else []).head? = none := by
          rw [Option.eq_none_iff_forall_ne_some]
          intro e he
          rw [bareRule_eq_error_iff.2 he] at hbare
          cases hbare
        rw [hpattern, Option.none_or, head?_methodFaults]
        simp [ite_eq_iff]

/-- The name of a pattern rule is looked at before the names of its methods. -/
example : ((TargetConfig.ofPattern "com/acme/").addMethod {}).faults =
    [.invalidPattern "com/acme/" .missingSimpleName, .emptyMethodName "com/acme/"] := by
  decide +kernel

/-- **Which configured rules are refused.** -/
theorem exists_toRule_eq_error_iff :
    (∃ e, t.toRule = .error e) ↔ t.name = "" ∨
      (t.pattern = true ∧ (afterLastSeparator t.name = "" ∨
        SimpleNamePattern.ofText? (afterLastSeparator t.name) = none)) ∨
      ∃ m ∈ t.methods, m.name = "" := by
  have hfaults : (∃ e, t.toRule = .error e) ↔ t.faults ≠ [] := by
    simp only [toRule_eq_error_iff]
    cases t.faults <;> simp
  rw [hfaults, ne_eq, faults_eq_nil_iff, patternFaults_eq_nil_iff, methodFaults_eq_nil_iff]
  grind

end TargetConfig

section Conversion

variable {α β ε : Type} {f : α → Except ε β} {e : ε}

theorem mapM_cons_eq_error_iff {a : α} {as : List α} :
    (a :: as).mapM f = .error e ↔
      f a = .error e ∨ (∃ b, f a = .ok b) ∧ as.mapM f = .error e := by
  rw [List.mapM_cons]
  cases hfirst : f a with
  | error fault => simp [bind, Except.bind]
  | ok b =>
      cases as.mapM f with
      | error fault => simp [bind, Except.bind]
      | ok bs => simp [bind, Except.bind, pure, Except.pure]

/-- The conversion of a list fails with the error of the first element that is refused. -/
theorem mapM_eq_error_iff {as : List α} :
    as.mapM f = .error e ↔
      ∃ front a rest, as = front ++ a :: rest ∧ (∀ a' ∈ front, ∃ b, f a' = .ok b) ∧
        f a = .error e := by
  constructor
  · intro h
    induction as with
    | nil => cases h
    | cons first later ih =>
        rcases mapM_cons_eq_error_iff.1 h with hfirst | ⟨hfirst, hlater⟩
        · exact ⟨[], first, later, rfl, List.forall_mem_nil _, hfirst⟩
        · obtain ⟨front, a, rest, rfl, hfront, ha⟩ := ih hlater
          exact ⟨first :: front, a, rest, rfl, List.forall_mem_cons.2 ⟨hfirst, hfront⟩, ha⟩
  · rintro ⟨front, a, rest, rfl, hfront, ha⟩
    induction front with
    | nil => exact mapM_cons_eq_error_iff.2 (Or.inl ha)
    | cons first front ih =>
        obtain ⟨hfirst, hfront⟩ := List.forall_mem_cons.1 hfront
        exact mapM_cons_eq_error_iff.2 (Or.inr ⟨hfirst, ih hfront⟩)

/-- The conversion of a list fails if and only if one of its elements is refused. -/
theorem exists_mapM_eq_error_iff {as : List α} :
    (∃ e, as.mapM f = .error e) ↔ ∃ a ∈ as, ∃ e, f a = .error e := by
  induction as with
  | nil => simp [pure, Except.pure]
  | cons first later ih =>
      rw [List.exists_mem_cons_iff, ← ih]
      simp only [mapM_cons_eq_error_iff, exists_or, exists_and_left]
      cases f first with
      | error fault => simp
      | ok b => simp

end Conversion

end Instrumentation
