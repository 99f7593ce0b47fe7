import Instrumentation.Proofs.Registry.Call
import Instrumentation.Proofs.Registry.Configuration

set_option autoImplicit false

/-!
# Configurations that come in several calls

A new registry may be told its rules and its exclusions at once or in portions, as long as every call selects the same
built-in rules and nobody asks the registry for anything in between. `HasSettings` says what the registry holds
afterwards, by all rules and all beginnings together: one call leads to it (`hasSettings_configure`), each further call
keeps it for the longer lists (`HasSettings.configure`), and therefore so does every run (`hasSettings_after`).

A rule that waits may be removed when a later beginning excludes it, where a single call would not have added it.
For exact rules that is the same, since all rules of a unit have one name. Pattern rules of a package may have several
names, and then a later rule replaces an earlier one before it is excluded itself; `OneNamePerPackage` is the condition
under which this cannot happen (`filter_lastPattern?`).
-/

namespace Instrumentation

namespace Registry

/-- What one of several calls brings along. -/
structure Portion where
  rules : List Rule := []
  beginnings : List String := []

namespace Portion

/-- The calls of a configuration in portions, all with one selection of built-in rules. -/
def calls (portions : List Portion) (selection : BuiltInSelection) : List Call :=
  portions.map fun p => .configure p.rules p.beginnings selection

/-- The rules of all portions in order. -/
def allRules (portions : List Portion) : List Rule := portions.flatMap Portion.rules

/-- The excluded beginnings of all portions in order. -/
def allBeginnings (portions : List Portion) : List String := portions.flatMap Portion.beginnings

@[simp] theorem allRules_cons (p : Portion) (rest : List Portion) :
    allRules (p :: rest) = p.rules ++ allRules rest := List.flatMap_cons

@[simp] theorem allBeginnings_cons (p : Portion) (rest : List Portion) :
    allBeginnings (p :: rest) = p.beginnings ++ allBeginnings rest := List.flatMap_cons

end Portion

/-- Pattern rules of one package have one name. -/
def OneNamePerPackage (rules : List Rule) : Prop :=
  ∀ rule ∈ rules, ∀ other ∈ rules, rule.isPattern = true → other.isPattern = true → rule.key = other.key →
    rule.name = other.name

theorem OneNamePerPackage.mono {rules part : List Rule} (h : OneNamePerPackage rules)
    (hsub : ∀ rule ∈ part, rule ∈ rules) : OneNamePerPackage part :=
  fun rule hrule other hother => h rule (hsub rule hrule) other (hsub other hother)

/-- Two registries hold the same rules and exclusions and agree on whether built-in rules are on. -/
structure SameSettings (r s : Registry) : Prop where
  pending : ∀ unit, r.pending.find? unit = s.pending.find? unit
  patterns : ∀ package, r.patterns.find? package = s.patterns.find? package
  excluded : ∀ b, r.excluded.contains b = s.excluded.contains b
  builtInEnabled : r.builtInEnabled = s.builtInEnabled

/-- A registry that was told all of this while nobody asked it for anything. -/
structure HasSettings (rules : List Rule) (beginnings : List String) (selection : BuiltInSelection)
    (r : Registry) : Prop where
  keyed : r.Keyed
  claimed : r.claimed = ∅
  excluded : ∀ b, b ∈ r.excluded.names ↔ b ∈ initial.excluded.names ∨ b ∈ beginnings
  builtInEnabled : r.builtInEnabled = selection.enabled
  pending : ∀ unit, r.pending.find? unit = ruleAfter rules selection unit (r.isExcluded unit) none
  patterns : ∀ package, r.patterns.find? package = patternAfter rules package r.isExcluded none

section Lists

variable {earlier later : List Rule} {selection : BuiltInSelection} {unit package : String}

/-! ## The rule of a unit -/

theorem lastExact?_append (earlier later : List Rule) (unit : String) :
    lastExact? (earlier ++ later) unit = (lastExact? later unit).or (lastExact? earlier unit) := by
  rw [lastExact?, List.filter_append, List.getLast?_append]
  rfl

/-- What waits after a first call is the last configured rule of the unit, as long as the unit is not excluded, and else
the built-in rule. -/
theorem filter_ruleAfter (hearlier : ∀ rule ∈ earlier, rule.origin = .configured)
    (selection : BuiltInSelection) (unit : String) (before : Bool) :
    ((ruleAfter earlier selection unit before none).filter fun rule => rule.origin == .configured) =
        (if before then none else lastExact? earlier unit) ∧
      (((builtInRules selection).find? fun rule => rule.name == unit).or
          ((ruleAfter earlier selection unit before none).filter fun rule => rule.origin == .builtIn)) =
        (builtInRules selection).find? fun rule => rule.name == unit := by
  have hconfigured : ∀ rule, (if before then none else lastExact? earlier unit) = some rule →
      rule.origin = .configured := by
    intro rule h
    cases before with
    | true => cases h
    | false => exact hearlier rule (List.mem_filter.1 (List.mem_of_getLast? h)).1
  -- A table holds one rule per unit, so the earlier calls left a configured rule or a built-in one, never both.
  simp only [ruleAfter, Option.filter_none, Option.or_none]
  cases hfirst : (if before then none else lastExact? earlier unit) with
  | some rule =>
      rw [Option.some_or, Option.filter_some, Option.filter_some, hconfigured rule hfirst]
      exact ⟨rfl, Option.or_none⟩
  | none =>
      rw [Option.none_or]
      cases hfound : (builtInRules selection).find? fun rule => rule.name == unit with
      | none => exact ⟨rfl, rfl⟩
      | some rule =>
          rw [Option.filter_some, (BuiltIn.origin_of_mem (List.mem_of_find?_eq_some hfound)).1]
          exact ⟨rfl, rfl⟩

/-- The rules of a call on top of the rules of earlier calls. A unit that was excluded is still excluded. -/
theorem ruleAfter_ruleAfter (hearlier : ∀ rule ∈ earlier, rule.origin = .configured) {before now : Bool}
    (hgrows : before = true → now = true) :
    ruleAfter later selection unit now (ruleAfter earlier selection unit before none) =
      ruleAfter (earlier ++ later) selection unit now none := by
  obtain ⟨hconfigured, hbuiltIn⟩ := filter_ruleAfter hearlier selection unit before
  rw [ruleAfter, hconfigured, hbuiltIn]
  simp only [ruleAfter, Option.filter_none, Option.or_none, lastExact?_append]
  cases now with
  | true => rfl
  | false =>
      cases before with
      -- An exclusion is never taken back.
      | true => exact absurd (hgrows rfl) Bool.false_ne_true
      | false => rfl

/-! ## The rule of a package -/

theorem lastPattern?_append (earlier later : List Rule) (package : String) :
    lastPattern? (earlier ++ later) package = (lastPattern? later package).or (lastPattern? earlier package) := by
  rw [lastPattern?, List.filter_append, List.getLast?_append]
  rfl

/-- A condition on names keeps all rules of one name or none. -/
theorem filter_name_of_same {rules : List Rule} {name : String} (h : ∀ rule ∈ rules, rule.name = name)
    (p : String → Bool) : (rules.filter fun rule => p rule.name) = if p name then rules else [] := by
  rw [List.filter_congr fun rule hrule => congrArg p (h rule hrule)]
  cases p name with
  | true => exact List.filter_eq_self.2 fun _ _ => rfl
  | false => exact List.filter_eq_nil_iff.2 fun _ _ => Bool.false_ne_true

theorem OneNamePerPackage.exists_name {rules : List Rule} (h : OneNamePerPackage rules) (package : String) :
    ∃ name, ∀ rule ∈ rules.filter (Rule.isPatternOf package), rule.name = name := by
  cases hwanted : rules.filter (Rule.isPatternOf package) with
  | nil => exact ⟨"", fun _ hrule => nomatch hrule⟩
  | cons first rest =>
      have hfirst : first ∈ rules.filter (Rule.isPatternOf package) := hwanted ▸ List.mem_cons_self
      rw [← hwanted]
      refine ⟨first.name, fun rule hrule => ?_⟩
      obtain ⟨hin, hof⟩ := List.mem_filter.1 hrule
      obtain ⟨hin', hof'⟩ := List.mem_filter.1 hfirst
      obtain ⟨hpattern, hkey⟩ := Rule.isPatternOf_iff.1 hof
      obtain ⟨hpattern', hkey'⟩ := Rule.isPatternOf_iff.1 hof'
      exact h rule hin first hin' hpattern hpattern' (hkey.symm.trans hkey')

/-- Where the rules of a package have one name, it makes no difference whether names are excluded before the last of
the rules is found or afterwards. -/
theorem filter_lastPattern? {rules : List Rule} (h : OneNamePerPackage rules) {before now : String → Bool}
    (hgrows : ∀ name, before name = true → now name = true) (package : String) :
    (lastPattern? (rules.filter fun rule => !before rule.name) package).filter (fun rule => !now rule.name) =
      lastPattern? (rules.filter fun rule => !now rule.name) package := by
  obtain ⟨name, hname⟩ := h.exists_name package
  -- All rules of the package stay or go together, so the last one that stays is the last one.
  have hlast : ∀ excluded : String → Bool,
      lastPattern? (rules.filter fun rule => !excluded rule.name) package =
        if excluded name then none else lastPattern? rules package := by
    intro excluded
    have hcomm : (rules.filter fun rule => !excluded rule.name).filter (Rule.isPatternOf package) =
        (rules.filter (Rule.isPatternOf package)).filter fun rule => !excluded rule.name := by
      rw [List.filter_filter, List.filter_filter]
      exact List.filter_congr fun rule _ => Bool.and_comm ..
    rw [lastPattern?, lastPattern?, hcomm, filter_name_of_same hname fun n => !excluded n]
    cases excluded name <;> rfl
  rw [hlast before, hlast now]
  cases hnow : now name with
  | true =>
      cases before name with
      | true => rfl
      | false =>
          refine Option.filter_eq_none_iff.2 fun rule hrule => ?_
          rw [hname rule (List.mem_of_getLast? hrule), hnow]
          exact Bool.false_ne_true
  | false =>
      have hbefore : before name = false := by
        rw [← Bool.not_eq_true]
        exact fun hbefore => Bool.false_ne_true (hnow.symm.trans (hgrows name hbefore))
      rw [hbefore, if_neg Bool.false_ne_true]
      cases hlast : lastPattern? rules package with
      | none => rfl
      | some rule =>
          rw [Option.filter_some, hname rule (List.mem_of_getLast? hlast), hnow]
          rfl

/-- The rules of a call on top of the rules of earlier calls. -/
theorem patternAfter_patternAfter (hearlier : ∀ rule ∈ earlier, rule.origin = .configured)
    (hname : OneNamePerPackage earlier) {before now : String → Bool}
    (hgrows : ∀ name, before name = true → now name = true) :
    patternAfter later package now (patternAfter earlier package before none) =
      patternAfter (earlier ++ later) package now none := by
  have hkept : (lastPattern? (earlier.filter fun rule => !before rule.name) package).filter
      (fun rule => rule.origin == .builtIn || !now rule.name) =
        lastPattern? (earlier.filter fun rule => !now rule.name) package := by
    rw [← filter_lastPattern? hname hgrows package]
    cases hlast : lastPattern? (earlier.filter fun rule => !before rule.name) package with
    | none => rfl
    | some rule =>
        have hin : rule ∈ earlier :=
          (List.mem_filter.1 (List.mem_filter.1 (List.mem_of_getLast? hlast)).1).1
        rw [Option.filter_some, Option.filter_some, hearlier rule hin]
        rfl
  simp only [patternAfter, Option.filter_none, Option.or_none]
  rw [hkept, List.filter_append, lastPattern?_append]

end Lists

/-! ## Calls one after the other -/

section Calls

variable {r : Registry} {earlier later : List Rule} {before beginnings : List String}
  {selection : BuiltInSelection}

/-- One call on a new registry. -/
theorem hasSettings_configure (rules : List Rule) (beginnings : List String) (selection : BuiltInSelection)
    (hrules : ∀ rule ∈ rules, rule.origin = .configured) :
    HasSettings rules beginnings selection (initial.configure rules beginnings selection) := by
  have heffect := configurationEffect beginnings selection hrules keyed_initial fun _ h => nomatch h
  refine ⟨?_, ?_, heffect.excluded, configure_builtInEnabled _ _ _ _, fun unit => ?_, heffect.patterns⟩
  · exact serve_invariant keyed_act initial (.configure rules beginnings selection) keyed_initial
  · rw [configure_claimed]
    rfl
  · exact heffect.pending unit rfl

/-- A further call. -/
theorem HasSettings.configure (h : HasSettings earlier before selection r)
    (hearlier : ∀ rule ∈ earlier, rule.origin = .configured) (hname : OneNamePerPackage earlier)
    (hlater : ∀ rule ∈ later, rule.origin = .configured) (beginnings : List String) :
    HasSettings (earlier ++ later) (before ++ beginnings) selection
      (r.configure later beginnings selection) := by
  have hfree : ∀ unit, r.claimed.contains unit = false := by
    intro unit
    rw [h.claimed]
    rfl
  have heffect := configurationEffect beginnings selection hlater h.keyed
    fun unit hclaimed => absurd hclaimed (Bool.eq_false_iff.1 (hfree unit))
  have hgrows : ∀ name, r.isExcluded name = true →
      (r.configure later beginnings selection).isExcluded name = true :=
    fun name => isExcluded_mono fun b hb => (heffect.excluded b).2 (Or.inl hb)
  refine ⟨?_, ?_, fun b => ?_, configure_builtInEnabled _ _ _ _, fun unit => ?_, fun package => ?_⟩
  · exact serve_invariant keyed_act r (.configure later beginnings selection) h.keyed
  · rw [configure_claimed, h.claimed]
  · rw [heffect.excluded, h.excluded, List.mem_append, or_assoc]
  · rw [heffect.pending unit (hfree unit), h.pending, ruleAfter_ruleAfter hearlier (hgrows unit)]
  · rw [heffect.patterns, h.patterns, patternAfter_patternAfter hearlier hname hgrows]

/-- Any number of further calls. -/
theorem hasSettings_after {rest : List Portion} (h : HasSettings earlier before selection r)
    (hrules : ∀ rule ∈ earlier ++ Portion.allRules rest, rule.origin = .configured)
    (hname : OneNamePerPackage (earlier ++ Portion.allRules rest)) :
    HasSettings (earlier ++ Portion.allRules rest) (before ++ Portion.allBeginnings rest) selection
      (serve.after r (Portion.calls rest selection)) := by
  induction rest generalizing earlier before r with
  | nil => simpa [Portion.allRules, Portion.allBeginnings, Portion.calls] using h
  | cons p rest ih =>
      rw [Portion.allRules_cons, ← List.append_assoc] at hrules hname ⊢
      rw [Portion.allBeginnings_cons, ← List.append_assoc]
      have hfirst : ∀ rule ∈ earlier ++ p.rules, rule.origin = .configured :=
        fun rule hrule => hrules rule (List.mem_append_left _ hrule)
      -- The portion joins what was told before it.
      refine ih (h.configure ?_ ?_ ?_ p.beginnings) hrules hname
      · exact fun rule hrule => hfirst rule (List.mem_append_left _ hrule)
      · exact hname.mono fun rule hrule => List.mem_append_left _ (List.mem_append_left _ hrule)
      · exact fun rule hrule => hfirst rule (List.mem_append_right _ hrule)

/-- All calls on a new registry. -/
theorem hasSettings_calls (first : Portion) (rest : List Portion) (selection : BuiltInSelection)
    (hrules : ∀ rule ∈ Portion.allRules (first :: rest), rule.origin = .configured)
    (hname : OneNamePerPackage (Portion.allRules (first :: rest))) :
    HasSettings (Portion.allRules (first :: rest)) (Portion.allBeginnings (first :: rest)) selection
      (serve.after initial (Portion.calls (first :: rest) selection)) := by
  rw [Portion.allRules_cons] at hrules hname
  exact hasSettings_after (hasSettings_configure first.rules first.beginnings selection
    fun rule hrule => hrules rule (List.mem_append_left _ hrule)) hrules hname

end Calls

/-- What was told determines the settings, and the order of the excluded beginnings does not matter. -/
theorem HasSettings.sameSettings {rules : List Rule} {beginnings beginnings' : List String}
    {selection : BuiltInSelection} {r s : Registry} (hr : HasSettings rules beginnings selection r)
    (hs : HasSettings rules beginnings' selection s) (hsame : ∀ b, b ∈ beginnings ↔ b ∈ beginnings') :
    SameSettings r s := by
  have hnames : ∀ b, b ∈ r.excluded.names ↔ b ∈ s.excluded.names := by
    intro b
    rw [hr.excluded, hs.excluded, hsame]
  have hexcluded : r.isExcluded = s.isExcluded := by
    funext name
    exact Bool.eq_iff_iff.2
      ⟨isExcluded_mono fun b => (hnames b).1, isExcluded_mono fun b => (hnames b).2⟩
  refine ⟨fun unit => ?_, fun package => ?_, fun b => ?_, ?_⟩
  · rw [hr.pending, hs.pending, hexcluded]
  · rw [hr.patterns, hs.patterns, hexcluded]
  · rw [NameSet.contains, NameSet.contains, Bool.eq_iff_iff, List.contains_iff_mem, List.contains_iff_mem]
    exact hnames b
  · rw [hr.builtInEnabled, hs.builtInEnabled]

/-- **A configuration may come in portions.** The calls of a configuration in portions leave a new registry with the
settings that one call with all rules and all beginnings gives it. So two ways to hand over the same rules and the same
beginnings, early or late, give the same settings; and for an excluded unit there waits its built-in rule, whatever
configured rules it had and whenever the exclusion came. -/
theorem sameSettings_of_portions (first : Portion) (rest : List Portion) (selection : BuiltInSelection)
    (hrules : ∀ rule ∈ Portion.allRules (first :: rest), rule.origin = .configured)
    (hname : OneNamePerPackage (Portion.allRules (first :: rest))) :
    SameSettings (serve.after initial (Portion.calls (first :: rest) selection))
        (initial.configure (Portion.allRules (first :: rest)) (Portion.allBeginnings (first :: rest)) selection) ∧
      (∀ (first' : Portion) (rest' : List Portion),
        Portion.allRules (first' :: rest') = Portion.allRules (first :: rest) →
        (∀ b, b ∈ Portion.allBeginnings (first' :: rest') ↔ b ∈ Portion.allBeginnings (first :: rest)) →
          SameSettings (serve.after initial (Portion.calls (first' :: rest') selection))
            (serve.after initial (Portion.calls (first :: rest) selection))) ∧
      ∀ unit, (serve.after initial (Portion.calls (first :: rest) selection)).isExcluded unit = true →
        (serve.after initial (Portion.calls (first :: rest) selection)).pending.find? unit =
          (builtInRules selection).find? fun rule => rule.name == unit := by
  have hsplit := hasSettings_calls first rest selection hrules hname
  refine ⟨?_, fun first' rest' hall hbeginnings => ?_, fun unit hexcluded => ?_⟩
  · exact hsplit.sameSettings (hasSettings_configure _ _ selection hrules) fun _ => Iff.rfl
  · have hother := hasSettings_calls first' rest' selection (hall ▸ hrules) (hall ▸ hname)
    rw [hall] at hother
    exact hother.sameSettings hsplit hbeginnings
  · rw [hsplit.pending, hexcluded, ruleAfter, if_pos rfl, Option.filter_none, Option.or_none, Option.none_or]

/-- A pattern rule, in one of its versions. -/
def jobsRule (kind : UnitKind) : Rule := (Rule.pattern "com/acme/(Mail|Print)Job" kind).toOption.getD (.exact "" kind)

/-- The first call has a pattern rule and overrides a built-in rule. -/
def overridingPortion : Portion := { rules := [jobsRule .http, .exact "okhttp3/RealCall" .other] }

/-- A later call excludes the override, and the last one replaces the pattern rule. -/
def latePortions : List Portion := [{ beginnings := ["okhttp3/"] }, { rules := [jobsRule .other] }]

/-- The late exclusion hands the unit back to the built-in rule, and the pattern rule is the one of the last call, just
as if all had come at once. -/
theorem sameSettings_of_portions_override_excluded :
    (∀ rule ∈ Portion.allRules (overridingPortion :: latePortions), rule.origin = .configured) ∧
      OneNamePerPackage (Portion.allRules (overridingPortion :: latePortions)) ∧
      ((serve.after initial (Portion.calls (overridingPortion :: latePortions) .all)).pending.find?
        "okhttp3/RealCall").map Rule.origin = some .builtIn ∧
      ((serve.after initial (Portion.calls (overridingPortion :: latePortions) .all)).patterns.find?
        "com/acme/").map Rule.kind = some .other := by
  have hrules : ∀ rule ∈ Portion.allRules (overridingPortion :: latePortions), rule.origin = .configured := by
    decide +kernel
  have hname : OneNamePerPackage (Portion.allRules (overridingPortion :: latePortions)) := by
    unfold OneNamePerPackage
    decide +kernel
  obtain ⟨hsame, -, hbuiltIn⟩ := sameSettings_of_portions overridingPortion latePortions .all hrules hname
  refine ⟨hrules, hname, ?_, ?_⟩
  · rw [hbuiltIn "okhttp3/RealCall" (by decide +kernel)]
    decide +kernel
  · rw [hsame.patterns]
    decide +kernel

/-- Rules of several names for one package: the later one replaces the earlier one before it is excluded itself. -/
def tasksRule : Rule := (Rule.pattern "com/acme/(Mail|Print)Task" .other).toOption.getD (.exact "" .other)

example :
    ((serve.after initial (Portion.calls [{ rules := [jobsRule .other, tasksRule] },
      { beginnings := ["com/acme/(Mail|Print)T"] }] .none)).patterns.find? "com/acme/").isSome = false ∧
    ((initial.configure [jobsRule .other, tasksRule] ["com/acme/(Mail|Print)T"] .none).patterns.find?
      "com/acme/").isSome = true := by
  decide +kernel

end Registry

end Instrumentation
