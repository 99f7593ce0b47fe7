import Instrumentation.Proofs.Registry.Effect
import Instrumentation.Proofs.Registry.BuiltIn

set_option autoImplicit false

/-!
# The last rule wins

Rules are added one after the other, and the last one with a key is the one that is kept. `lastExact?` and
`lastPattern?` name that rule in a list.

`foldl_last` is the argument for every view of a registry that each addition either sets or leaves alone. It
gives what a list of built-in rules and a list of configured rules do to the rules that wait for an unclaimed
unit (`find?_pending_install`, `find?_pending_addRules`) and to the pattern rules (`find?_patterns_addRules`).
-/

namespace Instrumentation

/-- The rule names the unit. -/
def Rule.isExactFor (unit : String) (rule : Rule) : Bool := !rule.isPattern && rule.name == unit

/-- The rule describes units of the package. -/
def Rule.isPatternOf (package : String) (rule : Rule) : Bool :=
  rule.isPattern && rule.key == package

/-- The last exact rule of a unit. -/
def lastExact? (rules : List Rule) (unit : String) : Option Rule :=
  (rules.filter (Rule.isExactFor unit)).getLast?

/-- The last pattern rule of a package. -/
def lastPattern? (rules : List Rule) (package : String) : Option Rule :=
  (rules.filter (Rule.isPatternOf package)).getLast?

theorem Rule.isExactFor_iff {unit : String} {rule : Rule} :
    rule.isExactFor unit = true ↔ rule.isPattern = false ∧ unit = rule.name := by
  rw [isExactFor, Bool.and_eq_true, Bool.not_eq_true', beq_iff_eq, eq_comm (a := rule.name)]

theorem Rule.isPatternOf_iff {package : String} {rule : Rule} :
    rule.isPatternOf package = true ↔ rule.isPattern = true ∧ package = rule.key := by
  rw [isPatternOf, Bool.and_eq_true, beq_iff_eq, eq_comm (a := rule.key)]

/-- The last of the kept elements, from the front. -/
theorem getLast?_filter_cons {α : Type} (p : α → Bool) (a : α) (as : List α) :
    ((a :: as).filter p).getLast? =
      ((as.filter p).getLast?).or (if p a then some a else none) := by
  cases hp : p a with
  | false => simp [hp]
  | true =>
      rw [List.filter_cons_of_pos hp, if_pos rfl, List.getLast?_cons]
      cases (as.filter p).getLast? <;> rfl

/-- Of several rules with different names, the last one of a unit is the only one. -/
theorem getLast?_filter_of_nodup {rules : List Rule} (h : (rules.map Rule.name).Nodup)
    (unit : String) :
    (rules.filter fun rule => rule.name == unit).getLast? =
      rules.find? fun rule => rule.name == unit := by
  induction rules with
  | nil => rfl
  | cons rule rest ih =>
      rw [List.map_cons, List.nodup_cons] at h
      rw [getLast?_filter_cons, List.find?_cons]
      cases hname : rule.name == unit with
      | false =>
          rw [ih h.2]
          exact Option.or_none
      | true =>
          -- The names are different, so no later rule names the unit.
          have hnone : rest.filter (fun next => next.name == unit) = [] := by
            refine List.filter_eq_nil_iff.2 fun next hnext hsame => h.1 ?_
            rw [eq_of_beq hname, ← eq_of_beq hsame]
            exact List.mem_map_of_mem hnext
          rw [hnone]
          rfl

/-- At most one built-in rule names a unit. -/
theorem lastExact?_builtInRules (s : BuiltInSelection) (unit : String) :
    lastExact? (builtInRules s) unit =
      (builtInRules s).find? fun rule => rule.name == unit := by
  rw [← getLast?_filter_of_nodup (BuiltIn.names_nodup s), lastExact?]
  congr 1
  refine List.filter_congr fun rule hrule => ?_
  rw [Rule.isExactFor, (BuiltIn.origin_of_mem hrule).2]
  rfl

namespace Registry

/-- Where an addition sets the view to the added rule, if the rule is one of the `wanted`, and leaves the view
alone otherwise, a list of additions sets it to the last wanted rule. -/
theorem foldl_last (view : Registry → Option Rule) {add : Registry → Rule → Registry}
    {J : Registry → Prop} (wanted : Rule → Bool) {rules : List Rule}
    (keeps : ∀ s, ∀ rule ∈ rules, J s → J (add s rule))
    (sets : ∀ s, ∀ rule ∈ rules, J s →
      view (add s rule) = if wanted rule then some rule else view s)
    {r : Registry} (hr : J r) :
    view (rules.foldl add r) = ((rules.filter wanted).getLast?).or (view r) := by
  induction rules generalizing r with
  | nil => rfl
  | cons rule rest ih =>
      -- The rest comes later, so what it sets hides what the first rule sets.
      have hrest := ih (fun s next hnext => keeps s next (List.mem_cons_of_mem rule hnext))
        (fun s next hnext => sets s next (List.mem_cons_of_mem rule hnext))
        (keeps r rule List.mem_cons_self hr)
      rw [List.foldl_cons, hrest, sets r rule List.mem_cons_self hr, getLast?_filter_cons,
        Option.or_assoc]
      cases wanted rule <;> rfl

/-- Adding a rule for an unclaimed unit sets the rule that waits, unless a built-in rule meets a configured
one. -/
theorem find?_pending_insert_of_free {r : Registry} {rule : Rule} {unit : String}
    (hfree : r.claimed.contains unit = false)
    (hwins : ∀ there, r.pending.find? unit = some there →
      rule.origin = .configured ∨ there.origin = .builtIn) :
    (r.insert rule).pending.find? unit =
      if rule.isExactFor unit then some rule else r.pending.find? unit := by
  rw [find?_pending_insert]
  by_cases hset : rule.isPattern = false ∧ unit = rule.name
  · rw [if_pos hset, if_pos (Rule.isExactFor_iff.2 hset)]
    obtain ⟨-, rfl⟩ := hset
    unfold settled
    cases hp : r.pending.find? rule.name with
    | none => simp [hfree]
    | some there => rcases hwins there hp with h | h <;> simp [h]
  · rw [if_neg hset, if_neg fun h => hset (Rule.isExactFor_iff.1 h)]

/-! ## Built-in rules -/

/-- The last built-in rule of an unclaimed unit waits for it, unless a configured rule does. -/
theorem find?_pending_install {r : Registry} {s : BuiltInSelection} {unit : String}
    (hfree : r.claimed.contains unit = false)
    (hbuilt : ∀ there, r.pending.find? unit = some there → there.origin = .builtIn) :
    (r.install s).pending.find? unit =
      (lastExact? (builtInRules s) unit).or (r.pending.find? unit) := by
  refine foldl_last (fun r => r.pending.find? unit) (Rule.isExactFor unit)
    (J := fun r => r.claimed.contains unit = false ∧
      ∀ there, r.pending.find? unit = some there → there.origin = .builtIn)
    ?_ ?_ (r := { r with builtInEnabled := s.enabled }) ⟨hfree, hbuilt⟩
  · rintro t rule hrule ⟨hfree, hbuilt⟩
    refine ⟨by rw [insert_claimed, hfree], fun there hthere => ?_⟩
    rcases t.pending_insert_mem hthere with hthere | ⟨rfl, -, -⟩
    · exact hbuilt there hthere
    · exact (BuiltIn.origin_of_mem hrule).1
  · rintro t rule - ⟨hfree, hbuilt⟩
    exact find?_pending_insert_of_free hfree fun there hthere => Or.inr (hbuilt there hthere)

/-- Built-in rules leave the pattern rules alone. -/
theorem find?_patterns_install (r : Registry) (s : BuiltInSelection) (package : String) :
    (r.install s).patterns.find? package = r.patterns.find? package := by
  refine List.foldlRecOn (motive := fun t => t.patterns.find? package = r.patterns.find? package)
    (builtInRules s) insert (b := { r with builtInEnabled := s.enabled }) rfl ?_
  intro t ht rule hrule
  rw [find?_patterns_insert, (BuiltIn.origin_of_mem hrule).2]
  exact ht

/-! ## Configured rules -/

section Configured

variable {r : Registry} {rules : List Rule} (hrules : ∀ rule ∈ rules, rule.origin = .configured)

include hrules

/-- The last configured rule of an unclaimed unit waits for it. For an excluded unit none is added. -/
theorem find?_pending_addRules {unit : String} (hfree : r.claimed.contains unit = false) :
    (rules.foldl addRule r).pending.find? unit =
      if r.isExcluded unit then r.pending.find? unit
      else (lastExact? rules unit).or (r.pending.find? unit) := by
  have hlast : (rules.foldl addRule r).pending.find? unit =
      (rules.filter fun rule => !r.isExcluded unit && rule.isExactFor unit).getLast?.or
        (r.pending.find? unit) :=
    foldl_last (fun s => s.pending.find? unit) _
      (J := fun s => s.claimed.contains unit = false ∧ s.excluded = r.excluded)
      ?keeps ?sets ⟨hfree, rfl⟩
  case keeps =>
    rintro s rule - ⟨hfree, hexcluded⟩
    exact ⟨by rw [addRule_claimed, hfree], (s.addRule_excluded rule).trans hexcluded⟩
  case sets =>
    rintro s rule hrule ⟨hfree, hexcluded⟩
    have hadd := find?_pending_insert_of_free hfree
      fun _ _ => Or.inl (hrules rule hrule)
    simp only [addRule]
    rw [dropsRule_congr hexcluded, dropsRule_of_configured r (hrules rule hrule)]
    cases hexact : rule.isExactFor unit with
    | false =>
        rw [hexact] at hadd
        split
        · simp
        · simpa using hadd
    | true =>
        rw [hexact] at hadd
        -- The rule names the unit, so the rule is dropped exactly when the unit is excluded.
        obtain ⟨-, rfl⟩ := Rule.isExactFor_iff.1 hexact
        cases r.isExcluded rule.name with
        | true => rfl
        | false => exact hadd
  rw [hlast, lastExact?]
  cases r.isExcluded unit with
  | true =>
      have hnone : rules.filter (fun rule => !true && rule.isExactFor unit) = [] :=
        List.filter_eq_nil_iff.2 fun _ _ => Bool.false_ne_true
      rw [hnone]
      rfl
  | false => rfl

/-- The last pattern rule of a package stands, of those whose own names are not excluded. -/
theorem find?_patterns_addRules (package : String) :
    (rules.foldl addRule r).patterns.find? package =
      (lastPattern? (rules.filter fun rule => !r.isExcluded rule.name) package).or
        (r.patterns.find? package) := by
  have hlast : (rules.foldl addRule r).patterns.find? package =
      (rules.filter fun rule => rule.isPatternOf package && !r.isExcluded rule.name).getLast?.or
        (r.patterns.find? package) :=
    foldl_last (fun s => s.patterns.find? package) _ (J := fun s => s.excluded = r.excluded)
      ?keeps ?sets rfl
  case keeps =>
    rintro s rule - hexcluded
    exact (s.addRule_excluded rule).trans hexcluded
  case sets =>
    rintro s rule hrule hexcluded
    simp only [addRule]
    rw [dropsRule_congr hexcluded, dropsRule_of_configured r (hrules rule hrule)]
    cases hdrop : r.isExcluded rule.name with
    | true => simp
    | false =>
        simp only [Bool.false_eq_true, if_false, Bool.not_false, Bool.and_true,
          find?_patterns_insert, Rule.isPatternOf_iff]
  rw [hlast, lastPattern?, List.filter_filter]

end Configured

end Registry

end Instrumentation
