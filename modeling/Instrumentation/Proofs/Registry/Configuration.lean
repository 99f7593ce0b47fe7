import Instrumentation.Proofs.Registry.Action
import Instrumentation.Proofs.Registry.LastRule

set_option autoImplicit false

/-!
# What a configuration does to a registry

A configuration is applied in five passes: it adds beginnings, removes rules, installs built-in rules, drops
configured ones and adds the rest. `ConfigurationEffect` says what comes of all five together, for every unit
and every package, without the passes: `ruleAfter` and `patternAfter` name the rule that is there afterwards.

`configurationEffect` proves it for registries in which rules stand under their keys and no rule waits for a
claimed unit. The first is so in every run. The second (`Separate`) holds as long as nobody claims a unit by
discovery that a rule waits for; the passes never add a rule for a claimed unit, but they replace one.
-/

namespace Instrumentation

namespace Registry

/-- No rule waits for a claimed unit. -/
def Separate (r : Registry) : Prop :=
  ∀ unit, r.claimed.contains unit = true → r.pending.find? unit = none

/-- The exact rule of a unit that is not claimed, after a configuration. The last configured rule of the unit
comes first, then the configured rule that waited `before`; neither counts for an excluded unit. Then comes the
selected built-in rule, and then the built-in rule that waited before. -/
def ruleAfter (rules : List Rule) (selection : BuiltInSelection) (unit : String) (excluded : Bool)
    (before : Option Rule) : Option Rule :=
  (if excluded then none
    else (lastExact? rules unit).or (before.filter fun rule => rule.origin == .configured)).or
  (((builtInRules selection).find? fun rule => rule.name == unit).or
    (before.filter fun rule => rule.origin == .builtIn))

/-- The pattern rule of a package after a configuration. It is the last configured one whose own name is not
excluded, and else the one that stood `before`, unless it is configured and its name is excluded by now. -/
def patternAfter (rules : List Rule) (package : String) (excluded : String → Bool)
    (before : Option Rule) : Option Rule :=
  (lastPattern? (rules.filter fun rule => !excluded rule.name) package).or
    (before.filter fun rule => rule.origin == .builtIn || !excluded rule.name)

/-- A configuration takes the registry `r` to the registry `s`. -/
structure ConfigurationEffect (r : Registry) (rules : List Rule) (beginnings : List String)
    (selection : BuiltInSelection) (s : Registry) : Prop where
  excluded : ∀ b, b ∈ s.excluded.names ↔ b ∈ r.excluded.names ∨ b ∈ beginnings
  claimed : s.claimed = r.claimed
  index : s.index = r.index
  debugMode : s.debugMode = r.debugMode
  /-- No rule waits for a claimed unit. -/
  pending_claimed : ∀ unit, r.claimed.contains unit = true → s.pending.find? unit = none
  /-- The exclusions that count are the new ones. -/
  pending : ∀ unit, r.claimed.contains unit = false → s.pending.find? unit =
    ruleAfter rules selection unit (s.isExcluded unit) (r.pending.find? unit)
  patterns : ∀ package, s.patterns.find? package =
    patternAfter rules package s.isExcluded (r.patterns.find? package)

/-! ## The passes -/

section Passes

variable {r : Registry} {unit : String}

/-- A built-in rule leaves a configured one alone that waits. -/
theorem find?_pending_insert_of_configured {rule there : Rule}
    (hthere : r.pending.find? unit = some there) (horigin : there.origin = .configured)
    (hbuilt : rule.origin = .builtIn) : (r.insert rule).pending.find? unit = some there := by
  rw [find?_pending_insert]
  split
  · next hset =>
    obtain ⟨-, rfl⟩ := hset
    simp [settled, hthere, horigin, hbuilt]
  · exact hthere

theorem find?_pending_install_of_configured {s : BuiltInSelection} {there : Rule}
    (hthere : r.pending.find? unit = some there) (horigin : there.origin = .configured) :
    (r.install s).pending.find? unit = some there := by
  refine List.foldlRecOn (motive := fun t => t.pending.find? unit = some there) (builtInRules s)
    insert (b := { r with builtInEnabled := s.enabled }) hthere ?_
  intro t ht rule hrule
  exact find?_pending_insert_of_configured ht horigin (BuiltIn.origin_of_mem hrule).1

/-- What waits for an unclaimed unit once built-in rules are installed: a configured rule that waited, or else the
built-in rule, or else what waited. -/
theorem find?_pending_install_eq {s : BuiltInSelection} (hfree : r.claimed.contains unit = false) :
    (r.install s).pending.find? unit =
      ((r.pending.find? unit).filter fun rule => rule.origin == .configured).or
        (((builtInRules s).find? fun rule => rule.name == unit).or (r.pending.find? unit)) := by
  cases hp : r.pending.find? unit with
  | none =>
      have hnone : ∀ there, r.pending.find? unit = some there → there.origin = .builtIn := by
        intro there hthere
        rw [hp] at hthere
        cases hthere
      rw [find?_pending_install hfree hnone, lastExact?_builtInRules, hp]
      rfl
  | some there =>
      cases horigin : there.origin with
      | configured =>
          rw [find?_pending_install_of_configured hp horigin]
          simp [Option.filter_some, horigin]
      | builtIn =>
          have hbuilt : ∀ rule, r.pending.find? unit = some rule → rule.origin = .builtIn := by
            intro rule hrule
            rw [hp] at hrule
            cases hrule
            exact horigin
          rw [find?_pending_install hfree hbuilt, lastExact?_builtInRules, hp]
          simp [Option.filter_some, horigin]

/-- What is left of a rule that waits once the excluded configured rules are removed. -/
theorem find?_pending_prune_of_keyed (hkeyed : r.Keyed) (beginnings : List String) :
    (r.addExclusions beginnings).prune.pending.find? unit =
      (r.pending.find? unit).filter fun rule =>
        !(rule.origin == .configured && (r.addExclusions beginnings).isExcluded unit) := by
  rw [find?_pending_prune]
  show (r.pending.find? unit).filter _ = _
  cases hp : r.pending.find? unit with
  | none => rfl
  | some rule =>
      -- The rule waits under its own name, so its name is excluded exactly when the unit is.
      have hname : rule.name = unit := (hkeyed.pending unit rule hp).2
      rw [Option.filter_some, Option.filter_some, dropsRule, hname]

end Passes

/-! ## All passes together -/

section Configure

variable {r : Registry} {rules : List Rule} (beginnings : List String) (selection : BuiltInSelection)

variable (rules) in
/-- The exclusions after a configuration are those with which its rules are judged. -/
theorem isExcluded_configure (name : String) :
    (r.configure rules beginnings selection).isExcluded name =
      (r.addExclusions beginnings).isExcluded name :=
  isExcluded_congr (r.configure_excluded rules beginnings selection) name

theorem separate_configure (hseparate : r.Separate) :
    (r.configure rules beginnings selection).Separate := by
  intro unit hclaimed
  rw [configure_claimed] at hclaimed
  have hconsumed : Consumed unit r := ⟨hclaimed, hseparate unit hclaimed⟩
  have hafter : Consumed unit (r.configure rules beginnings selection) := by
    rw [← after_configureActions]
    exact Machine.invariant_run act consumed_act hconsumed _
  exact hafter.2

variable (hrules : ∀ rule ∈ rules, rule.origin = .configured)

include hrules

theorem find?_pending_configure (hkeyed : r.Keyed) {unit : String}
    (hfree : r.claimed.contains unit = false) :
    (r.configure rules beginnings selection).pending.find? unit =
      ruleAfter rules selection unit ((r.configure rules beginnings selection).isExcluded unit)
        (r.pending.find? unit) := by
  have hinstalled : ((r.addExclusions beginnings).prune.install selection).claimed.contains unit =
      false := by
    rw [install_claimed, prune_claimed, addExclusions_claimed, hfree]
  have hexcluded : ((r.addExclusions beginnings).prune.install selection).isExcluded unit =
      (r.addExclusions beginnings).isExcluded unit :=
    isExcluded_congr (install_excluded ..) unit
  rw [isExcluded_configure, configure, find?_pending_addRules hrules hinstalled, hexcluded,
    find?_pending_install_eq (by rw [prune_claimed, addExclusions_claimed, hfree]),
    find?_pending_prune_of_keyed hkeyed, ruleAfter]
  -- Both sides are now made of the same four rules; what waited before decides which of them is there.
  cases (r.addExclusions beginnings).isExcluded unit with
  | true =>
      cases r.pending.find? unit with
      | none => simp
      | some there => cases horigin : there.origin <;> simp [Option.filter_some, horigin]
  | false =>
      cases r.pending.find? unit with
      | none => simp
      | some there => cases horigin : there.origin <;> simp [Option.filter_some, horigin]

theorem find?_patterns_configure (package : String) :
    (r.configure rules beginnings selection).patterns.find? package =
      patternAfter rules package (r.configure rules beginnings selection).isExcluded
        (r.patterns.find? package) := by
  have hexcluded : ((r.addExclusions beginnings).prune.install selection).isExcluded =
      (r.configure rules beginnings selection).isExcluded := by
    funext name
    rw [isExcluded_configure]
    exact isExcluded_congr (install_excluded ..) name
  rw [configure, find?_patterns_addRules hrules, find?_patterns_install, find?_patterns_prune,
    ← configure, hexcluded, patternAfter]
  congr 1
  show (r.patterns.find? package).filter _ = _
  congr 1
  funext rule
  rw [dropsRule, ← isExcluded_configure rules beginnings selection]
  cases rule.origin <;> rfl

/-- What a configuration does to a registry whose rules stand under their keys and in which no rule waits for a
claimed unit. -/
theorem configurationEffect (hkeyed : r.Keyed) (hseparate : r.Separate) :
    ConfigurationEffect r rules beginnings selection
      (r.configure rules beginnings selection) where
  excluded b := by
    rw [configure_excluded, NameSet.mem_insertAll, or_comm]
  claimed := r.configure_claimed rules beginnings selection
  index := r.configure_index rules beginnings selection
  debugMode := r.configure_debugMode rules beginnings selection
  pending_claimed unit hclaimed := by
    refine separate_configure beginnings selection hseparate unit ?_
    rw [configure_claimed, hclaimed]
  pending _ hfree := find?_pending_configure beginnings selection hrules hkeyed hfree
  patterns package := find?_patterns_configure beginnings selection hrules package

end Configure

end Registry

end Instrumentation
