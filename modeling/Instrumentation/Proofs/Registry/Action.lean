import Instrumentation.Proofs.Machine
import Instrumentation.Proofs.Registry.Effect

set_option autoImplicit false

/-!
# Interleaved actions on a registry

Several threads may use one registry at once: they configure it, match units and discover executors. What one
thread does to the registry is a list of atomic actions, and what all of them do is some interleaving of these
lists. `act` is one action. A statement about every list of actions is a statement about every interleaving.

A configuration is a list of actions (`after_configureActions`): every beginning, the removal of excluded
rules, and every single rule is an action of its own. Matching a unit is one action. Discovery asks the loader
in between, so its second half is an action too.

`Effect` lists what an action can do to the rules and to the claimed units, and `effect_act` says that there is
nothing else. What every action keeps is proved by cases on the effect: claimed units stay claimed, a unit whose
exact rule was claimed gets no other one, and rules stand under their keys. From this follow the bounds on the
plans of a run, and that every plan is for the unit that was asked about (`plan_unit_of_mem_given`).
-/

namespace Instrumentation

/-- What a plan comes from. -/
inductive PlanSource where
  /-- An exact rule that waited for the unit. -/
  | exactRule
  /-- The pattern rule of the unit's package. -/
  | patternRule
  /-- The loader's report that the unit is an executor. -/
  | discovery
deriving DecidableEq, Repr, Inhabited

/-- A plan that was given out, and the unit that was asked about. -/
structure Grant where
  source : PlanSource
  unit : String
  plan : Plan

/-- The plan comes from a source and was given to a unit. -/
def Grant.isOf (source : PlanSource) (unit : String) (g : Grant) : Bool :=
  g.source == source && g.unit == unit

theorem Grant.isOf_iff {source : PlanSource} {unit : String} {g : Grant} :
    g.isOf source unit = true ↔ g.source = source ∧ g.unit = unit := by
  simp [isOf]

namespace Registry

/-- What a plan for the unit would come from: matching tries the exact rule first. -/
def matchSource (r : Registry) (unit : String) : PlanSource :=
  if (r.claim? unit).isSome then .exactRule else .patternRule

/-- What matching a unit gives out. -/
def matchGrant (r : Registry) (unit : String) : Option Grant :=
  (r.matchUnit unit).1.map (Grant.mk (r.matchSource unit) unit)

/-- What discovering a unit gives out. -/
def discoverGrant (r : Registry) (introspect : Introspector) (unit : String) : Option Grant :=
  (r.discoverExecutor introspect unit).1.map (Grant.mk .discovery unit)

/-- An atomic action on a registry. -/
inductive Action where
  /-- One more beginning is excluded. -/
  | exclude (beginning : String)
  /-- Configured rules with excluded names are removed. -/
  | prune
  /-- It is noted whether built-in rules are on. -/
  | noteBuiltIn (enabled : Bool)
  /-- A single rule is added, built in or configured. -/
  | insert (rule : Rule)
  /-- A rule is refused because its name is excluded, and counted. -/
  | refuse
  | setDebugMode (on : Bool)
  /-- A unit is matched against the rules. -/
  | matchUnit (unit : String)
  /-- A whole discovery, from the first look at the claimed units to the plan. -/
  | discover (introspect : Introspector) (unit : String)
  /-- The second half of a discovery that another thread began some time ago. -/
  | conclude (unit : String) (answer : Introspection)

/-- Carries out an action. -/
def act : Machine Registry Action Grant
  | r, .exclude beginning => (none, r.addExclusions [beginning])
  | r, .prune => (none, r.prune)
  | r, .noteBuiltIn enabled => (none, { r with builtInEnabled := enabled })
  | r, .insert rule => (none, r.insert rule)
  | r, .refuse => (none, r.count .droppedExcluded)
  | r, .setDebugMode on => (none, r.setDebugMode on)
  | r, .matchUnit unit => (r.matchGrant unit, (r.matchUnit unit).2)
  | r, .discover introspect unit =>
      (r.discoverGrant introspect unit, (r.discoverExecutor introspect unit).2)
  | r, .conclude unit answer =>
      ((r.concludeDiscovery unit answer).1.map (Grant.mk .discovery unit),
        (r.concludeDiscovery unit answer).2)

/-! ## A configuration is a list of actions -/

/-- The actions of applying a configuration to a registry that no other thread uses. -/
def configureActions (r : Registry) (rules : List Rule) (beginnings : List String)
    (selection : BuiltInSelection) : List Action :=
  beginnings.map .exclude ++ [.prune, .noteBuiltIn selection.enabled] ++
    (builtInRules selection).map .insert ++
    rules.map fun rule =>
      if (r.addExclusions beginnings).dropsRule rule then .refuse else .insert rule

theorem after_exclude (r : Registry) (beginnings : List String) :
    act.after r (beginnings.map .exclude) = r.addExclusions beginnings := by
  induction beginnings generalizing r with
  | nil => rfl
  | cons b rest ih =>
      rw [List.map_cons, Machine.after_cons, ih]
      rfl

theorem after_insert (r : Registry) (rules : List Rule) :
    act.after r (rules.map .insert) = rules.foldl Registry.insert r := by
  induction rules generalizing r with
  | nil => rfl
  | cons rule rest ih =>
      rw [List.map_cons, Machine.after_cons, ih]
      rfl

/-- Which rules are refused depends on the exclusions alone, and these do not change any more. -/
theorem after_addRule {r s : Registry} (h : s.excluded = r.excluded) (rules : List Rule) :
    act.after s (rules.map fun rule => if r.dropsRule rule then .refuse else .insert rule) =
      rules.foldl addRule s := by
  induction rules generalizing s with
  | nil => rfl
  | cons rule rest ih =>
      rw [List.map_cons, Machine.after_cons, List.foldl_cons]
      have hstep : (act s (if r.dropsRule rule then .refuse else .insert rule)).2 =
          s.addRule rule := by
        rw [addRule, dropsRule_congr h]
        split <;> rfl
      rw [hstep]
      exact ih ((s.addRule_excluded rule).trans h)

/-- **Applying a configuration is carrying out its actions.** -/
theorem after_configureActions (r : Registry) (rules : List Rule) (beginnings : List String)
    (selection : BuiltInSelection) :
    act.after r (r.configureActions rules beginnings selection) =
      r.configure rules beginnings selection := by
  have hinstall : act.after (r.addExclusions beginnings)
      ([.prune, .noteBuiltIn selection.enabled] ++ (builtInRules selection).map .insert) =
        (r.addExclusions beginnings).prune.install selection :=
    after_insert _ _
  rw [configureActions, List.append_assoc (beginnings.map _), Machine.after_append,
    Machine.after_append, after_exclude, hinstall, configure]
  refine after_addRule ?_ rules
  rw [install_excluded, prune_excluded]

/-- Applying a configuration gives out nothing. -/
theorem given_configureActions (r : Registry) (rules : List Rule) (beginnings : List String)
    (selection : BuiltInSelection) :
    act.given r (r.configureActions rules beginnings selection) = [] := by
  refine Machine.given_eq_nil act ?_ r
  intro s a ha
  simp only [configureActions, List.mem_append, List.mem_map, List.mem_cons, List.not_mem_nil,
    or_false] at ha
  rcases ha with ((⟨b, -, rfl⟩ | rfl | rfl) | ⟨rule, -, rfl⟩) | ⟨rule, -, rfl⟩
  · rfl
  · rfl
  · rfl
  · rfl
  · split <;> rfl

/-! ## What an action gives out -/

theorem matchGrant_of_pending {r : Registry} {unit : String} {rule : Rule}
    (h : r.pending.find? unit = some rule) :
    r.matchGrant unit = some ⟨.exactRule, unit, .ofRule rule r.debugMode⟩ := by
  rw [matchGrant, matchUnit_of_pending h, matchSource, claim?_of_pending h]
  rfl

theorem matchGrant_of_not_pending {r : Registry} {unit : String}
    (h : r.pending.find? unit = none) :
    r.matchGrant unit = (r.matchPattern unit).1.map (Grant.mk .patternRule unit) := by
  rw [matchGrant, matchUnit_of_not_pending h, matchSource, claim?_of_not_pending h]
  rfl

theorem not_pending_of_matchGrant {r : Registry} {unit : String} (h : r.matchGrant unit = none) :
    r.pending.find? unit = none := by
  cases hp : r.pending.find? unit with
  | none => rfl
  | some rule =>
      rw [matchGrant_of_pending hp] at h
      cases h

theorem matchGrant_source_ne {r : Registry} {unit : String} {g : Grant}
    (h : r.matchGrant unit = some g) : g.source ≠ .discovery := by
  obtain ⟨plan, -, rfl⟩ := Option.map_eq_some_iff.1 h
  show r.matchSource unit ≠ .discovery
  unfold matchSource
  split <;> decide

/-- Discovery gives a plan to a unit that is not claimed, and claims it. -/
theorem discoverGrant_eq_some {r : Registry} {introspect : Introspector} {unit : String}
    {g : Grant} (h : r.discoverGrant introspect unit = some g) :
    g.unit = unit ∧ g.source = .discovery ∧ r.claimed.contains unit = false ∧
      (r.discoverExecutor introspect unit).2 = r.afterDiscovery unit := by
  rw [discoverGrant, discoverExecutor_eq] at h
  split at h
  · next hyes =>
    cases h
    exact ⟨rfl, rfl, hyes.2.1, by rw [discoverExecutor_eq, if_pos hyes]⟩
  · cases h

/-! ## What an action does -/

/-- The same rules wait, the same pattern rules stand, and the same units are claimed. -/
structure SameRules (r s : Registry) : Prop where
  pending : s.pending = r.pending
  patterns : s.patterns = r.patterns
  claimed : s.claimed = r.claimed

theorem SameRules.refl (r : Registry) : r.SameRules r := ⟨rfl, rfl, rfl⟩

theorem sameRules_matchPattern (r : Registry) (unit : String) :
    r.SameRules (r.matchPattern unit).2 :=
  have ⟨hpending, hpatterns, _, hclaimed⟩ := r.matchPattern_frame unit
  ⟨hpending, hpatterns, hclaimed⟩

/-- All that an action can do to the rules and to the claimed units, and what it gives out then. -/
inductive Effect (r : Registry) : Option Grant → Registry → Prop where
  | quiet {s : Registry} (same : r.SameRules s) : Effect r none s
  | pruned : Effect r none r.prune
  | added (rule : Rule) : Effect r none (r.insert rule)
  /-- A unit claims the exact rule that waits for it. -/
  | claimed {unit : String} {rule : Rule} (waits : r.pending.find? unit = some rule) :
      Effect r (some ⟨.exactRule, unit, .ofRule rule r.debugMode⟩) (r.afterClaim unit rule)
  /-- A unit that no exact rule waits for uses the pattern rule of its package. -/
  | matched {unit : String} {rule : Rule} {s : Registry} (waits : r.pending.find? unit = none)
      (stands : r.patternFor? unit = some rule) (same : r.SameRules s) :
      Effect r (some ⟨.patternRule, unit, .ofRule (rule.forUnit unit) r.debugMode⟩) s
  /-- A unit that is not claimed is found to be an executor. -/
  | discovered {unit : String} (free : r.claimed.contains unit = false) :
      Effect r (some ⟨.discovery, unit, .ofRule (threadPoolRule unit) r.debugMode⟩)
        (r.afterDiscovery unit)

theorem effect_matchUnit (r : Registry) (unit : String) :
    r.Effect (r.matchGrant unit) (r.matchUnit unit).2 := by
  cases hp : r.pending.find? unit with
  | some rule =>
      rw [matchGrant_of_pending hp, matchUnit_of_pending hp]
      exact .claimed hp
  | none =>
      have hsame := r.sameRules_matchPattern unit
      rw [matchGrant_of_not_pending hp, matchUnit_of_not_pending hp, matchPattern_fst]
      cases hrule : (r.patternFor? unit).filter fun rule =>
          !(rule.origin == .configured && r.isExcluded unit) with
      | none => exact .quiet hsame
      | some rule => exact .matched hp (Option.filter_eq_some_iff.1 hrule).1 hsame

theorem effect_conclude (r : Registry) (unit : String) (answer : Introspection) :
    r.Effect ((r.concludeDiscovery unit answer).1.map (Grant.mk .discovery unit))
      (r.concludeDiscovery unit answer).2 := by
  rw [concludeDiscovery_eq]
  split
  · next hyes => exact .discovered hyes.2
  · exact .quiet (SameRules.refl r)

theorem effect_discover (r : Registry) (introspect : Introspector) (unit : String) :
    r.Effect (r.discoverGrant introspect unit) (r.discoverExecutor introspect unit).2 := by
  rw [discoverGrant, discoverExecutor]
  split
  · exact r.effect_conclude unit (introspect unit)
  · exact .quiet (SameRules.refl r)

theorem effect_act (r : Registry) (a : Action) : r.Effect (act r a).1 (act r a).2 := by
  cases a with
  | exclude beginning => exact .quiet ⟨rfl, rfl, rfl⟩
  | prune => exact .pruned
  | noteBuiltIn enabled => exact .quiet ⟨rfl, rfl, rfl⟩
  | insert rule => exact .added rule
  | refuse => exact .quiet ⟨rfl, rfl, rfl⟩
  | setDebugMode on => exact .quiet ⟨rfl, rfl, rfl⟩
  | matchUnit unit => exact r.effect_matchUnit unit
  | discover introspect unit => exact r.effect_discover introspect unit
  | conclude unit answer => exact r.effect_conclude unit answer

theorem effect_of_given {r : Registry} {a : Action} {g : Grant} (h : (act r a).1 = some g) :
    r.Effect (some g) (act r a).2 := by
  rw [← h]
  exact r.effect_act a

namespace Effect

variable {r s : Registry} {given : Option Grant} {g : Grant}

/-- The plan of an exact rule is given out when that rule waits for the unit. -/
theorem of_exactRule (h : r.Effect (some g) s) (hs : g.source = .exactRule) :
    ∃ rule, r.pending.find? g.unit = some rule ∧ s = r.afterClaim g.unit rule := by
  cases h with
  | claimed waits => exact ⟨_, waits, rfl⟩
  | matched waits stands same => cases hs
  | discovered free => cases hs

/-- The plan of a discovery is given out when the unit is not claimed. -/
theorem of_discovery (h : r.Effect (some g) s) (hs : g.source = .discovery) :
    r.claimed.contains g.unit = false ∧ s = r.afterDiscovery g.unit := by
  cases h with
  | claimed waits => cases hs
  | matched waits stands same => cases hs
  | discovered free => exact ⟨free, rfl⟩

/-- Claimed units stay claimed. -/
theorem claimed_of_claimed {unit : String} (h : r.Effect given s)
    (hclaimed : r.claimed.contains unit = true) : s.claimed.contains unit = true := by
  cases h with
  | quiet same => rw [same.claimed, hclaimed]
  | pruned => exact hclaimed
  | added rule => rw [insert_claimed, hclaimed]
  | claimed waits => rw [claimed_afterClaim, hclaimed, Bool.or_true]
  | matched waits stands same => rw [same.claimed, hclaimed]
  | discovered free => rw [claimed_afterDiscovery, hclaimed, Bool.or_true]

end Effect

theorem claimed_act {r : Registry} (a : Action) {unit : String}
    (h : r.claimed.contains unit = true) : (act r a).2.claimed.contains unit = true :=
  (r.effect_act a).claimed_of_claimed h

/-! ## Consumed units -/

/-- A unit whose exact rule was claimed: it is claimed, and no rule waits for it. -/
def Consumed (unit : String) (r : Registry) : Prop :=
  r.claimed.contains unit = true ∧ r.pending.find? unit = none

/-- Once its exact rule was claimed, no rule comes to wait for a unit again. -/
theorem Effect.consumed {r s : Registry} {given : Option Grant} {unit : String}
    (h : r.Effect given s) (hconsumed : Consumed unit r) : Consumed unit s := by
  obtain ⟨hclaimed, hpending⟩ := hconsumed
  refine ⟨h.claimed_of_claimed hclaimed, ?_⟩
  -- Only an addition could make a rule wait, and it asks whether the unit is claimed.
  cases h with
  | quiet same => rw [same.pending, hpending]
  | pruned =>
      rw [find?_pending_prune, hpending]
      rfl
  | added rule => exact r.find?_pending_insert_of_claimed hclaimed hpending
  | claimed waits =>
      rw [find?_pending_afterClaim, hpending]
      exact ite_self none
  | matched waits stands same => rw [same.pending, hpending]
  | discovered free => rw [afterDiscovery_pending, hpending]

theorem consumed_act {unit : String} (r : Registry) (a : Action) (h : Consumed unit r) :
    Consumed unit (act r a).2 :=
  (r.effect_act a).consumed h

/-! ## Rules stand under their keys -/

/-- Exact rules wait under their names, pattern rules stand under their packages. -/
structure Keyed (r : Registry) : Prop where
  pending : ∀ unit rule, r.pending.find? unit = some rule →
    rule.isPattern = false ∧ rule.name = unit
  patterns : ∀ package rule, r.patterns.find? package = some rule →
    rule.isPattern = true ∧ rule.key = package

theorem keyed_initial : Keyed initial where
  pending unit rule h := by cases h
  patterns package rule h := by cases h

theorem Keyed.insert {r : Registry} (h : r.Keyed) (rule : Rule) : (r.insert rule).Keyed where
  pending unit waiting hp := by
    rcases r.pending_insert_mem hp with hp | ⟨rfl, rfl, hexact⟩
    · exact h.pending unit waiting hp
    · exact ⟨hexact, rfl⟩
  patterns package standing hp := by
    rcases r.patterns_insert_mem hp with hp | ⟨rfl, rfl, hpattern⟩
    · exact h.patterns package standing hp
    · exact ⟨hpattern, rfl⟩

theorem Keyed.prune {r : Registry} (h : r.Keyed) : r.prune.Keyed where
  pending unit rule hp := by
    rw [find?_pending_prune, Option.filter_eq_some_iff] at hp
    exact h.pending unit rule hp.1
  patterns package rule hp := by
    rw [find?_patterns_prune, Option.filter_eq_some_iff] at hp
    exact h.patterns package rule hp.1

theorem Keyed.afterClaim {r : Registry} (h : r.Keyed) (unit : String) (rule : Rule) :
    (r.afterClaim unit rule).Keyed where
  pending u waiting hp := by
    rw [find?_pending_afterClaim] at hp
    split at hp
    · cases hp
    · exact h.pending u waiting hp
  patterns := h.patterns

theorem Keyed.of_eq {r s : Registry} (h : r.Keyed) (hpending : s.pending = r.pending)
    (hpatterns : s.patterns = r.patterns) : s.Keyed where
  pending := hpending ▸ h.pending
  patterns := hpatterns ▸ h.patterns

theorem Effect.keyed {r s : Registry} {given : Option Grant} (h : r.Effect given s)
    (hkeyed : r.Keyed) : s.Keyed := by
  cases h with
  | quiet same => exact hkeyed.of_eq same.pending same.patterns
  | pruned => exact hkeyed.prune
  | added rule => exact hkeyed.insert rule
  | claimed waits => exact hkeyed.afterClaim _ _
  | matched waits stands same => exact hkeyed.of_eq same.pending same.patterns
  | discovered free => exact hkeyed.of_eq rfl rfl

theorem keyed_act (r : Registry) (a : Action) (h : r.Keyed) : (act r a).2.Keyed :=
  (r.effect_act a).keyed h

/-- Every plan is for the unit that was asked about. -/
theorem Effect.plan_unit {r s : Registry} {g : Grant} (h : r.Effect (some g) s)
    (hkeyed : r.Keyed) : g.plan.unit = g.unit := by
  cases h with
  | claimed waits => exact (hkeyed.pending _ _ waits).2
  | matched waits stands same => rfl
  | discovered free => rfl

/-- As long as rules stand under their keys, every plan is for the unit that was asked about. -/
theorem Keyed.plan_unit_of_mem_given {r : Registry} (h : r.Keyed) (actions : List Action) :
    ∀ g ∈ act.given r actions, g.plan.unit = g.unit :=
  Machine.forall_mem_given act keyed_act
    (fun _ _ _ hkeyed hg => (effect_of_given hg).plan_unit hkeyed) h actions

/-- From the first action on, every plan is for the unit that was asked about. -/
theorem plan_unit_of_mem_given (actions : List Action) :
    ∀ g ∈ act.given initial actions, g.plan.unit = g.unit :=
  keyed_initial.plan_unit_of_mem_given actions

/-! ## At most once -/

theorem not_exactRule_of_consumed {unit : String} (r : Registry) (a : Action) (g : Grant)
    (h : Consumed unit r) (hg : (act r a).1 = some g) : g.isOf .exactRule unit = false := by
  rw [Bool.eq_false_iff]
  intro hof
  obtain ⟨hs, rfl⟩ := Grant.isOf_iff.1 hof
  obtain ⟨rule, hp, -⟩ := (effect_of_given hg).of_exactRule hs
  rw [h.2] at hp
  cases hp

theorem consumed_of_exactRule {unit : String} (r : Registry) (a : Action) (g : Grant)
    (hg : (act r a).1 = some g) (hof : g.isOf .exactRule unit = true) :
    Consumed unit (act r a).2 := by
  obtain ⟨hs, rfl⟩ := Grant.isOf_iff.1 hof
  obtain ⟨rule, hp, hafter⟩ := (effect_of_given hg).of_exactRule hs
  rw [hafter]
  refine ⟨?_, ?_⟩
  · rw [claimed_afterClaim, beq_self_eq_true, Bool.true_or]
  · rw [find?_pending_afterClaim, if_pos rfl]

theorem not_discovery_of_claimed {unit : String} (r : Registry) (a : Action) (g : Grant)
    (h : r.claimed.contains unit = true) (hg : (act r a).1 = some g) :
    g.isOf .discovery unit = false := by
  rw [Bool.eq_false_iff]
  intro hof
  obtain ⟨hs, rfl⟩ := Grant.isOf_iff.1 hof
  have hfree := ((effect_of_given hg).of_discovery hs).1
  rw [h] at hfree
  cases hfree

theorem claimed_of_discovery {unit : String} (r : Registry) (a : Action) (g : Grant)
    (hg : (act r a).1 = some g) (hof : g.isOf .discovery unit = true) :
    (act r a).2.claimed.contains unit = true := by
  obtain ⟨hs, rfl⟩ := Grant.isOf_iff.1 hof
  rw [((effect_of_given hg).of_discovery hs).2, claimed_afterDiscovery,
    beq_self_eq_true, Bool.true_or]

/-- **Every unit has at most one plan from an exact rule and at most one from discovery**, in whatever order
the actions of all threads come. A unit whose exact rule was claimed stays claimed, and no later action, the
addition of a rule included, makes a rule wait for it again. -/
theorem exactRule_or_discovery_at_most_once (r : Registry) (actions : List Action)
    (unit : String) :
    (act.given r actions).countP (Grant.isOf .exactRule unit) ≤ 1 ∧
      (act.given r actions).countP (Grant.isOf .discovery unit) ≤ 1 ∧
      ∀ g ∈ act.given r actions, g.isOf .exactRule unit = true →
        (act.after r actions).claimed.contains unit = true ∧
          (act.after r actions).hasPending unit = false := by
  refine ⟨?_, ?_, ?_⟩
  · exact Machine.countP_given_le_one (Consumed unit) consumed_act not_exactRule_of_consumed
      consumed_of_exactRule r actions
  · exact Machine.countP_given_le_one (fun r => r.claimed.contains unit = true)
      (fun _ a => claimed_act a) not_discovery_of_claimed claimed_of_discovery r actions
  · intro g hg hof
    obtain ⟨hclaimed, hpending⟩ : Consumed unit (act.after r actions) :=
      Machine.spent_of_mem_given (Consumed unit) consumed_act consumed_of_exactRule hg hof
    refine ⟨hclaimed, ?_⟩
    rw [hasPending, Table.contains, hpending]
    rfl

/-- The first match gives the plan, and adding the rule again does not. -/
example :
    (act.given initial [.insert (.exact "com/acme/Job" .other), .matchUnit "com/acme/Job",
      .insert (.exact "com/acme/Job" .http), .matchUnit "com/acme/Job"]).map
        (fun g => (g.source, g.plan.kind)) = [(.exactRule, .other)] := by
  decide +kernel

end Registry

end Instrumentation
