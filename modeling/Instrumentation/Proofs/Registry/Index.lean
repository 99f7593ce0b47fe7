import Instrumentation.Proofs.Registry.Action

set_option autoImplicit false

/-!
# The index of units over a run

The index is written when a plan is given out, and at no other time (`tells_act`). So after a run the index knows
a unit by the kind of the latest plan that was given out for it (`tells_run`).

`UnitIndex.Tells` compares the index before and after with the plans in between. Such comparisons compose, so
`Machine.tells_run` carries them from the steps of a machine to its runs.
-/

namespace Instrumentation

/-- The latest of some plans that is for a unit. -/
def latestPlan? (grants : List Grant) (unit : String) : Option Plan :=
  ((grants.map Grant.plan).filter fun plan => plan.unit == unit).getLast?

theorem latestPlan?_append (before later : List Grant) (unit : String) :
    latestPlan? (before ++ later) unit = (latestPlan? later unit).or (latestPlan? before unit) := by
  rw [latestPlan?, List.map_append, List.filter_append, List.getLast?_append]
  rfl

namespace UnitIndex

/-- Some plans are all that an index was told between two moments: a unit is known by the latest plan for it, and
otherwise as before. -/
def Tells (grants : List Grant) (before after : UnitIndex) : Prop :=
  ∀ unit, after.kindOf? unit =
    ((latestPlan? grants unit).map Plan.kind).or (before.kindOf? unit)

theorem tells_nil (index : UnitIndex) : Tells [] index index := fun _ => rfl

/-- The index notes the plan that is given out. -/
theorem tells_record (index : UnitIndex) (g : Grant) :
    Tells [g] index (index.record g.plan.unit g.plan.kind) := by
  intro unit
  rw [kindOf?_record]
  by_cases hunit : unit = g.plan.unit
  · subst hunit
    simp [latestPlan?]
  · have hne : (g.plan.unit == unit) = false := by
      rw [beq_eq_false_iff_ne]
      exact Ne.symm hunit
    simp [latestPlan?, hunit, hne]

theorem Tells.append {first second : List Grant} {i j k : UnitIndex} (h : Tells first i j)
    (h' : Tells second j k) : Tells (first ++ second) i k := by
  intro unit
  rw [h' unit, h unit, latestPlan?_append]
  cases latestPlan? second unit with
  | none => rfl
  | some plan => rfl

end UnitIndex

/-- If each step tells an index the plans that it gives out, so does a run. -/
theorem Machine.tells_run {S A : Type} (m : Machine S A Grant) (index : S → UnitIndex)
    {inputs : List A}
    (tells : ∀ s, ∀ a ∈ inputs, UnitIndex.Tells (m s a).1.toList (index s) (index (m s a).2))
    (s : S) : UnitIndex.Tells (given m s inputs) (index s) (index (after m s inputs)) := by
  induction inputs generalizing s with
  | nil => exact UnitIndex.tells_nil (index s)
  | cons a rest ih =>
      rw [given_cons, after_cons]
      exact (tells s a List.mem_cons_self).append
        (ih (fun t b hb => tells t b (List.mem_cons_of_mem a hb)) (m s a).2)

namespace Registry

variable (r : Registry)

/-- Matching a unit against the patterns writes the index when it gives out a plan. -/
theorem index_matchPattern (unit : String) :
    (r.matchPattern unit).2.index =
      match (r.matchPattern unit).1 with
      | none => r.index
      | some plan => r.index.record plan.unit plan.kind := by
  unfold matchPattern
  split
  · rfl
  · split <;> rfl

theorem tells_matchUnit (unit : String) :
    UnitIndex.Tells (r.matchGrant unit).toList r.index (r.matchUnit unit).2.index := by
  cases hp : r.pending.find? unit with
  | some rule =>
      rw [matchGrant_of_pending hp, matchUnit_of_pending hp]
      exact UnitIndex.tells_record r.index ⟨.exactRule, unit, .ofRule rule r.debugMode⟩
  | none =>
      rw [matchGrant_of_not_pending hp, matchUnit_of_not_pending hp, index_matchPattern]
      cases (r.matchPattern unit).1 with
      | none => exact UnitIndex.tells_nil r.index
      | some plan => exact UnitIndex.tells_record r.index ⟨.patternRule, unit, plan⟩

theorem tells_conclude (unit : String) (answer : Introspection) :
    UnitIndex.Tells
      ((r.concludeDiscovery unit answer).1.map (Grant.mk .discovery unit)).toList r.index
      (r.concludeDiscovery unit answer).2.index := by
  rw [concludeDiscovery_eq]
  split
  · exact UnitIndex.tells_record r.index
      ⟨.discovery, unit, .ofRule (threadPoolRule unit) r.debugMode⟩
  · exact UnitIndex.tells_nil r.index

theorem tells_discover (introspect : Introspector) (unit : String) :
    UnitIndex.Tells (r.discoverGrant introspect unit).toList r.index
      (r.discoverExecutor introspect unit).2.index := by
  rw [discoverGrant, discoverExecutor]
  split
  · exact r.tells_conclude unit (introspect unit)
  · exact UnitIndex.tells_nil r.index

/-- Every action tells the index the plan that it gives out, and nothing else. -/
theorem tells_act (a : Action) :
    UnitIndex.Tells (act r a).1.toList r.index (act r a).2.index := by
  cases a with
  | exclude beginning => exact UnitIndex.tells_nil r.index
  | prune => exact UnitIndex.tells_nil r.index
  | noteBuiltIn enabled => exact UnitIndex.tells_nil r.index
  | insert rule =>
      rw [act, insert_index]
      exact UnitIndex.tells_nil r.index
  | refuse => exact UnitIndex.tells_nil r.index
  | setDebugMode on => exact UnitIndex.tells_nil r.index
  | matchUnit unit => exact r.tells_matchUnit unit
  | discover introspect unit => exact r.tells_discover introspect unit
  | conclude unit answer => exact r.tells_conclude unit answer

/-- **After a run, a unit is known by the kind of the latest plan for it**, in whatever order the actions of all
threads come. -/
theorem tells_run (actions : List Action) :
    UnitIndex.Tells (act.given r actions) r.index (act.after r actions).index :=
  Machine.tells_run act index (fun s a _ => s.tells_act a) r

end Registry

end Instrumentation
