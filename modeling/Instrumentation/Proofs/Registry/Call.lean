import Instrumentation.Proofs.Registry.Action

set_option autoImplicit false

/-!
# Whole calls on a registry

The calls of one thread that has a registry to itself: it applies configurations, matches units and discovers
executors. `serve` is one call, and a run of calls starts from `initial`.

A call is a list of actions (`serve_invariant`), so that what every action keeps, every call keeps.
-/

namespace Instrumentation

namespace Registry

/-- A call on a registry. -/
inductive Call where
  | configure (rules : List Rule) (beginnings : List String) (selection : BuiltInSelection)
  | matchUnit (unit : String)
  | discover (introspect : Introspector) (unit : String)

/-- All rules that a call brings along come from a configuration. -/
def Call.FromConfiguration : Call → Prop
  | .configure rules _ _ => ∀ rule ∈ rules, rule.origin = .configured
  | .matchUnit _ => True
  | .discover _ _ => True

/-- Serves a call. -/
def serve : Machine Registry Call Grant
  | r, .configure rules beginnings selection => (none, r.configure rules beginnings selection)
  | r, .matchUnit unit => (r.matchGrant unit, (r.matchUnit unit).2)
  | r, .discover introspect unit =>
      (r.discoverGrant introspect unit, (r.discoverExecutor introspect unit).2)

/-- What every action keeps, every call keeps. -/
theorem serve_invariant {I : Registry → Prop} (keeps : ∀ r a, I r → I (act r a).2)
    (r : Registry) (call : Call) (h : I r) : I (serve r call).2 := by
  cases call with
  | configure rules beginnings selection =>
      show I (r.configure rules beginnings selection)
      rw [← after_configureActions]
      exact Machine.invariant_run act keeps h _
  | matchUnit unit => exact keeps r (.matchUnit unit) h
  | discover introspect unit => exact keeps r (.discover introspect unit) h

/-! ## Exclusions only grow -/

/-- No call takes an excluded beginning back. -/
theorem excluded_serve (r : Registry) (call : Call) {b : String} (h : b ∈ r.excluded.names) :
    b ∈ (serve r call).2.excluded.names := by
  cases call with
  | configure rules beginnings selection =>
      show b ∈ (r.configure rules beginnings selection).excluded.names
      rw [configure_excluded, NameSet.mem_insertAll]
      exact Or.inr h
  | matchUnit unit =>
      show b ∈ (r.matchUnit unit).2.excluded.names
      rw [matchUnit_excluded]
      exact h
  | discover introspect unit =>
      show b ∈ (r.discoverExecutor introspect unit).2.excluded.names
      rw [discoverExecutor_excluded]
      exact h

/-- A unit that is excluded stays excluded. -/
theorem isExcluded_after (r : Registry) (calls : List Call) {unit : String}
    (h : r.isExcluded unit = true) : (serve.after r calls).isExcluded unit = true := by
  refine Machine.invariant_run serve (I := fun s => s.isExcluded unit = true) ?_ h calls
  intro s call hs
  exact isExcluded_mono (fun _ hb => excluded_serve s call hb) hs

end Registry

end Instrumentation
