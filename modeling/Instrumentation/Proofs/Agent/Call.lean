import Instrumentation.Agent
import Instrumentation.Proofs.Registry.Action

set_option autoImplicit false

/-!
# Calls on an agent

An agent is reconfigured, asked about units and given events to dispatch. `serve` is one call. A configuration
that is refused leaves the agent as it was.

For the registry, a call on the agent is a list of actions: `registry_serve` says so for the state and
`grant_serve` for the plans. So what every action on a registry keeps, every call on an agent keeps.
-/

namespace Instrumentation

namespace Agent

variable {H : Type}

/-- A call on an agent. -/
inductive Call (H : Type) where
  | reconfigure (c : AgentConfig)
  | probe (introspect : Introspector) (unit : String)
  | dispatch (key : Option String) (react : H → Event → Reaction) (e : Event)

/-- What asking about a unit gives out: a plan of the rules, or else of a discovery if that is on. -/
def probeGrant (a : Agent H) (introspect : Introspector) (unit : String) : Option Grant :=
  match a.registry.matchGrant unit with
  | some g => some g
  | none =>
      if a.executorDiscovery then (a.registry.matchUnit unit).2.discoverGrant introspect unit
      else none

/-- The agent after an attempt to reconfigure it. -/
def reconfigured (a : Agent H) (c : AgentConfig) : Agent H :=
  match a.reconfigure c with
  | .ok b => b
  | .error _ => a

/-- Serves a call. -/
def serve : Machine (Agent H) (Call H) Grant
  | a, .reconfigure c => (none, a.reconfigured c)
  | a, .probe introspect unit => (a.probeGrant introspect unit, (a.probe introspect unit).2)
  | a, .dispatch key react e => (none, (a.dispatch key react e).2)

/-! ## Probing -/

theorem matchUnit_fst_eq_none_iff {r : Registry} {unit : String} :
    (r.matchUnit unit).1 = none ↔ r.matchGrant unit = none := by
  rw [Registry.matchGrant, Option.map_eq_none_iff]

/-- Without a plan of the rules, discovery decides if it is on. -/
theorem probe_of_none {a : Agent H} {unit : String} (introspect : Introspector)
    (h : (a.registry.matchUnit unit).1 = none) :
    a.probe introspect unit =
      if a.executorDiscovery then
        (((a.registry.matchUnit unit).2.discoverExecutor introspect unit).1,
          { a with
            registry := ((a.registry.matchUnit unit).2.discoverExecutor introspect unit).2 })
      else (none, { a with registry := (a.registry.matchUnit unit).2 }) := by
  unfold probe
  split
  · next plan registry heq =>
    rw [heq] at h
    cases h
  · next registry heq => rw [heq]

/-- A plan of the rules is the answer. -/
theorem probe_of_some {a : Agent H} {unit : String} {plan : Plan} (introspect : Introspector)
    (h : (a.registry.matchUnit unit).1 = some plan) :
    a.probe introspect unit =
      (some plan, { a with registry := (a.registry.matchUnit unit).2 }) := by
  unfold probe
  split
  · next found registry heq =>
    rw [heq] at h ⊢
    cases h
    rfl
  · next registry heq =>
    rw [heq] at h
    cases h

/-- The plan of a probe is that of the rules, or else that of a discovery if that is on. -/
theorem probe_fst (a : Agent H) (introspect : Introspector) (unit : String) :
    (a.probe introspect unit).1 =
      (a.registry.matchUnit unit).1.or
        (if a.executorDiscovery then
          ((a.registry.matchUnit unit).2.discoverExecutor introspect unit).1
        else none) := by
  cases hm : (a.registry.matchUnit unit).1 with
  | some plan => rw [probe_of_some introspect hm, Option.some_or]
  | none =>
      rw [probe_of_none introspect hm, Option.none_or]
      split <;> rfl

theorem probeGrant_of_some {a : Agent H} {unit : String} {g : Grant} (introspect : Introspector)
    (h : a.registry.matchGrant unit = some g) : a.probeGrant introspect unit = some g := by
  rw [probeGrant, h]

theorem probeGrant_of_none {a : Agent H} {unit : String} (introspect : Introspector)
    (h : a.registry.matchGrant unit = none) :
    a.probeGrant introspect unit =
      if a.executorDiscovery then (a.registry.matchUnit unit).2.discoverGrant introspect unit
      else none := by
  rw [probeGrant, h]

/-- What is given out is the plan that the probe answers with. -/
theorem probeGrant_plan (a : Agent H) (introspect : Introspector) (unit : String) :
    (a.probeGrant introspect unit).map Grant.plan = (a.probe introspect unit).1 := by
  cases hg : a.registry.matchGrant unit with
  | some g =>
      obtain ⟨plan, hm, rfl⟩ := Option.map_eq_some_iff.1 hg
      rw [probeGrant_of_some introspect hg, probe_of_some introspect hm]
      rfl
  | none =>
      rw [probeGrant_of_none introspect hg,
        probe_of_none introspect (matchUnit_fst_eq_none_iff.2 hg)]
      cases a.executorDiscovery with
      | false => rfl
      | true =>
          simp only [if_true, Registry.discoverGrant, Option.map_map]
          exact Option.map_id'

/-! ## Calls as actions on the registry -/

/-- The actions on the registry that a call comes to. -/
def actions (a : Agent H) : Call H → List Registry.Action
  | .reconfigure c =>
      match c.rules with
      | .error _ => []
      | .ok rules =>
          .setDebugMode c.debugMode ::
            (a.registry.setDebugMode c.debugMode).configureActions rules c.excludedPrefixes
              c.builtIn.selection
  | .probe introspect unit =>
      if (a.registry.matchGrant unit).isNone && a.executorDiscovery then
        [.matchUnit unit, .discover introspect unit]
      else [.matchUnit unit]
  | .dispatch _ _ _ => []

theorem reconfigured_eq (a : Agent H) (c : AgentConfig) :
    a.reconfigured c = match c.rules with
      | .error _ => a
      | .ok rules => a.applyRules c rules := by
  unfold reconfigured reconfigure
  cases c.rules with
  | error e => rfl
  | ok rules => rfl

/-- What a call does to the registry is what its actions do. -/
theorem registry_serve (a : Agent H) (call : Call H) :
    (serve a call).2.registry = Registry.act.after a.registry (a.actions call) := by
  cases call with
  | reconfigure c =>
      show (a.reconfigured c).registry = _
      rw [reconfigured_eq, actions]
      cases c.rules with
      | error e => rfl
      | ok rules => exact (Registry.after_configureActions ..).symm
  | probe introspect unit =>
      show (a.probe introspect unit).2.registry = _
      cases hg : a.registry.matchGrant unit with
      | some g =>
          obtain ⟨plan, hm, -⟩ := Option.map_eq_some_iff.1 hg
          rw [actions, probe_of_some introspect hm, hg]
          rfl
      | none =>
          rw [actions, probe_of_none introspect (matchUnit_fst_eq_none_iff.2 hg), hg]
          cases a.executorDiscovery with
          | false => rfl
          | true => rfl
  | dispatch key react e => rfl

/-- What a call gives out is what its actions give out. -/
theorem grant_serve (a : Agent H) (call : Call H) :
    (serve a call).1.toList = Registry.act.given a.registry (a.actions call) := by
  cases call with
  | reconfigure c =>
      show [] = _
      rw [actions]
      cases c.rules with
      | error e => rfl
      | ok rules => exact (Registry.given_configureActions ..).symm
  | probe introspect unit =>
      show (a.probeGrant introspect unit).toList = _
      cases hg : a.registry.matchGrant unit with
      | some g =>
          rw [actions, probeGrant_of_some introspect hg, hg]
          show [g] = (a.registry.matchGrant unit).toList ++ []
          rw [hg]
          rfl
      | none =>
          rw [actions, probeGrant_of_none introspect hg, hg]
          cases a.executorDiscovery with
          | false =>
              show [] = (a.registry.matchGrant unit).toList ++ []
              rw [hg]
              rfl
          | true =>
              show Option.toList _ = (a.registry.matchGrant unit).toList ++ (_ ++ [])
              rw [hg, List.append_nil]
              rfl
  | dispatch key react e => rfl

/-- What every action on a registry keeps, every call on an agent keeps. -/
theorem serve_invariant {I : Registry → Prop} (keeps : ∀ r action, I r → I (Registry.act r action).2)
    (a : Agent H) (call : Call H) (h : I a.registry) : I (serve a call).2.registry := by
  rw [registry_serve]
  exact Machine.invariant_run Registry.act keeps h _

end Agent

end Instrumentation
