import Instrumentation.Agent
import Instrumentation.Proofs.Config.Faults

set_option autoImplicit false

/-!
# Refused configurations

A configuration is applied to an agent in use one part after the other, and what was changed before a refusal would
stay changed (`Agent.Changing`). `reconfigure_all_or_nothing` says that there is no such refusal: a configuration is
refused because of one of its rules, with the error of the first one that is refused, and then the agent is what it
was. It rests on `applyConfig_run`, which reads the parts together, and on what is said of the faults of rules.
-/

namespace Instrumentation

namespace Agent

variable {H : Type}

/-- The parts of a configuration together: all of them are applied, or none. -/
theorem applyConfig_run (c : AgentConfig) (a : Agent H) :
    (applyConfig c).run.run a =
      match c.rules with
      | .error e => (.error e, a)
      | .ok rules => (.ok (), a.applyRules c rules) := by
  unfold applyConfig
  cases c.rules <;> rfl

/-- What a configuration does to an agent in use is what it does to the agent as a value. -/
theorem applyConfig_run_eq_reconfigure (c : AgentConfig) (a : Agent H) :
    (applyConfig c).run.run a =
      match a.reconfigure c with
      | .error e => (.error e, a)
      | .ok b => (.ok (), b) := by
  rw [applyConfig_run, reconfigure]
  cases c.rules <;> rfl

/-- A configuration is refused with the error that its rules have. -/
theorem applyConfig_run_eq_error_iff {c : AgentConfig} {a : Agent H} {e : SetupError} :
    ((applyConfig c).run.run a).1 = .error e ↔ c.rules = .error e := by
  rw [applyConfig_run]
  cases c.rules <;> simp

/-- **A configuration is applied as a whole or not at all**, to every agent. It is refused if and only if one of its
rules is; the error is then that of the first such rule, and nothing of the agent has changed; and if no rule is
refused, all of the configuration is applied. A rule is refused if and only if it has no name, or it is a pattern and
what stands after its last separator is nothing or does not read, or one of its methods has no name; of several faults
the first in this order is reported. -/
theorem reconfigure_all_or_nothing (c : AgentConfig) (a : Agent H) :
    ((∃ e, ((applyConfig c).run.run a).1 = .error e) ↔
        ∃ t ∈ c.builtIn.simpleTargets ++ c.requestedTargets, ∃ e, t.toRule = .error e) ∧
      (∀ e, ((applyConfig c).run.run a).1 = .error e →
        ((applyConfig c).run.run a).2 = a ∧
          ∃ front t rest, c.builtIn.simpleTargets ++ c.requestedTargets = front ++ t :: rest ∧
            (∀ u ∈ front, ∃ rule, u.toRule = .ok rule) ∧ t.toRule = .error e) ∧
      (((applyConfig c).run.run a).1 = .ok () →
        ∃ rules, (c.builtIn.simpleTargets ++ c.requestedTargets).mapM TargetConfig.toRule = .ok rules ∧
          ((applyConfig c).run.run a).2 = a.applyRules c rules) ∧
      ∀ t : TargetConfig,
        ((∃ e, t.toRule = .error e) ↔ t.name = "" ∨
          (t.pattern = true ∧ (afterLastSeparator t.name = "" ∨
            SimpleNamePattern.ofText? (afterLastSeparator t.name) = none)) ∨
          ∃ m ∈ t.methods, m.name = "") ∧
        ∀ e, t.toRule = .error e ↔ t.faults.head? = some e := by
  refine ⟨?_, ?_, ?_, fun t => ⟨t.exists_toRule_eq_error_iff, fun e => t.toRule_eq_error_iff⟩⟩
  · simp only [applyConfig_run_eq_error_iff]
    exact exists_mapM_eq_error_iff
  · intro e hrun
    have hrules : c.rules = .error e := applyConfig_run_eq_error_iff.1 hrun
    refine ⟨?_, mapM_eq_error_iff.1 hrules⟩
    rw [applyConfig_run, hrules]
  · intro hrun
    rw [applyConfig_run] at hrun ⊢
    cases hrules : c.rules with
    | error e =>
        rw [hrules] at hrun
        cases hrun
    | ok rules => exact ⟨rules, hrules, rfl⟩

/-- The first of three rules can be applied, the second one has two faults, and the third one has no name. -/
def refusedConfig : AgentConfig where
  debugMode := true
  builtIn := { executorDiscovery := true, simpleTargets := [.exact "com/acme/Job"] }
  requestedTargets := [(TargetConfig.ofPattern "com/acme/").addMethod {}, .exact ""]

/-- The configuration is refused with the first fault of its second rule, and the agent has not changed. -/
theorem reconfigure_all_or_nothing_secondRule :
    ((applyConfig refusedConfig).run.run (initial : Agent Unit)).1 =
        .error (.invalidPattern "com/acme/" .missingSimpleName) ∧
      ((applyConfig refusedConfig).run.run (initial : Agent Unit)).2 = initial := by
  obtain ⟨-, hrefused, -, hrule⟩ := reconfigure_all_or_nothing refusedConfig (initial : Agent Unit)
  have hfaults : ((TargetConfig.ofPattern "com/acme/").addMethod {}).toRule =
      .error (.invalidPattern "com/acme/" .missingSimpleName) := by
    rw [(hrule _).2]
    decide +kernel
  have herror : ((applyConfig refusedConfig).run.run (initial : Agent Unit)).1 =
      .error (.invalidPattern "com/acme/" .missingSimpleName) :=
    applyConfig_run_eq_error_iff.2 <| mapM_eq_error_iff.2
      ⟨[.exact "com/acme/Job"], _, [.exact ""], rfl, List.forall_mem_singleton.2 ⟨_, rfl⟩, hfaults⟩
  exact ⟨herror, (hrefused _ herror).1⟩

end Agent

end Instrumentation
