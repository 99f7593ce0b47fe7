import Instrumentation.Proofs.Agent.ConsumingPlan
import Instrumentation.Proofs.Registry.Configuration

set_option autoImplicit false

/-!
# Configurations in runs

In every run of an agent no rule waits for a claimed unit (`separate_serve`): whatever claims a unit gives out a
consuming plan (`consumes_of_claimed`), and after a consuming plan no rule waits for the unit. So the effect of a
configuration, which needs that, is the same in every run of an agent. On a registry of its own it is the same in
every state in which no rule waits for a claimed unit.
-/

namespace Instrumentation

namespace Registry

/-- A unit that is claimed after an action was claimed before, or the action gives it a consuming plan. -/
theorem Effect.consumes_of_claimed {r s : Registry} {given : Option Grant} {unit : String}
    (h : r.Effect given s) (hclaimed : s.claimed.contains unit = true) :
    r.claimed.contains unit = true ∨ ∃ g, given = some g ∧ g.consumes unit = true := by
  cases h with
  | quiet same =>
      rw [same.claimed] at hclaimed
      exact Or.inl hclaimed
  | pruned => exact Or.inl hclaimed
  | added rule =>
      rw [insert_claimed] at hclaimed
      exact Or.inl hclaimed
  | claimed waits =>
      rw [claimed_afterClaim, Bool.or_eq_true, beq_iff_eq] at hclaimed
      rcases hclaimed with rfl | hclaimed
      · exact Or.inr ⟨_, rfl, by simp [Grant.consumes, Grant.isOf]⟩
      · exact Or.inl hclaimed
  | matched waits stands same =>
      rw [same.claimed] at hclaimed
      exact Or.inl hclaimed
  | discovered free =>
      rw [claimed_afterDiscovery, Bool.or_eq_true, beq_iff_eq] at hclaimed
      rcases hclaimed with rfl | hclaimed
      · exact Or.inr ⟨_, rfl, by simp [Grant.consumes, Grant.isOf]⟩
      · exact Or.inl hclaimed

/-- A unit that is claimed after some actions was claimed before, or got a consuming plan from them. -/
theorem consumes_of_claimed {r : Registry} {unit : String} (actions : List Action)
    (hclaimed : (act.after r actions).claimed.contains unit = true) :
    r.claimed.contains unit = true ∨ ∃ g ∈ act.given r actions, g.consumes unit = true := by
  induction actions generalizing r with
  | nil => exact Or.inl hclaimed
  | cons a rest ih =>
      rw [Machine.after_cons] at hclaimed
      rw [Machine.given_cons]
      rcases ih hclaimed with hclaimed | ⟨g, hg, hconsumes⟩
      · rcases (r.effect_act a).consumes_of_claimed hclaimed with hclaimed | ⟨g, hg, hconsumes⟩
        · exact Or.inl hclaimed
        · exact Or.inr ⟨g, List.mem_append_left _ (Option.mem_toList.2 hg), hconsumes⟩
      · exact Or.inr ⟨g, List.mem_append_right _ hg, hconsumes⟩

end Registry

namespace Agent

variable {H : Type}

/-- A call that gives a unit a consuming plan leaves no rule that waits for the unit. -/
theorem consumed_of_serve {a : Agent H} {call : Call H} {unit : String} {g : Grant}
    (hg : (serve a call).1 = some g) (hconsumes : g.consumes unit = true) :
    Registry.Consumed unit (serve a call).2.registry := by
  cases call with
  | reconfigure c => cases hg
  | probe introspect u => exact consumed_of_probeGrant hg hconsumes
  | dispatch key react e => cases hg

/-- A call that finds no rule waiting for a claimed unit leaves none. -/
theorem separate_serve (a : Agent H) (call : Call H) (h : a.registry.Separate) :
    (serve a call).2.registry.Separate := by
  intro unit hclaimed
  have hwhence : a.registry.claimed.contains unit = true ∨
      ∃ g ∈ Registry.act.given a.registry (a.actions call), g.consumes unit = true := by
    rw [registry_serve] at hclaimed
    exact Registry.consumes_of_claimed _ hclaimed
  rcases hwhence with hbefore | ⟨g, hg, hconsumes⟩
  · -- The unit was claimed, and no rule waited for it: no call changes that.
    have hconsumed : Registry.Consumed unit a.registry := ⟨hbefore, h unit hbefore⟩
    exact (serve_invariant Registry.consumed_act a call hconsumed).2
  · rw [← grant_serve] at hg
    exact (consumed_of_serve (Option.mem_toList.1 hg) hconsumes).2

/-- In every run of an agent, no rule waits for a claimed unit. -/
theorem separate_after (calls : List (Call H)) :
    (serve.after (initial : Agent H) calls).registry.Separate := by
  refine Machine.invariant_run serve (I := fun a => a.registry.Separate) separate_serve ?_ calls
  intro unit hclaimed
  rfl

end Agent

namespace Registry

/-- **What a configuration does**, to every registry that some actions lead to and in which no rule waits for a
claimed unit; and so it is in every run of an agent. -/
theorem configuration_effect {H : Type} (actions : List Action)
    (hseparate : (act.after initial actions).Separate) (rules : List Rule)
    (hrules : ∀ rule ∈ rules, rule.origin = .configured) (beginnings : List String)
    (selection : BuiltInSelection) (calls : List (Agent.Call H)) :
    ConfigurationEffect (act.after initial actions) rules beginnings selection
        ((act.after initial actions).configure rules beginnings selection) ∧
      (Agent.serve.after (Agent.initial : Agent H) calls).registry.Separate := by
  refine ⟨?_, Agent.separate_after calls⟩
  have hkeyed : (act.after initial actions).Keyed :=
    Machine.invariant_run act keyed_act keyed_initial actions
  exact configurationEffect beginnings selection hrules hkeyed hseparate

/-- One unit is claimed, a configured rule waits for another one, and a built-in rule is overridden. -/
def configuredActions : List Action :=
  [.insert (.exact "com/acme/Job" .other), .matchUnit "com/acme/Job",
    .insert (.exact "com/acme/Task" .http), .insert (.exact "okhttp3/RealCall" .other)]

/-- A configuration excludes the override, so the built-in rule comes back; it has a rule for the claimed unit,
which is not added; and the rule that waited stays. -/
theorem configuration_effect_override_excluded :
    (∀ unit, (act.after initial configuredActions).claimed.contains unit = true →
      (act.after initial configuredActions).pending.find? unit = none) ∧
      (((act.after initial configuredActions).configure [.exact "com/acme/Job" .other] ["okhttp3/"]
          .all).pending.find? "okhttp3/RealCall").map Rule.origin = some .builtIn ∧
      ((act.after initial configuredActions).configure [.exact "com/acme/Job" .other] ["okhttp3/"]
          .all).pending.find? "com/acme/Job" = none ∧
      (((act.after initial configuredActions).configure [.exact "com/acme/Job" .other] ["okhttp3/"]
          .all).pending.find? "com/acme/Task").map Rule.kind = some .http := by
  have hseparate : (act.after initial configuredActions).Separate := by
    intro unit hclaimed
    have hunit : unit = "com/acme/Job" := by
      have hnames : (act.after initial configuredActions).claimed.names = ["com/acme/Job"] := by
        decide +kernel
      rw [NameSet.contains, hnames] at hclaimed
      simpa using hclaimed
    subst hunit
    have hgone : ((act.after initial configuredActions).pending.find? "com/acme/Job").isSome =
        false := by
      decide +kernel
    simpa using hgone
  have hrules : ∀ rule ∈ [Rule.exact "com/acme/Job" .other], rule.origin = .configured := by
    intro rule hrule
    rw [List.mem_singleton.1 hrule]
    rfl
  obtain ⟨heffect, -⟩ := configuration_effect (H := Unit) configuredActions hseparate
    [.exact "com/acme/Job" .other] hrules ["okhttp3/"] .all []
  have hjob : (act.after initial configuredActions).claimed.contains "com/acme/Job" = true := by
    decide +kernel
  have hcall : (act.after initial configuredActions).claimed.contains "okhttp3/RealCall" =
      false := by
    decide +kernel
  have htask : (act.after initial configuredActions).claimed.contains "com/acme/Task" = false := by
    decide +kernel
  refine ⟨hseparate, ?_, heffect.pending_claimed _ hjob, ?_⟩
  · rw [heffect.pending _ hcall]
    decide +kernel
  · rw [heffect.pending _ htask]
    decide +kernel

end Registry

end Instrumentation
