import Instrumentation.Proofs.Agent.Call

set_option autoImplicit false

/-!
# Consuming plans

A plan is consuming when it comes from an exact rule or from discovery. Over any run of an agent, every unit
gets at most one consuming plan, both sources taken together.

Matching does not look at the claimed units, and discovery does not look at the rules that wait. The bound
holds because a probe asks the rules first: whichever source gives the plan, the unit is claimed afterwards and
no rule waits for it, and no call changes that.
-/

namespace Instrumentation

/-- The plan was given to the unit by an exact rule or by discovery. -/
def Grant.consumes (unit : String) (g : Grant) : Bool :=
  g.isOf .exactRule unit || g.isOf .discovery unit

namespace Agent

variable {H : Type}

/-- A consumed unit gets no consuming plan. -/
theorem not_consumes_of_consumed {unit : String} (a : Agent H) (call : Call H) (g : Grant)
    (h : Registry.Consumed unit a.registry) (hg : (serve a call).1 = some g) :
    g.consumes unit = false := by
  have hmem : g ∈ Registry.act.given a.registry (a.actions call) := by
    rw [← grant_serve]
    exact Option.mem_toList.2 hg
  refine Machine.forall_mem_given Registry.act (I := Registry.Consumed unit)
    (Q := fun g => g.consumes unit = false) Registry.consumed_act ?_ h _ g hmem
  intro r act' g' hr hg'
  rw [Grant.consumes, Registry.not_exactRule_of_consumed r act' g' hr hg',
    Registry.not_discovery_of_claimed r act' g' hr.1 hg']
  rfl

/-- Asking about a unit consumes it when a consuming plan is given out. -/
theorem consumed_of_probeGrant {a : Agent H} {introspect : Introspector} {u unit : String}
    {g : Grant} (hg : a.probeGrant introspect u = some g) (hof : g.consumes unit = true) :
    Registry.Consumed unit (a.probe introspect u).2.registry := by
  rw [Grant.consumes, Bool.or_eq_true] at hof
  cases hmatch : a.registry.matchGrant u with
  | some found =>
      -- The rules gave the plan, so it comes from an exact rule.
      rw [probeGrant_of_some introspect hmatch] at hg
      cases hg
      obtain ⟨plan, hm, -⟩ := Option.map_eq_some_iff.1 hmatch
      rw [probe_of_some introspect hm]
      rcases hof with hof | hof
      · exact Registry.consumed_of_exactRule a.registry (.matchUnit u) g hmatch hof
      · exact absurd (Grant.isOf_iff.1 hof).1 (Registry.matchGrant_source_ne hmatch)
  | none =>
      -- No rule waits for the unit, and discovery claims it.
      rw [probeGrant_of_none introspect hmatch] at hg
      rw [probe_of_none introspect (matchUnit_fst_eq_none_iff.2 hmatch)]
      cases hon : a.executorDiscovery with
      | false =>
          rw [hon] at hg
          cases hg
      | true =>
          rw [hon, if_pos rfl] at hg
          obtain ⟨rfl, hsource, -, hafter⟩ := Registry.discoverGrant_eq_some hg
          have hunit : g.unit = unit := by
            rcases hof with hof | hof
            · rw [(Grant.isOf_iff.1 hof).1] at hsource
              cases hsource
            · exact (Grant.isOf_iff.1 hof).2
          subst hunit
          have hpending := Registry.not_pending_of_matchGrant hmatch
          rw [if_pos rfl]
          show Registry.Consumed g.unit
            ((a.registry.matchUnit g.unit).2.discoverExecutor introspect g.unit).2
          rw [hafter]
          refine ⟨?_, ?_⟩
          · rw [Registry.claimed_afterDiscovery, beq_self_eq_true, Bool.true_or]
          · rw [Registry.afterDiscovery_pending, Registry.matchUnit_of_not_pending hpending,
              (a.registry.matchPattern_frame g.unit).1, hpending]

/-- **Every unit gets at most one consuming plan**, over any run of an agent: configurations are applied in any
order, discovery is switched on and off, and the loader answers what it likes. -/
theorem consuming_plan_at_most_once (a : Agent H) (calls : List (Call H)) (unit : String) :
    (serve.given a calls).countP (Grant.consumes unit) ≤ 1 := by
  refine Machine.countP_given_le_one (fun a => Registry.Consumed unit a.registry)
    (serve_invariant Registry.consumed_act) not_consumes_of_consumed ?_ a calls
  intro a call g hg hof
  cases call with
  | reconfigure c => cases hg
  | probe introspect u => exact consumed_of_probeGrant hg hof
  | dispatch key react e => cases hg

/-- A discovered unit gets no second plan, not even after a configuration with a rule for it. -/
example :
    (serve.given (initial : Agent Unit)
      [.reconfigure { builtIn := { executorDiscovery := true } },
        .probe (fun unit => .described { name := unit, isExecutor := true }) "com/acme/Pool",
        .reconfigure { requestedTargets := [.exact "com/acme/Pool"] },
        .probe (fun _ => .panicked) "com/acme/Pool"]).map (fun g => (g.source, g.unit)) =
      [(.discovery, "com/acme/Pool")] := by
  decide +kernel

end Agent

end Instrumentation
