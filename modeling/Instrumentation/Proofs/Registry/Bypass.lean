import Instrumentation.Proofs.Registry.Call

set_option autoImplicit false

/-!
# Discovery of units that a rule waits for

Discovery looks at the claimed units and at the exclusions, not at the rules that wait. A unit that the loader reports
as an executor is claimed by it although a rule waits for the unit, and is contested then: it has got the plan of a
thread pool, and the rule still waits to give it a second plan.

`Effect.claims` says how an action can claim a unit, and that only discovery leaves a rule behind. It follows that a
unit becomes contested in no other way (`discovered_of_contested`), and `contested_only_by_discovery` says so for every
run of calls.
-/

namespace Instrumentation

namespace Registry

variable {r s : Registry} {unit : String} {introspect : Introspector}

/-- A unit that is claimed although a rule waits for it. -/
def Contested (unit : String) (r : Registry) : Prop :=
  r.claimed.contains unit = true ∧ r.hasPending unit = true

/-- A rule waits for the unit, and discovery gives it a plan all the same. -/
def Bypasses (r : Registry) (introspect : Introspector) (unit : String) : Prop :=
  r.hasPending unit = true ∧ (r.discoverGrant introspect unit).isSome = true

/-- A claimed unit that is not contested is consumed. -/
theorem consumed_of_not_contested (hclaimed : r.claimed.contains unit = true) (h : ¬ Contested unit r) :
    Consumed unit r := by
  refine ⟨hclaimed, hasPending_eq_false_iff.1 ?_⟩
  rw [Bool.eq_false_iff]
  exact fun hpending => h ⟨hclaimed, hpending⟩

theorem not_contested_of_consumed (h : Consumed unit r) : ¬ Contested unit r := by
  rintro ⟨-, hpending⟩
  rw [hasPending_eq_false_iff.2 h.2] at hpending
  cases hpending

/-! ## What makes a unit contested -/

/-- An action that claims a unit consumes it, or discovers it. -/
theorem Effect.claims {given : Option Grant} (h : r.Effect given s) (hfree : r.claimed.contains unit = false)
    (hclaimed : s.claimed.contains unit = true) :
    Consumed unit s ∨ (s = r.afterDiscovery unit ∧ ∃ g, given = some g ∧ g.isOf .discovery unit = true) := by
  have hsame : ¬ s.claimed = r.claimed := by
    intro hsame
    rw [hsame, hfree] at hclaimed
    cases hclaimed
  cases h with
  | quiet same => exact absurd same.claimed hsame
  | pruned => exact absurd rfl hsame
  | added rule => exact absurd (r.insert_claimed rule) hsame
  | @claimed other rule waits =>
      rw [claimed_afterClaim, hfree, Bool.or_false, beq_iff_eq] at hclaimed
      subst hclaimed
      refine Or.inl ⟨?_, ?_⟩
      · rw [claimed_afterClaim, beq_self_eq_true, Bool.true_or]
      · rw [find?_pending_afterClaim, if_pos rfl]
  | matched waits stands same => exact absurd same.claimed hsame
  | @discovered other free =>
      rw [claimed_afterDiscovery, hfree, Bool.or_false, beq_iff_eq] at hclaimed
      subst hclaimed
      exact Or.inr ⟨rfl, _, rfl, Grant.isOf_iff.2 ⟨rfl, rfl⟩⟩

/-- A call that makes a unit contested is a discovery that bypasses the rule of the unit. -/
theorem discovered_of_contested {call : Call} (hbefore : ¬ Contested unit r)
    (hafter : Contested unit (serve r call).2) :
    ∃ introspect, call = .discover introspect unit ∧ r.Bypasses introspect unit := by
  -- A unit that was claimed before would be consumed, and no call makes a rule wait for it again.
  have hfree : r.claimed.contains unit = false := by
    rw [Bool.eq_false_iff]
    intro hearlier
    have hconsumed := serve_invariant consumed_act r call (consumed_of_not_contested hearlier hbefore)
    exact not_contested_of_consumed hconsumed hafter
  cases call with
  | configure rules beginnings selection =>
      have hsame : (serve r (.configure rules beginnings selection)).2.claimed = r.claimed :=
        r.configure_claimed rules beginnings selection
      rw [Contested, hsame, hfree] at hafter
      cases hafter.1
  | matchUnit other =>
      rcases (r.effect_matchUnit other).claims hfree hafter.1 with hconsumed | ⟨-, g, hg, hof⟩
      · exact absurd hafter (not_contested_of_consumed hconsumed)
      · exact absurd (Grant.isOf_iff.1 hof).1 (matchGrant_source_ne hg)
  | discover introspect other =>
      rcases (r.effect_discover introspect other).claims hfree hafter.1 with hconsumed | ⟨hs, g, hg, hof⟩
      · exact absurd hafter (not_contested_of_consumed hconsumed)
      · obtain rfl : other = unit := (discoverGrant_eq_some hg).1.symm.trans (Grant.isOf_iff.1 hof).2
        have hpending : (r.afterDiscovery other).hasPending other = true := hs ▸ hafter.2
        exact ⟨introspect, rfl, hpending, by rw [hg]; rfl⟩

/-! ## What discovery does to a unit that a rule waits for -/

/-- Discovery bypasses a rule if the loader reports an executor that is neither claimed nor excluded. -/
theorem bypasses_iff (hwaits : r.hasPending unit = true) :
    r.Bypasses introspect unit ↔ (introspect unit).reportsExecutor = true ∧
      r.claimed.contains unit = false ∧ r.isExcluded unit = false := by
  rw [Bypasses, discoverGrant, discoverExecutor_eq]
  split
  · next h => simp [h, hwaits]
  · next h => simp [h]

/-- A rule that is bypassed goes on waiting, for a unit that is claimed now. -/
theorem serve_of_bypasses (h : r.Bypasses introspect unit) :
    serve r (.discover introspect unit) =
        (some ⟨.discovery, unit, .ofRule (threadPoolRule unit) r.debugMode⟩, r.afterDiscovery unit) ∧
      Contested unit (r.afterDiscovery unit) := by
  refine ⟨?_, ?_, h.1⟩
  · rw [serve, discoverGrant, discoverExecutor_eq, if_pos ((bypasses_iff h.1).1 h)]
    rfl
  · rw [claimed_afterDiscovery, beq_self_eq_true, Bool.true_or]

theorem serve_of_not_bypasses (hwaits : r.hasPending unit = true) (h : ¬ r.Bypasses introspect unit) :
    serve r (.discover introspect unit) = (none, r) := by
  rw [serve, discoverGrant, discoverExecutor_eq, if_neg (mt (bypasses_iff hwaits).2 h)]
  rfl

/-- Right after a unit was matched, no rule waits for it that discovery could bypass. -/
theorem not_bypasses_of_matched : ¬ (serve r (.matchUnit unit)).2.Bypasses introspect unit := by
  rintro ⟨hpending, -⟩
  have hnone : (r.matchUnit unit).2.pending.find? unit = none := by
    cases hwaits : r.pending.find? unit with
    | none => rw [matchUnit_of_not_pending hwaits, (r.matchPattern_frame unit).1, hwaits]
    | some rule => rw [matchUnit_of_pending hwaits, find?_pending_afterClaim, if_pos rfl]
  rw [serve, hasPending_eq_false_iff.2 hnone] at hpending
  cases hpending

/-! ## Whole runs -/

/-- A unit that a rule waits for is claimed exactly if a discovery has bypassed a rule of the unit before. -/
theorem claimed_iff_bypassed {calls : List Call} (hwaits : (serve.after initial calls).hasPending unit = true) :
    (serve.after initial calls).claimed.contains unit = true ↔
      ∃ front introspect rest, calls = front ++ .discover introspect unit :: rest ∧
        (serve.after initial front).Bypasses introspect unit := by
  constructor
  · intro hclaimed
    have hfree : ¬ Contested unit initial := fun h => nomatch h.1
    obtain ⟨front, call, rest, hcalls, hbefore, hafter⟩ :=
      Machine.exists_step_of_after serve hfree ⟨hclaimed, hwaits⟩
    obtain ⟨introspect, rfl, hbypasses⟩ := discovered_of_contested hbefore hafter
    exact ⟨front, introspect, rest, hcalls, hbypasses⟩
  · rintro ⟨front, introspect, rest, rfl, hbypasses⟩
    rw [Machine.after_append, Machine.after_cons]
    refine Machine.invariant_run serve (I := fun s => s.claimed.contains unit = true)
      (serve_invariant fun _ a => claimed_act a) ?_ rest
    obtain ⟨hserve, hcontested⟩ := serve_of_bypasses hbypasses
    rw [hserve]
    exact hcontested.1

/-- The plan of an exact rule leaves no rule behind. -/
theorem not_exactRule_of_waiting {calls : List Call} (hwaits : (serve.after initial calls).hasPending unit = true) :
    ∀ g ∈ serve.given initial calls, g.isOf .exactRule unit = false := by
  intro g hg
  rw [Bool.eq_false_iff]
  intro hof
  have hconsumed : Consumed unit (serve.after initial calls) := by
    refine Machine.spent_of_mem_given (Consumed unit) (fun s call => serve_invariant consumed_act s call) ?_ hg hof
    intro s call g hg hof
    cases call with
    | configure rules beginnings selection => cases hg
    | matchUnit other => exact consumed_of_exactRule s (.matchUnit other) g hg hof
    | discover introspect other => exact consumed_of_exactRule s (.discover introspect other) g hg hof
  rw [hasPending_eq_false_iff.2 hconsumed.2] at hwaits
  cases hwaits

/-- **Only discovery makes a unit contested.** After any calls that leave a rule waiting for a unit, no plan of an exact
rule was given to the unit, and it is claimed exactly if a discovery has bypassed a rule of it. A discovery of the unit
bypasses the rule if the loader reports an executor that is neither claimed nor excluded: it gives the plan of a thread
pool, and the rule goes on waiting. Every other discovery changes nothing. A match gives the plan of the rule, contested
or not, and consumes the unit; a discovery right after it bypasses nothing. -/
theorem contested_only_by_discovery (calls : List Call) (unit : String) (rule : Rule)
    (hwaits : (serve.after initial calls).pending.find? unit = some rule) :
    let r := serve.after initial calls
    (∀ g ∈ serve.given initial calls, g.isOf .exactRule unit = false) ∧
    (r.claimed.contains unit = true ↔
      ∃ front introspect rest, calls = front ++ .discover introspect unit :: rest ∧
        (serve.after initial front).Bypasses introspect unit) ∧
    (∀ introspect, r.Bypasses introspect unit ↔ (introspect unit).reportsExecutor = true ∧
      r.claimed.contains unit = false ∧ r.isExcluded unit = false) ∧
    (∀ introspect, r.Bypasses introspect unit →
      (serve r (.discover introspect unit)).1 =
          some ⟨.discovery, unit, .ofRule (threadPoolRule unit) r.debugMode⟩ ∧
        (serve r (.discover introspect unit)).2.pending.find? unit = some rule ∧
        Contested unit (serve r (.discover introspect unit)).2) ∧
    (∀ introspect, ¬ r.Bypasses introspect unit → serve r (.discover introspect unit) = (none, r)) ∧
    (serve r (.matchUnit unit)).1 = some ⟨.exactRule, unit, .ofRule rule r.debugMode⟩ ∧
      Consumed unit (serve r (.matchUnit unit)).2 ∧
      ∀ introspect, ¬ (serve r (.matchUnit unit)).2.Bypasses introspect unit := by
  intro r
  have hpending : r.hasPending unit = true := hasPending_iff.2 ⟨rule, hwaits⟩
  have hmatch : (serve r (.matchUnit unit)).1 = some ⟨.exactRule, unit, .ofRule rule r.debugMode⟩ :=
    matchGrant_of_pending hwaits
  refine ⟨not_exactRule_of_waiting hpending, claimed_iff_bypassed hpending, fun _ => bypasses_iff hpending,
    ?_, fun _ => serve_of_not_bypasses hpending, hmatch, ?_, fun _ => not_bypasses_of_matched⟩
  · intro introspect hbypasses
    obtain ⟨hserve, hcontested⟩ := serve_of_bypasses hbypasses
    rw [hserve]
    exact ⟨rfl, hwaits, hcontested⟩
  · exact consumed_of_exactRule r (.matchUnit unit) _ hmatch (Grant.isOf_iff.2 ⟨rfl, rfl⟩)

/-- A unit is matched in vain, and then a configuration names it. -/
def lateRuleCalls : List Call :=
  [.matchUnit "com/acme/Pool", .configure [.exact "com/acme/Pool" .http] [] .none]

/-- A loader to which every unit is an executor. -/
def everyExecutor : Introspector := fun unit => .described { name := unit, isExecutor := true }

theorem hasPending_lateRule : (serve.after initial lateRuleCalls).hasPending "com/acme/Pool" = true := by
  decide +kernel

/-- The discovery that comes after the configuration gives a plan, and the rule is left to give a second one. -/
theorem contested_only_by_discovery_pool :
    (∃ rule, (serve.after initial lateRuleCalls).pending.find? "com/acme/Pool" = some rule) ∧
      (serve.after initial lateRuleCalls).Bypasses everyExecutor "com/acme/Pool" ∧
      Contested "com/acme/Pool"
        (serve.after initial (lateRuleCalls ++ [.discover everyExecutor "com/acme/Pool"])) := by
  obtain ⟨rule, hwaits⟩ := hasPending_iff.1 hasPending_lateRule
  obtain ⟨-, -, hbypasses, hdiscover, -⟩ := contested_only_by_discovery lateRuleCalls "com/acme/Pool" rule hwaits
  have hpool : (serve.after initial lateRuleCalls).Bypasses everyExecutor "com/acme/Pool" := by
    refine (hbypasses everyExecutor).2 ⟨rfl, ?_, ?_⟩
    · decide +kernel
    · decide +kernel
  refine ⟨⟨rule, hwaits⟩, hpool, ?_⟩
  rw [Machine.after_append]
  exact (hdiscover everyExecutor hpool).2.2

/-- A waiting rule does not keep discovery from its unit. -/
theorem discovery_bypasses_waiting_rule :
    ¬ ∀ (calls : List Call) (unit : String), (serve.after initial calls).hasPending unit = true →
      ∀ introspect, ((serve.after initial calls).discoverExecutor introspect unit).1 = none ∧
        ((serve.after initial calls).discoverExecutor introspect unit).2.claimed.contains unit = false := by
  intro h
  have hnone := (h lateRuleCalls "com/acme/Pool" hasPending_lateRule everyExecutor).1
  have hplan : ((serve.after initial lateRuleCalls).discoverExecutor everyExecutor
      "com/acme/Pool").1.isSome = true := by
    decide +kernel
  rw [hnone] at hplan
  cases hplan

end Registry

end Instrumentation
