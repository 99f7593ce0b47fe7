import Instrumentation.Proofs.Agent.Call
import Instrumentation.Proofs.Dispatch.Traffic
import Instrumentation.Proofs.Registry.Index
import Instrumentation.Proofs.UnitName

set_option autoImplicit false

/-!
# Attribution of method events

Method entry and exit are reported under the name of the method, which its unit and the name in the unit make up.
The handler gets that name with the kind of the unit added, and the kind is that of the latest plan for the unit.

A `Session` is an agent in use: calls configure it and ask it about units, and threads submit events through its
router. Calls write the index of units, submissions read it. `tells_after` relates the index to the plans of the
whole session, and `annotateName_after` follows the name of a method from its plan to the handler.
-/

namespace Instrumentation

/-- An agent, and the threads that submit events through its router. -/
structure Session (H : Type) where
  agent : Agent H
  threads : ThreadId → Thread

namespace Session

variable {H : Type}

/-- What happens in a session. -/
inductive Step (H : Type) where
  | call (c : Agent.Call H)
  | turn (t : Turn H)

/-- A new agent. No thread has a key. -/
def initial : Session H := ⟨.initial, fun _ => {}⟩

/-- What the threads share. -/
def traffic (s : Session H) : Traffic H := ⟨s.agent.router, s.agent.registry.index, s.threads⟩

/-- Writes back what the threads share. -/
def withTraffic (s : Session H) (t : Traffic H) : Session H :=
  { agent :=
      { s.agent with router := t.router, registry := { s.agent.registry with index := t.index } }
    threads := t.threads }

/-- Carries out a step. Plans are given out. -/
def perform : Machine (Session H) (Step H) Grant
  | s, .call c => ((Agent.serve s.agent c).1, { s with agent := (Agent.serve s.agent c).2 })
  | s, .turn t => (none, s.withTraffic (Traffic.operate s.traffic t).2)

/-! ## The index of a session -/

/-- Nobody but the registry writes the index in these steps. -/
def IndexUnshared (steps : List (Step H)) : Prop :=
  ∀ thread unit kind, .turn ⟨thread, .record unit kind⟩ ∉ steps

/-- A turn leaves the index alone, unless it is the one that writes it. -/
theorem index_operate (s : Traffic H) {turn : Turn H}
    (h : ∀ unit kind, turn ≠ ⟨turn.thread, .record unit kind⟩) :
    (Traffic.operate s turn).2.index = s.index := by
  obtain ⟨thread, operation⟩ := turn
  cases operation with
  | register name owner handler =>
      obtain ⟨handlers, hsettle⟩ := s.settle_register name owner handler
      rw [Traffic.operate, hsettle]
  | registerFallback handler =>
      obtain ⟨fallback, hsettle⟩ := s.settle_registerFallback handler
      rw [Traffic.operate, hsettle]
  | tune setting => rfl
  | record unit kind => exact absurd rfl (h unit kind)
  | route action => rfl
  | submit c x =>
      rw [Traffic.operate_submit]
      rfl

/-- A call tells the index the plans that it gives out. -/
theorem tells_serve (a : Agent H) (c : Agent.Call H) :
    UnitIndex.Tells (Agent.serve a c).1.toList a.registry.index
      (Agent.serve a c).2.registry.index := by
  rw [Agent.grant_serve, Agent.registry_serve]
  exact Registry.tells_run a.registry (a.actions c)

/-- In a session that nobody else writes the index of, a unit is known by the kind of the latest plan for it. -/
theorem tells_after (s : Session H) {steps : List (Step H)} (h : IndexUnshared steps) :
    UnitIndex.Tells (perform.given s steps) s.agent.registry.index
      (perform.after s steps).agent.registry.index := by
  refine Machine.tells_run perform (fun s => s.agent.registry.index) ?_ s
  -- Calls write the index as they give out plans, and no turn of the session writes it.
  intro s step hstep
  cases step with
  | call c => exact tells_serve s.agent c
  | turn t =>
      have hindex : (Traffic.operate s.traffic t).2.index = s.agent.registry.index := by
        refine index_operate s.traffic ?_
        intro unit kind ht
        rw [ht] at hstep
        exact h t.thread unit kind hstep
      show UnitIndex.Tells [] _ (Traffic.operate s.traffic t).2.index
      rw [hindex]
      exact UnitIndex.tells_nil _

/-- The kind of a unit in the index after a session is that of the latest plan for it. -/
theorem kindOf?_after {steps : List (Step H)} (h : IndexUnshared steps) (unit : String) :
    (perform.after initial steps).agent.registry.index.kindOf? unit =
      (latestPlan? (perform.given (initial : Session H) steps) unit).map Plan.kind := by
  rw [tells_after initial h unit]
  exact Option.or_none

/-! ## The plans of a session -/

theorem keyed_perform (s : Session H) (step : Step H) (h : s.agent.registry.Keyed) :
    (perform s step).2.agent.registry.Keyed := by
  cases step with
  | call c => exact Agent.serve_invariant Registry.keyed_act s.agent c h
  | turn t => exact h.of_eq rfl rfl

/-- Every plan is for the unit that was asked about. -/
theorem plan_unit_of_mem_given (steps : List (Step H)) :
    ∀ g ∈ perform.given (initial : Session H) steps, g.plan.unit = g.unit := by
  refine Machine.forall_mem_given perform (I := fun s => s.agent.registry.Keyed) keyed_perform ?_
    Registry.keyed_initial steps
  intro s step g hkeyed hg
  cases step with
  | call c =>
      have hmem : g ∈ Registry.act.given s.agent.registry (s.agent.actions c) := by
        rw [← Agent.grant_serve]
        exact Option.mem_toList.2 hg
      exact hkeyed.plan_unit_of_mem_given _ g hmem
  | turn t => cases hg

end Session

/-- What a hook with the standard factory makes of a method carries the qualified name of the method. -/
theorem Plan.instrument_of_standard {p : Plan} {method signature : String} {hook : Hook}
    {action : HookAction} (access : UInt32) (hfind : p.hooks.find? method signature = some hook)
    (hstandard : hook.factory = .standard action) :
    ∃ made, p.instrument method signature access = some made ∧
      made.qualifiedName = qualifiedMethodName p.unit method := by
  refine ⟨_, by rw [instrument, hfind, Option.map_some], ?_⟩
  show (hook.instrument _).qualifiedName = _
  rw [Hook.instrument, hstandard]
  rfl

/-- The name under which a handler gets the events of a method of a unit, after some plans. -/
def attributedName (grants : List Grant) (unit method : String) : String :=
  match latestPlan? grants unit with
  | none => qualifiedMethodName unit method
  | some plan => qualifiedMethodName unit method ++ "#" ++ plan.kind.text

namespace Session

variable {H : Type}

/-- The mark that the index of a session gives to a method. -/
theorem annotateName_after {steps : List (Step H)} (h : IndexUnshared steps) (unit : String)
    {method : String} (hmethod : methodSeparator ∉ method.toList) :
    annotateName (perform.after (initial : Session H) steps).agent.registry.index
        (qualifiedMethodName unit method) =
      attributedName (perform.given (initial : Session H) steps) unit method := by
  rw [annotateName, UnitIndex.kindOfMethod?, methodOwner?_qualifiedMethodName unit hmethod,
    Option.bind_some, kindOf?_after h, attributedName]
  cases latestPlan? (perform.given (initial : Session H) steps) unit with
  | none => rfl
  | some plan => rfl

/-- A submission of an event that the filter does not look at reaches the handler that is resolved. -/
theorem submitted_to (s : Session H) {thread : ThreadId} {c : Conduct H} {x : Submission}
    {handler : H}
    (hresolved : s.agent.router.resolve? (s.threads thread).key = some handler)
    (hpass : s.agent.router.filter.pass x.event = some x.event) :
    (Traffic.operate s.traffic ⟨thread, .submit c x⟩).1 =
      some (.submitted (.ok ())
        [⟨handler, x.event.mapMethodName (annotateName s.agent.registry.index),
          c.react handler (x.event.mapMethodName (annotateName s.agent.registry.index))⟩]) := by
  have hoffer : s.traffic.offer thread x.event =
      .deliver handler (x.event.mapMethodName (annotateName s.agent.registry.index)) := by
    show s.agent.router.offer s.agent.registry.index (s.threads thread).key x.event = _
    rw [Router.offer, hresolved]
    dsimp only
    rw [hpass]
  rw [Traffic.operate_submit, hoffer]
  rfl

/-- **Method events are attributed to the latest plan.** In every session that nobody else writes the index of,
when a handler is resolved, the entry and exit of a method reach it under the name of the method with the kind of
the latest plan for the unit, or under the bare name if there was no plan. The bare name is what hooks with the
standard factory make of the method in every plan for the unit. -/
theorem attribution {steps : List (Step H)} (hunshared : IndexUnshared steps)
    (unit : String) {method : String} (hmethod : methodSeparator ∉ method.toList) :
    let s := perform.after (initial : Session H) steps
    let grants := perform.given (initial : Session H) steps
    let bare := qualifiedMethodName unit method
    let name := attributedName grants unit method
    (∀ thread (c : Conduct H) handler,
      s.agent.router.resolve? (s.threads thread).key = some handler →
        (∀ x : Submission, x.event = .methodStarted bare →
          (Traffic.operate s.traffic ⟨thread, .submit c x⟩).1 =
            some (.submitted (.ok ())
              [⟨handler, .methodStarted name, c.react handler (.methodStarted name)⟩])) ∧
        ∀ (x : Submission) nanos args error, x.event = .methodFinished bare nanos args error →
          (Traffic.operate s.traffic ⟨thread, .submit c x⟩).1 =
            some (.submitted (.ok ())
              [⟨handler, .methodFinished name nanos args error,
                c.react handler (.methodFinished name nanos args error)⟩])) ∧
      ∀ g ∈ grants, g.unit = unit → g.plan.unit = unit ∧
        ∀ signature access hook action, g.plan.hooks.find? method signature = some hook →
          hook.factory = .standard action →
            ∃ made, g.plan.instrument method signature access = some made ∧
              made.qualifiedName = bare := by
  intro s grants bare name
  have hname : annotateName s.agent.registry.index bare = name :=
    annotateName_after hunshared unit hmethod
  refine ⟨?_, ?_⟩
  · intro thread c handler hresolved
    refine ⟨?_, ?_⟩
    · intro x hx
      rw [submitted_to s hresolved (by rw [hx]; rfl), hx, Event.mapMethodName, hname]
    · intro x nanos args error hx
      rw [submitted_to s hresolved (by rw [hx]; rfl), hx, Event.mapMethodName, hname]
  · intro g hg hunit
    have hplan : g.plan.unit = unit := (plan_unit_of_mem_given steps g hg).trans hunit
    refine ⟨hplan, ?_⟩
    intro signature access hook action hfind hstandard
    obtain ⟨made, hmade, hqualified⟩ := Plan.instrument_of_standard access hfind hstandard
    rw [hplan] at hqualified
    exact ⟨made, hmade, hqualified⟩

/-- A configuration with discovery and one pattern rule. -/
def reissuing : AgentConfig :=
  { builtIn := { executorDiscovery := true }
    requestedTargets := [{ TargetConfig.ofPattern "com/acme.v2/Job" with kind := .http }] }

/-- A unit is discovered to be an executor, and later a pattern rule is configured for it. -/
def reissuedSteps : List (Step Nat) :=
  [.call (.reconfigure { reissuing with requestedTargets := [] }),
    .call (.probe (fun unit => .described { name := unit, isExecutor := true }) "com/acme.v2/Job"),
    .call (.reconfigure reissuing), .call (.probe (fun _ => .panicked) "com/acme.v2/Job"),
    .turn ⟨0, .registerFallback 7⟩]

/-- The later plan counts. The point in the name of the unit is none of its method. -/
theorem attribution_reissued :
    IndexUnshared reissuedSteps ∧ methodSeparator ∉ "run".toList ∧
      (Traffic.operate (perform.after initial reissuedSteps).traffic
          ⟨1, .submit ⟨fun _ _ => .accepted, fun _ => .ok "seven"⟩
            (.entry (.methodStarted "com/acme.v2/Job.run"))⟩).1 =
        some (.submitted (.ok ()) [⟨7, .methodStarted "com/acme.v2/Job.run#HTTP", .accepted⟩]) := by
  have hunshared : IndexUnshared reissuedSteps := by
    intro thread unit kind h
    simp [reissuedSteps] at h
  have hmethod : methodSeparator ∉ "run".toList := by decide
  have hname : attributedName (perform.given (initial : Session Nat) reissuedSteps)
      "com/acme.v2/Job" "run" = "com/acme.v2/Job.run#HTTP" := by
    decide +kernel
  obtain ⟨hreaches, -⟩ := attribution hunshared "com/acme.v2/Job" hmethod
  have hstarted := (hreaches 1 ⟨fun _ _ => .accepted, fun _ => .ok "seven"⟩ 7
    (by decide +kernel)).1 (.entry (.methodStarted "com/acme.v2/Job.run")) rfl
  rw [hname] at hstarted
  exact ⟨hunshared, hmethod, hstarted⟩

end Session

end Instrumentation
