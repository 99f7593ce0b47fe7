import Instrumentation.Dispatch.Submission

set_option autoImplicit false

/-!
# What a submission comes to

A submission runs inside two panic boundaries. The first section says what comes of that, for handlers of any
kind: `emit_run_of_accepted` and `emit_run_of_not_accepted`. The second boundary shows in the latter. A handler
that did not accept the event is asked for its name, and whether it answers or panics then, the submission
returns and one failure is counted.

Handlers that leave the router alone are known by their `Conduct`: how they react to an event, and what comes of
asking them for their names. `ThreadView` is the state in which a thread submits events to such handlers; it
notes every call of a handler. `submit_run` says what a submission comes to in it: it returns, at most one
handler is called, and one outcome is counted.
-/

namespace Instrumentation

/-! ## Running what may panic -/

namespace Panicking

variable {σ α β : Type} {s t : σ} {x : Panicking σ α} {payload : PanicPayload}

theorem run_bind_of_ok {a : α} (f : α → Panicking σ β) (h : x.run.run s = (.ok a, t)) :
    (x >>= f).run.run s = (f a).run.run t := by
  rw [ExceptT.run_bind, StateT.run_bind, h]
  rfl

/-- After a panic nothing runs any more. -/
theorem run_bind_of_panic (f : α → Panicking σ β) (h : x.run.run s = (.error payload, t)) :
    (x >>= f).run.run s = (.error payload, t) := by
  rw [ExceptT.run_bind, StateT.run_bind, h]
  rfl

/-- A caught panic is an answer like any other. -/
theorem run_caught {answer : Except PanicPayload α} (h : x.run.run s = (answer, t)) :
    x.caught.run.run s = (.ok answer, t) := by
  show (Except.ok (x.run.run s).1, (x.run.run s).2) = (.ok answer, t)
  rw [h]

end Panicking

/-! ## The two boundaries -/

namespace Callbacks

variable {σ H : Type} [RoutingState σ H] {calls : Callbacks σ H} {kind : EventKind} {e : Event}
  {s t : σ}

/-- The state after an outcome is counted. -/
def concluded (kind : EventKind) (outcome : Outcome) (s : σ) : σ :=
  RoutingState.setRouter s ((RoutingState.router s).conclude kind outcome)

/-- What an event is offered to in a state. -/
def offerIn (e : Event) (s : σ) : Offer H :=
  (RoutingState.router s).offer (RoutingState.index s) (RoutingState.key s) e

/-- What is forwarded to its end is emitted. -/
theorem emit_run_of_ok (h : (calls.forward kind e).run.run s = (.ok (), t)) :
    (calls.emit kind e).run.run s = (.ok (), t) := by
  rw [emit, Panicking.run_bind_of_ok _ (Panicking.run_caught h)]
  rfl

/-- A panic on the way is caught and counted. -/
theorem emit_run_of_panic {payload : PanicPayload}
    (h : (calls.forward kind e).run.run s = (.error payload, t)) :
    (calls.emit kind e).run.run s = (.ok (), concluded kind .failed t) := by
  rw [emit, Panicking.run_bind_of_ok _ (Panicking.run_caught h)]
  rfl

/-- Forwarding an event is making its offer. -/
theorem forward_run : (calls.forward kind e).run.run s = (calls.make kind (offerIn e s)).run.run s :=
  rfl

theorem emit_run_of_unrouted (ho : offerIn e s = .unrouted) :
    (calls.emit kind e).run.run s = (.ok (), concluded kind .unrouted s) := by
  apply emit_run_of_ok
  rw [forward_run, ho]
  rfl

theorem emit_run_of_filtered (ho : offerIn e s = .filtered) :
    (calls.emit kind e).run.run s = (.ok (), concluded kind .filtered s) := by
  apply emit_run_of_ok
  rw [forward_run, ho]
  rfl

/-- A handler that accepts the event is not asked for its name. -/
theorem emit_run_of_accepted {handler : H} {e' : Event} (ho : offerIn e s = .deliver handler e')
    (h : (calls.handle handler e').run.run s = (.ok (.ok ()), t)) :
    (calls.emit kind e).run.run s = (.ok (), concluded kind .delivered t) := by
  apply emit_run_of_ok
  rw [forward_run, ho, make, Panicking.run_bind_of_ok _ (Panicking.run_caught h)]
  rfl

/-- A handler that does not accept the event is asked for its name. What it answers plays no part. -/
theorem emit_run_of_not_accepted {handler : H} {e' : Event}
    (ho : offerIn e s = .deliver handler e') {answer : Except PanicPayload (Except HandlerError Unit)}
    (h : (calls.handle handler e').run.run s = (answer, t)) (hanswer : answer ≠ .ok (.ok ())) :
    (calls.emit kind e).run.run s =
      (.ok (), concluded kind .failed ((calls.name handler).run.run t).2) := by
  -- The question is asked in one place after an error and in another one after a panic.
  have hasked : ∃ failure : String → DispatchFailure, (calls.forward kind e).run.run s =
      (calls.name handler >>= fun name => drop kind (failure name)).run.run t := by
    rw [forward_run, ho, make, Panicking.run_bind_of_ok _ (Panicking.run_caught h)]
    cases answer with
    | error payload => exact ⟨fun name => .ofPanic name payload, rfl⟩
    | ok returned =>
        cases returned with
        | error error => exact ⟨fun name => .refused name error, rfl⟩
        | ok done => exact absurd rfl hanswer
  obtain ⟨failure, hforward⟩ := hasked
  cases hname : (calls.name handler).run.run t with
  | mk named u =>
      cases named with
      | ok name =>
          apply emit_run_of_ok
          rw [hforward, Panicking.run_bind_of_ok _ hname]
          rfl
      | error payload =>
          apply emit_run_of_panic
          rw [hforward, Panicking.run_bind_of_panic _ hname]

end Callbacks

/-! ## Handlers that leave the router alone -/

/-- How handlers conduct themselves during a submission. -/
structure Conduct (H : Type) where
  react : H → Event → Reaction
  /-- What comes of asking a handler for its name. -/
  name : H → Except PanicPayload String

/-- A call of a handler with an event. -/
structure Invocation (H : Type) where
  handler : H
  event : Event
  reaction : Reaction

/-- What a thread that submits an event works on, and the calls of handlers up to now. -/
structure ThreadView (H : Type) where
  router : Router H
  index : UnitIndex
  key : Option String
  invocations : List (Invocation H) := []

instance {H : Type} : RoutingState (ThreadView H) H where
  router v := v.router
  setRouter v router := { v with router }
  index v := v.index
  key v := v.key
  router_setRouter _ _ := rfl
  index_setRouter _ _ := rfl
  key_setRouter _ _ := rfl

variable {H : Type}

/-- Calls handlers that conduct themselves so. -/
def Conduct.callbacks (c : Conduct H) : Callbacks (ThreadView H) H where
  handle handler e := do
    let reaction := c.react handler e
    modify fun v => { v with invocations := v.invocations ++ [⟨handler, e, reaction⟩] }
    .mk (return reaction.returned)
  name handler := .mk (return c.name handler)

namespace Offer

/-- The outcome of an offer, given the reactions of the handlers. -/
def outcome (react : H → Event → Reaction) : Offer H → Outcome
  | unrouted => .unrouted
  | filtered => .filtered
  | deliver handler e => (react handler e).outcome

/-- The calls of handlers that an offer leads to. -/
def invocations (react : H → Event → Reaction) : Offer H → List (Invocation H)
  | unrouted => []
  | filtered => []
  | deliver handler e => [⟨handler, e, react handler e⟩]

/-- At most one handler gets an offer. -/
theorem length_invocations_le_one (react : H → Event → Reaction) (o : Offer H) :
    (o.invocations react).length ≤ 1 := by
  cases o with
  | unrouted => exact Nat.zero_le 1
  | filtered => exact Nat.zero_le 1
  | deliver handler e => exact Nat.le_refl 1

/-- An event is delivered when a handler was called and accepted it. -/
theorem outcome_eq_delivered_iff {react : H → Event → Reaction} {o : Offer H} :
    o.outcome react = .delivered ↔
      ∃ i, o.invocations react = [i] ∧ i.reaction = .accepted := by
  cases o with
  | unrouted => simp [outcome, invocations]
  | filtered => simp [outcome, invocations]
  | deliver handler e =>
      cases h : react handler e <;> simp [outcome, invocations, Reaction.outcome, h]

/-- An event failed when a handler was called and did not accept it. -/
theorem outcome_eq_failed_iff {react : H → Event → Reaction} {o : Offer H} :
    o.outcome react = .failed ↔ ∃ i, o.invocations react = [i] ∧ i.reaction ≠ .accepted := by
  cases o with
  | unrouted => simp [outcome, invocations]
  | filtered => simp [outcome, invocations]
  | deliver handler e =>
      cases h : react handler e <;> simp [outcome, invocations, Reaction.outcome, h]

/-- No handler was called for an event without handler and for one that the filter refused. -/
theorem outcome_uncalled_iff {react : H → Event → Reaction} {o : Offer H} :
    o.outcome react = .unrouted ∨ o.outcome react = .filtered ↔ o.invocations react = [] := by
  cases o with
  | unrouted => simp [outcome, invocations]
  | filtered => simp [outcome, invocations]
  | deliver handler e =>
      cases h : react handler e <;> simp [outcome, invocations, Reaction.outcome, h]

end Offer

namespace ThreadView

/-- What an event is offered to. -/
def offer (v : ThreadView H) (e : Event) : Offer H := v.router.offer v.index v.key e

/-- After a submission under a kind: the handlers that got the event have been called, and the outcome is
counted. -/
def afterOffer (v : ThreadView H) (react : H → Event → Reaction) (kind : EventKind) (o : Offer H) :
    ThreadView H :=
  { v with
    router := v.router.conclude kind (o.outcome react)
    invocations := v.invocations ++ o.invocations react }

end ThreadView

namespace Conduct

variable (c : Conduct H) (v : ThreadView H)

/-- **A submission returns**, whatever the handler does. -/
theorem submit_run (x : Submission) :
    (c.callbacks.submit x).run.run v =
      (.ok (), v.afterOffer c.react x.kind (v.offer x.event)) := by
  show (c.callbacks.emit x.kind x.event).run.run v =
    (.ok (), v.afterOffer c.react x.kind (Callbacks.offerIn x.event v))
  cases ho : Callbacks.offerIn x.event v with
  | unrouted =>
      rw [Callbacks.emit_run_of_unrouted ho, ThreadView.afterOffer, Offer.invocations,
        List.append_nil]
      rfl
  | filtered =>
      rw [Callbacks.emit_run_of_filtered ho, ThreadView.afterOffer, Offer.invocations,
        List.append_nil]
      rfl
  | deliver handler e =>
      have hcall : (c.callbacks.handle handler e).run.run v = ((c.react handler e).returned,
          { v with invocations := v.invocations ++ [⟨handler, e, c.react handler e⟩] }) := rfl
      rw [ThreadView.afterOffer, Offer.outcome, Offer.invocations]
      cases hreact : c.react handler e with
      | accepted =>
          rw [hreact] at hcall
          rw [Callbacks.emit_run_of_accepted ho hcall]
          rfl
      | refused error =>
          rw [hreact] at hcall
          rw [Callbacks.emit_run_of_not_accepted ho hcall (by intro h; cases h)]
          rfl
      | panicked payload =>
          rw [hreact] at hcall
          rw [Callbacks.emit_run_of_not_accepted ho hcall (by intro h; cases h)]
          rfl

end Conduct

namespace Router

/-- Dispatching an event is submitting it as it is: the same handler gets the same event, and the same outcome
is counted. -/
theorem dispatch_eq_submit (r : Router H) (index : UnitIndex) (key : Option String)
    (c : Conduct H) (e : Event) :
    let ended := (c.callbacks.submit (.whole e)).run.run ⟨r, index, key, []⟩
    (r.dispatch index key c.react e).1.toList =
        ended.2.invocations.map (fun i => (i.handler, i.event)) ∧
      (r.dispatch index key c.react e).2 = ended.2.router := by
  intro ended
  have hended : ended = (.ok (), ThreadView.afterOffer ⟨r, index, key, []⟩ c.react e.kind
      (r.offer index key e)) :=
    c.submit_run ⟨r, index, key, []⟩ (.whole e)
  rw [hended, dispatch]
  cases r.offer index key e with
  | unrouted => exact ⟨rfl, rfl⟩
  | filtered => exact ⟨rfl, rfl⟩
  | deliver handler e' => exact ⟨rfl, rfl⟩

end Router

end Instrumentation
