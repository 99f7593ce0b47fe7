import Instrumentation.Dispatch.Router
import Instrumentation.Event.Notification

set_option autoImplicit false

/-!
# Submitting events

What happens between the code that raises an event and the handler. Two boundaries keep panics from the code
that raised the event. The inner one is around the call of the handler. The outer one is around everything: a
handler that did not accept the event is asked for its name, to describe the failure, and may panic then too.
However a submission goes, one outcome is counted.

The handler may use the router, so a submission runs in a state that holds the router and whatever else
handlers work on; `RoutingState` says where the router is.
-/

namespace Instrumentation

/-- States in which events are submitted: they hold the router, and the index and the key that routing reads. -/
class RoutingState (σ : Type) (H : outParam Type) where
  router : σ → Router H
  setRouter : σ → Router H → σ
  index : σ → UnitIndex
  /-- The key of the thread that runs. -/
  key : σ → Option String
  router_setRouter : ∀ s r, router (setRouter s r) = r
  index_setRouter : ∀ s r, index (setRouter s r) = index s
  key_setRouter : ∀ s r, key (setRouter s r) = key s

/-- What runs in a state and may end in a panic. What it did to the state before the panic stays done. -/
abbrev Panicking (σ α : Type) := ExceptT PanicPayload (StateM σ) α

/-- Runs something up to its end or its panic. -/
def Panicking.caught {σ α : Type} (body : Panicking σ α) :
    Panicking σ (Except PanicPayload α) :=
  ExceptT.lift body.run

/-- What a handler's reaction looks like from its call. -/
def Reaction.returned : Reaction → Except PanicPayload (Except HandlerError Unit)
  | accepted => .ok (.ok ())
  | refused error => .ok (.error error)
  | panicked payload => .error payload

/-- The two ways in which a handler is called: with an event, and for its name. -/
structure Callbacks (σ H : Type) where
  handle : H → Event → Panicking σ (Except HandlerError Unit)
  name : H → Panicking σ String

/-- The name under which a failure is described that no handler can be asked about. -/
def routerName : String := "dispatch coordinator"

namespace Callbacks

variable {σ H : Type} [RoutingState σ H]

/-- Counts how an event ended. -/
def conclude (kind : EventKind) (outcome : Outcome) : Panicking σ Unit :=
  modify fun s => RoutingState.setRouter s ((RoutingState.router s).conclude kind outcome)

/-- Drops an event that was not delivered. Its failure is for the log and does not matter any more. -/
def drop (kind : EventKind) (_ : DispatchFailure) : Panicking σ Unit := conclude kind .failed

/-- Makes an offer. A handler that does not accept the event is asked for its name. -/
def make (calls : Callbacks σ H) (kind : EventKind) : Offer H → Panicking σ Unit
  | .unrouted => conclude kind .unrouted
  | .filtered => conclude kind .filtered
  | .deliver handler e => do
      match ← (calls.handle handler e).caught with
      | .ok (.ok ()) => conclude kind .delivered
      | .ok (.error error) => drop kind (.refused (← calls.name handler) error)
      | .error payload => drop kind (.ofPanic (← calls.name handler) payload)

/-- Routes an event and makes the offer. -/
def forward (calls : Callbacks σ H) (kind : EventKind) (e : Event) : Panicking σ Unit := do
  let s ← get
  calls.make kind
    ((RoutingState.router s).offer (RoutingState.index s) (RoutingState.key s) e)

/-- Forwards an event that is counted under a kind. A panic on the way is a failure like any other. -/
def emit (calls : Callbacks σ H) (kind : EventKind) (e : Event) : Panicking σ Unit := do
  match ← (calls.forward kind e).caught with
  | .ok () => return ()
  | .error payload => drop kind (.ofPanic routerName payload)

/-- Submits an event. -/
def submit (calls : Callbacks σ H) (x : Submission) : Panicking σ Unit := calls.emit x.kind x.event

end Callbacks

end Instrumentation
