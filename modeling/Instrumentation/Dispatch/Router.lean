import Instrumentation.Dispatch.Failure
import Instrumentation.Dispatch.Filter
import Instrumentation.Dispatch.Metrics
import Instrumentation.Event
import Instrumentation.SetupError
import Instrumentation.ShownText
import Instrumentation.UnitIndex

set_option autoImplicit false

/-!
# Routing events to handlers

A router holds handlers under their names and at most one handler for threads without a key. An event goes
to the handler that the key of its thread names, or to nobody if no handler has that name; without a key
it goes to the fallback handler.

Dispatching is split where the handler runs: `offer` decides what the handler gets, `conclude` counts how
it went. A handler may use the router in between. `dispatch` joins the two for handlers that do not.
-/

namespace Instrumentation

/-- The threshold of slow queries before any configuration, in milliseconds. -/
def initialQueryThresholdMs : UInt64 := 10000

/-- Nanoseconds in a millisecond. -/
def nanosPerMilli : Nat := 1000000

/-- The threshold of cache calls before any configuration, in nanoseconds. -/
def initialCacheThresholdNs : UInt64 := 10000000000

/-- The scope that registered a handler; none for a handler of nobody in particular. -/
abbrev Owner := Option String

/-- A handler under its key. -/
structure Registration (H : Type) where
  key : String
  handler : H
  owner : Owner

/-- Handlers, thresholds and counts. -/
structure Router (H : Type) where
  handlers : Table (Registration H) := ∅
  /-- The handler for threads without a key. -/
  fallback : Option H := none
  queryThresholdMs : UInt64 := initialQueryThresholdMs
  cacheThresholdNs : UInt64 := initialCacheThresholdNs
  filter : ExceptionFilter := {}
  metrics : DispatchMetrics := {}

/-- Where an event goes. -/
inductive Offer (H : Type) where
  /-- There is no handler for the thread. -/
  | unrouted
  /-- The filter refuses the event. -/
  | filtered
  /-- The handler gets the event in this form. -/
  | deliver (handler : H) (event : Event)

/-- A key as routing sees it: the empty key counts as none. -/
def effectiveKey (key : Option String) : Option String := key.filter fun k => k != ""

/-- The number of a threshold: negative numbers count as zero. -/
def clampThreshold (t : Int64) : UInt64 := UInt64.ofNat t.toInt.toNat

/-- Milliseconds as nanoseconds, as far as they fit into 64 bits. -/
def millisToNanos (ms : UInt64) : UInt64 :=
  UInt64.ofNat (min (ms.toNat * nanosPerMilli) (UInt64.size - 1))

/-- Marks the name of a method with the kind of its unit, if the unit got a plan. -/
def annotateName (index : UnitIndex) (name : String) : String :=
  match index.kindOfMethod? name with
  | some kind => name ++ "#" ++ kind.text
  | none => name

/-- What a filter makes of an event: exceptions are dropped or get their number of frames, other events
pass. -/
def ExceptionFilter.pass (f : ExceptionFilter) : Event → Option Event
  | .exceptionThrown error _ => (f.decide error).map (.exceptionThrown error)
  | e => some e

namespace Reaction

/-- The outcome of an event that was offered to a handler. -/
def outcome : Reaction → Outcome
  | accepted => .delivered
  | refused _ => .failed
  | panicked _ => .failed

end Reaction

namespace Router

variable {H : Type}

/-- The router before any registration. -/
def initial : Router H := {}

instance : Inhabited (Router H) := ⟨initial⟩

/-- Registers a handler under its name, in place of an earlier one of that name. -/
def register (r : Router H) (name : String) (owner : Owner) (handler : H) :
    Except SetupError (Router H) :=
  if name = "" then .error .emptyHandlerName
  else .ok { r with handlers := r.handlers.insert name ⟨name, handler, owner⟩ }

/-- Sets the fallback handler, once. -/
def registerFallback (r : Router H) (handler : H) : Except SetupError (Router H) :=
  match r.fallback with
  | some _ => .error .secondDefaultHandler
  | none => .ok { r with fallback := some handler }

/-- The handler under a key. -/
def registration? (r : Router H) (key : String) : Option (Registration H) := r.handlers.find? key

/-- The number of keys with a handler. -/
def handlerCount (r : Router H) : Nat := r.handlers.size

/-- There is a fallback handler. -/
def hasFallback (r : Router H) : Bool := r.fallback.isSome

/-- The handler for a thread with this key. -/
def resolve? (r : Router H) (key : Option String) : Option H :=
  match effectiveKey key with
  | some k => (r.handlers.find? k).map Registration.handler
  | none => r.fallback

/-- Decides where an event goes, and in which form. -/
def offer (r : Router H) (index : UnitIndex) (key : Option String) (e : Event) : Offer H :=
  match r.resolve? key with
  | none => .unrouted
  | some handler =>
      match r.filter.pass e with
      | none => .filtered
      | some e => .deliver handler (e.mapMethodName (annotateName index))

/-- Counts how an event ended. -/
def conclude (r : Router H) (kind : EventKind) (outcome : Outcome) : Router H :=
  { r with metrics := r.metrics.record kind outcome }

/-- Dispatches an event to a handler that leaves the router alone. Returns what the handler got. -/
def dispatch (r : Router H) (index : UnitIndex) (key : Option String)
    (react : H → Event → Reaction) (e : Event) : Option (H × Event) × Router H :=
  match r.offer index key e with
  | .unrouted => (none, r.conclude e.kind .unrouted)
  | .filtered => (none, r.conclude e.kind .filtered)
  | .deliver handler e' => (some (handler, e'), r.conclude e.kind (react handler e').outcome)

/-- Sets the threshold of slow queries. -/
def setQueryThresholdMs (r : Router H) (t : Int64) : Router H :=
  { r with queryThresholdMs := clampThreshold t }

/-- Sets the threshold of cache calls in milliseconds. -/
def setCacheThresholdMs (r : Router H) (t : Int64) : Router H :=
  { r with cacheThresholdNs := millisToNanos (clampThreshold t) }

/-- Sets the threshold of cache calls in nanoseconds. -/
def setCacheThresholdNs (r : Router H) (t : Int64) : Router H :=
  { r with cacheThresholdNs := clampThreshold t }

/-- Sets the filter of exceptions. -/
def setFilter (r : Router H) (f : ExceptionFilter) : Router H := { r with filter := f }

/-- Forgets all counts. -/
def resetMetrics (r : Router H) : Router H := { r with metrics := .zero }

/-- A truth value in a description. -/
def shownBool (b : Bool) : String := if b then "true" else "false"

/-- The description of a router. -/
def shown (r : Router H) : String :=
  "DispatchCoordinator \x7b handlers: " ++ Decimal.natText r.handlerCount ++
    ", has_default: " ++ shownBool r.hasFallback ++
    ", query_threshold_ms: " ++ Decimal.natText r.queryThresholdMs.toNat ++
    ", cache_threshold_ns: " ++ Decimal.natText r.cacheThresholdNs.toNat ++ ", .. \x7d"

end Router

/-- The description of an owner. -/
def Owner.shown (o : Owner) : String := "OwnerIdentity(" ++ o.getD "anonymous" ++ ")"

/-- The description of a registration. -/
def Registration.shown {H : Type} (r : Registration H) : String :=
  "HandlerRegistration \x7b dispatch_key: " ++ shownText r.key ++ ", owner: " ++
    Owner.shown r.owner ++ ", .. \x7d"

end Instrumentation
