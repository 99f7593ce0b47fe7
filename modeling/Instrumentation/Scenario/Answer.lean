import Instrumentation.Scenario.Step

set_option autoImplicit false

/-!
# Answers of scripts

What a script reports for each of its steps. The answers are data; how they are written is not decided
here.
-/

namespace Instrumentation.Scenario

/-- A context as scripts see it: what it holds, and the names under which it is kept, in order. -/
structure ContextView where
  value : ContextValue
  names : List String
deriving DecidableEq, Repr, Inhabited

/-- The context of a thread: as a whole, and read as a text, a number and an operation. -/
structure ContextReading where
  context : Option ContextView
  text : Option String
  number : Option UInt64
  operation : Option OperationId
deriving DecidableEq, Repr, Inhabited

/-- The counts and settings of a registry. -/
structure RegistryState where
  pending : Nat
  patterns : Nat
  /-- The excluded beginnings, sorted. -/
  excluded : List String
  debugMode : Bool
  builtInEnabled : Bool
  indexed : Nat
  metrics : RegistryMetrics

/-- The counts and settings of a router, and its description. -/
structure RouterState where
  handlers : Nat
  hasFallback : Bool
  queryThresholdMs : UInt64
  cacheThresholdNs : UInt64
  shown : String

/-- A registration, with the descriptions of itself and of its owner. -/
structure RegistrationView where
  key : String
  handler : String
  owner : Owner
  shown : String
  shownOwner : String

mutual

/-- What a step reports. -/
inductive Answer where
  | done
  | fault (fault : Fault)
  | number (value : Nat)
  | flag (value : Bool)
  | flags (values : List Bool)
  | ruleCounts (pending patterns : Nat)
  | plan (plan : Option Plan) (queries : List Query)
  /-- A plan with what was logged while the loader was asked. -/
  | discovered (plan : Option Plan) (queries : List Query) (log : List LogEntry)
  | kinds (kinds : List (Option UnitKind))
  /-- For each unit, the kinds that the registry and the router know. -/
  | kindPairs (pairs : List (Option UnitKind × Option UnitKind))
  | registryState (state : RegistryState)
  | routerState (state : RouterState)
  | metrics (registry : RegistryMetrics) (dispatch : DispatchSnapshot)
  | registered (key : String) (count : Nat)
  | registration (registration : Option RegistrationView)
  | log (entries : List LogEntry)
  | snapshot (snapshot : DispatchSnapshot)
  | counts (counts : EventCounts)
  /-- The key of a thread, and the key by which its events are routed. -/
  | key (raw effective : Option String)
  | context (context : Option ContextView)
  | reading (reading : ContextReading)
  | nested (transcript : Transcript)
  /-- A script on a thread of its own, and the context of the thread after it. -/
  | nestedThen (transcript : Transcript) (after : Option ContextView)
  | transcripts (transcripts : List Transcript)

/-- The answers of a script: one for each step up to a panic. -/
inductive Transcript where
  | mk (answers : List Answer) (panic : Option PanicPayload)

/-- An entry of the log. -/
inductive LogEntry where
  /-- A handler got an event, and ran a script if it had one. -/
  | handled (label : String) (event : Event) (nested : Option Transcript)
  /-- The loader ran a script when it was asked about a unit. -/
  | asked (unit : String) (nested : Transcript)

end

instance : Inhabited Transcript := ⟨.mk [] none⟩
instance : Inhabited Answer := ⟨.done⟩
instance : Inhabited LogEntry := ⟨.asked "" default⟩

namespace Transcript

/-- The answers. -/
def answers : Transcript → List Answer
  | mk as _ => as

/-- The panic that ended the script. -/
def panic : Transcript → Option PanicPayload
  | mk _ p => p

/-- One more answer in front. -/
def prepend (a : Answer) : Transcript → Transcript
  | mk as p => mk (a :: as) p

/-- The answers of two scripts, the second of which continues the first. -/
def append : Transcript → Transcript → Transcript
  | mk as p, mk bs q => mk (as ++ bs) (p.orElse fun _ => q)

end Transcript

end Instrumentation.Scenario
