import Instrumentation.Ambient.Work
import Instrumentation.Dispatch.Submission
import Instrumentation.Scenario.Answer

set_option autoImplicit false

/-!
# Scripted hosts

The state in which scripts run: the agent, the handlers and what they have seen, named contexts and works,
a queue of tasks, and the slots and open scopes of the running thread.

A host may be detached: its registry and its router then have nothing to do with each other, and the router
has an index of its own.
-/

namespace Instrumentation.Scenario

/-- A handler of a host: its script, and how often it was called and asked for its name. -/
structure HandlerState where
  script : HandlerScript Step
  calls : Nat := 0
  nameCalls : Nat := 0

/-- The state of a host. -/
structure Host where
  /-- Handlers are known to the router by their places in `handlers`. -/
  agent : Agent Nat := {}
  /-- The index of the router of a detached host. -/
  ownIndex : Option UnitIndex := none
  handlers : Array HandlerState := #[]
  contexts : Table Context := ∅
  /-- The identity of the next context. -/
  created : Nat := 0
  works : Table (Work Context Script) := ∅
  queue : List (Work Context Script) := []
  log : Array LogEntry := #[]
  slots : Slots Context := {}
  /-- The running thread polls tasks in turn. -/
  polls : Bool := false
  /-- The open scopes of the running script with their names, newest first. -/
  scopes : List (String × Scope Context) := []

instance : Inhabited Host := ⟨{}⟩

instance : ThreadState Host Context where
  slots h := h.slots
  setSlots h slots := { h with slots }
  slots_setSlots _ _ := rfl

/-- What runs in a host. -/
abbrev HostM := StateM Host

/-- What a step comes to: an answer, or a panic of the thread. -/
abbrev StepResult := Except PanicPayload Answer

namespace Host

/-- A host whose registry and router are apart. -/
def detached : Host := { ownIndex := some {} }

/-- A host with an agent. -/
def ofAgent (agent : Agent Nat) : Host := { agent }

/-- The registry and the router are apart. -/
def isDetached (h : Host) : Bool := h.ownIndex.isSome

/-- The index that the router reads. -/
def routerIndex (h : Host) : UnitIndex := h.ownIndex.getD h.agent.registry.index

/-- Sets the registry. -/
def setRegistry (h : Host) (registry : Registry) : Host :=
  { h with agent := { h.agent with registry } }

/-- Sets the router. -/
def setRouter (h : Host) (router : Router Nat) : Host := { h with agent := { h.agent with router } }

instance : RoutingState Host Nat where
  router h := h.agent.router
  setRouter := setRouter
  index := routerIndex
  key h := h.slots.key
  router_setRouter _ _ := rfl
  index_setRouter _ _ := rfl
  key_setRouter _ _ := rfl

/-- Notes the kind of a unit in the index that the router reads. -/
def recordKind (h : Host) (unit : String) (kind : UnitKind) : Host :=
  match h.ownIndex with
  | some index => { h with ownIndex := some (index.record unit kind) }
  | none =>
      let r := h.agent.registry
      h.setRegistry { r with index := r.index.record unit kind }

/-- A context with the names under which it is kept. -/
def view (h : Host) (c : Context) : ContextView :=
  let names := (h.contexts.entries.filter fun e => e.2.sameAs c).map Prod.fst
  { value := c.value, names := names.mergeSort fun a b => decide (a ≤ b) }

/-- The view of a context that may be absent. -/
def view? (h : Host) (c : Option Context) : Option ContextView := c.map h.view

/-- The context of the running thread and what can be read from it. -/
def reading (h : Host) : ContextReading :=
  let c := h.slots.context
  { context := h.view? c
    text := c.bind Context.text?
    number := c.bind Context.number?
    operation := c.bind Context.operation? }

/-- A new context. -/
def create (h : Host) (value : ContextValue) : Context × Host :=
  ({ identity := h.created, value }, { h with created := h.created + 1 })

/-- The context that a name stands for; a name that is not known has no answer. -/
def find? (h : Host) : ContextName → Option (Option Context)
  | none => some none
  | some name => (h.contexts.find? name).map some

/-- The state of the registry. -/
def registryState (h : Host) : RegistryState :=
  let r := h.agent.registry
  { pending := r.pending.size
    patterns := r.patterns.size
    excluded := r.excluded.sorted
    debugMode := r.debugMode
    builtInEnabled := r.builtInEnabled
    indexed := r.index.size
    metrics := r.metrics }

/-- The state of the router. -/
def routerState (h : Host) : RouterState :=
  let r := h.agent.router
  { handlers := r.handlerCount
    hasFallback := r.hasFallback
    queryThresholdMs := r.queryThresholdMs
    cacheThresholdNs := r.cacheThresholdNs
    shown := r.shown }

/-- The entries of the log from a place on. -/
def logFrom (h : Host) (start : Nat) : List LogEntry := h.log.toList.drop start

end Host

end Instrumentation.Scenario
