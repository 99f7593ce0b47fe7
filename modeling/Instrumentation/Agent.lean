import Instrumentation.Config.Rules
import Instrumentation.Dispatch.Router
import Instrumentation.Registry.Configure
import Instrumentation.Registry.Discover
import Instrumentation.Registry.Match

set_option autoImplicit false

/-!
# The agent

A registry and a router that share one index of units, and the switch for the discovery of executors. A
configuration is applied as a whole or not at all.
-/

namespace Instrumentation

/-- The version of the agent. -/
def agentVersion : String := "0.1.0"

/-- A registry and a router. The registry's index of units serves both. -/
structure Agent (H : Type) where
  registry : Registry := {}
  router : Router H := {}
  executorDiscovery : Bool := false

namespace Agent

variable {H : Type}

/-- The agent before any configuration. -/
def initial : Agent H := {}

instance : Inhabited (Agent H) := ⟨initial⟩

/-- Applies a configuration whose rules are known. -/
def applyRules (a : Agent H) (c : AgentConfig) (rules : List Rule) : Agent H :=
  { registry := (a.registry.setDebugMode c.debugMode).configure rules c.excludedPrefixes
      c.builtIn.selection
    router := ((a.router.setQueryThresholdMs c.builtIn.sqlMaxQueryThresholdMs).setCacheThresholdMs
      c.builtIn.cacheThresholdMs).setFilter c.builtIn.exceptionFilter
    executorDiscovery := c.builtIn.executorDiscovery }

/-- Applies a configuration, unless one of its rules is refused. -/
def reconfigure (a : Agent H) (c : AgentConfig) : Except SetupError (Agent H) := do
  let rules ← c.rules
  return a.applyRules c rules

/-- What changes an agent and may be refused. What was changed before the refusal stays changed. -/
abbrev Changing (H α : Type) := ExceptT SetupError (StateM (Agent H)) α

/-- Changes the registry. -/
def onRegistry (f : Registry → Registry) : Changing H Unit :=
  modify fun a => { a with registry := f a.registry }

/-- Changes the router. -/
def onRouter (f : Router H → Router H) : Changing H Unit :=
  modify fun a => { a with router := f a.router }

/-- Applies a configuration to an agent in use, one part after the other. -/
def applyConfig (c : AgentConfig) : Changing H Unit := do
  let rules ← MonadExcept.ofExcept c.rules
  onRegistry fun r => r.setDebugMode c.debugMode
  onRegistry fun r => r.configure rules c.excludedPrefixes c.builtIn.selection
  onRouter fun r => r.setQueryThresholdMs c.builtIn.sqlMaxQueryThresholdMs
  onRouter fun r => r.setCacheThresholdMs c.builtIn.cacheThresholdMs
  onRouter fun r => r.setFilter c.builtIn.exceptionFilter
  modify fun a => { a with executorDiscovery := c.builtIn.executorDiscovery }

/-- The agent of a configuration. -/
def ofConfig (c : AgentConfig) : Except SetupError (Agent H) := initial.reconfigure c

/-- The plan of a unit that the loader reports: from the rules, or else by discovery if that is on. -/
def probe (a : Agent H) (introspect : Introspector) (unit : String) : Option Plan × Agent H :=
  match a.registry.matchUnit unit with
  | (some plan, registry) => (some plan, { a with registry })
  | (none, registry) =>
      if a.executorDiscovery then
        let (plan, registry) := registry.discoverExecutor introspect unit
        (plan, { a with registry })
      else (none, { a with registry })

/-- Dispatches an event from a thread with this key. -/
def dispatch (a : Agent H) (key : Option String) (react : H → Event → Reaction) (e : Event) :
    Option (H × Event) × Agent H :=
  let (got, router) := a.router.dispatch a.registry.index key react e
  (got, { a with router })

end Agent

end Instrumentation
