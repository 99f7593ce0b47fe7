import Instrumentation.BuiltIn
import Instrumentation.Dispatch.Filter

set_option autoImplicit false

/-!
# Configurations

What the agent is told in its configuration file. Every field has a default value, which it takes when
it is left out.
-/

namespace Instrumentation

/-- One hooked method of a rule. An empty signature stands for every overload. -/
structure MethodConfig where
  name : String := ""
  signature : String := ""
  action : HookAction := .reportTiming
  reportCaughtExceptions : Bool := false
  reportOnEntry : Bool := true
  minDurationThresholdNanos : UInt64 := 0
deriving DecidableEq, Repr, Inhabited

/-- One rule. The name is the full name of a unit, or a package followed by a regular expression. -/
structure TargetConfig where
  name : String := ""
  pattern : Bool := false
  kind : UnitKind := .other
  reportCaughtExceptions : Bool := false
  reportExecutionTime : Bool := true
  methods : List MethodConfig := []
deriving DecidableEq, Repr, Inhabited

/-- The default thresholds of slow queries and cache calls, in milliseconds. -/
def defaultThresholdMs : Int64 := 10000

/-- The settings of what comes with the agent. -/
structure BuiltInConfig where
  enabled : Bool := true
  jdbcEnabled : Bool := true
  httpEnabled : Bool := true
  cacheEnabled : Bool := true
  /-- Units that no rule names are asked whether they are executors. -/
  executorDiscovery : Bool := false
  sqlMaxQueryThresholdMs : Int64 := defaultThresholdMs
  cacheThresholdMs : Int64 := defaultThresholdMs
  exceptionFilter : ExceptionFilter := {}
  /-- Further rules that come with the agent. Unlike built-in rules they can be excluded. -/
  simpleTargets : List TargetConfig := []
deriving DecidableEq, Repr, Inhabited

/-- A configuration. -/
structure AgentConfig where
  debugMode : Bool := false
  builtIn : BuiltInConfig := {}
  /-- The rules of the user. -/
  requestedTargets : List TargetConfig := []
  /-- Further excluded beginnings of unit names. -/
  excludedPrefixes : List String := []
deriving DecidableEq, Repr, Inhabited

namespace TargetConfig

/-- A rule of one unit with the default settings. -/
def exact (name : String) : TargetConfig := { name }

/-- A pattern rule with the default settings. -/
def ofPattern (name : String) : TargetConfig := { name, pattern := true }

/-- The rule with one more method. -/
def addMethod (t : TargetConfig) (m : MethodConfig) : TargetConfig :=
  { t with methods := t.methods ++ [m] }

end TargetConfig

/-- The families of built-in rules that are switched on. -/
def BuiltInConfig.selection (b : BuiltInConfig) : BuiltInSelection :=
  { enabled := b.enabled, jdbc := b.jdbcEnabled, http := b.httpEnabled, cache := b.cacheEnabled }

/-- All configured rules in the order in which they apply. -/
def AgentConfig.targetConfigs (c : AgentConfig) : List TargetConfig :=
  c.builtIn.simpleTargets ++ c.requestedTargets

end Instrumentation
