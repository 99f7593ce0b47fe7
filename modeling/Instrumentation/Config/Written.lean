import Instrumentation.Config.Types

set_option autoImplicit false

/-!
# Written configurations

The written form lists every field in the order of its structure. Reading fills in the default value of a
field that is left out; fields with other names are ignored.
-/

namespace Instrumentation

/-- The written form of a kind. -/
def UnitKind.toJson (k : UnitKind) : Json := .string k.text

/-- Reads a kind. -/
def UnitKind.read? {δ : Type} [Document δ] (d : δ) : Option UnitKind :=
  (Document.constant? d).bind UnitKind.ofText?

namespace ExceptionFilter

/-- The fields of a filter. -/
def outline : Outline :=
  .record [("enabled", .value), ("suppressedTypes", .list .value), ("validTypes", .list .value),
    ("maxStackSize", .value)]

/-- The written form of a filter. -/
def toJson (f : ExceptionFilter) : Json :=
  .object [("enabled", .bool f.enabled), ("suppressedTypes", .ofStrings f.suppressedTypes),
    ("validTypes", .ofStrings f.validTypes), ("maxStackSize", .ofNat f.maxStackSize.toNat)]

/-- Reads a filter. -/
def read? {δ : Type} [Document δ] (d : δ) : Option ExceptionFilter := do
  let r ← Document.record? outline.fieldNames d
  let base : ExceptionFilter := {}
  let enabled ← r.defaulted "enabled" Document.bool? base.enabled
  let suppressedTypes ←
    r.defaulted "suppressedTypes" (Document.list? Document.text?) base.suppressedTypes
  let validTypes ← r.defaulted "validTypes" (Document.list? Document.text?) base.validTypes
  let maxStackSize ← r.defaulted "maxStackSize" Document.uint64? base.maxStackSize
  some { enabled, suppressedTypes, validTypes, maxStackSize }

end ExceptionFilter

namespace MethodConfig

/-- The fields of a method. -/
def outline : Outline :=
  .record [("name", .value), ("signature", .value), ("action", .whole),
    ("reportCaughtExceptions", .value), ("reportOnEntry", .value),
    ("minDurationThresholdNanos", .value)]

/-- The written form of a method. -/
def toJson (m : MethodConfig) : Json :=
  .object [("name", .string m.name), ("signature", .string m.signature),
    ("action", m.action.toJson), ("reportCaughtExceptions", .bool m.reportCaughtExceptions),
    ("reportOnEntry", .bool m.reportOnEntry),
    ("minDurationThresholdNanos", .ofNat m.minDurationThresholdNanos.toNat)]

/-- Reads a method. -/
def read? {δ : Type} [Document δ] (d : δ) : Option MethodConfig := do
  let r ← Document.record? outline.fieldNames d
  let base : MethodConfig := {}
  let name ← r.defaulted "name" Document.text? base.name
  let signature ← r.defaulted "signature" Document.text? base.signature
  let action ← r.defaulted "action" HookAction.read? base.action
  let reportCaughtExceptions ←
    r.defaulted "reportCaughtExceptions" Document.bool? base.reportCaughtExceptions
  let reportOnEntry ← r.defaulted "reportOnEntry" Document.bool? base.reportOnEntry
  let minDurationThresholdNanos ←
    r.defaulted "minDurationThresholdNanos" Document.uint64? base.minDurationThresholdNanos
  some { name, signature, action, reportCaughtExceptions, reportOnEntry, minDurationThresholdNanos }

end MethodConfig

namespace TargetConfig

/-- The fields of a rule. -/
def outline : Outline :=
  .record [("name", .value), ("pattern", .value), ("kind", .value),
    ("reportCaughtExceptions", .value), ("reportExecutionTime", .value),
    ("methods", .list MethodConfig.outline)]

/-- The written form of a rule. -/
def toJson (t : TargetConfig) : Json :=
  .object [("name", .string t.name), ("pattern", .bool t.pattern), ("kind", t.kind.toJson),
    ("reportCaughtExceptions", .bool t.reportCaughtExceptions),
    ("reportExecutionTime", .bool t.reportExecutionTime),
    ("methods", .array (t.methods.map MethodConfig.toJson))]

/-- Reads a rule. -/
def read? {δ : Type} [Document δ] (d : δ) : Option TargetConfig := do
  let r ← Document.record? outline.fieldNames d
  let base : TargetConfig := {}
  let name ← r.defaulted "name" Document.text? base.name
  let pattern ← r.defaulted "pattern" Document.bool? base.pattern
  let kind ← r.defaulted "kind" UnitKind.read? base.kind
  let reportCaughtExceptions ←
    r.defaulted "reportCaughtExceptions" Document.bool? base.reportCaughtExceptions
  let reportExecutionTime ←
    r.defaulted "reportExecutionTime" Document.bool? base.reportExecutionTime
  let methods ← r.defaulted "methods" (Document.list? MethodConfig.read?) base.methods
  some { name, pattern, kind, reportCaughtExceptions, reportExecutionTime, methods }

end TargetConfig

namespace BuiltInConfig

/-- The fields of the settings of what comes with the agent. -/
def outline : Outline :=
  .record [("enabled", .value), ("jdbcEnabled", .value), ("httpEnabled", .value),
    ("cacheEnabled", .value), ("executorDiscovery", .value), ("sqlMaxQueryThresholdMs", .value),
    ("cacheThresholdMs", .value), ("exceptionFilter", ExceptionFilter.outline),
    ("simpleTargets", .list TargetConfig.outline)]

/-- The written form of the settings of what comes with the agent. -/
def toJson (b : BuiltInConfig) : Json :=
  .object [("enabled", .bool b.enabled), ("jdbcEnabled", .bool b.jdbcEnabled),
    ("httpEnabled", .bool b.httpEnabled), ("cacheEnabled", .bool b.cacheEnabled),
    ("executorDiscovery", .bool b.executorDiscovery),
    ("sqlMaxQueryThresholdMs", .ofInt b.sqlMaxQueryThresholdMs.toInt),
    ("cacheThresholdMs", .ofInt b.cacheThresholdMs.toInt),
    ("exceptionFilter", b.exceptionFilter.toJson),
    ("simpleTargets", .array (b.simpleTargets.map TargetConfig.toJson))]

/-- Reads the settings of what comes with the agent. -/
def read? {δ : Type} [Document δ] (d : δ) : Option BuiltInConfig := do
  let r ← Document.record? outline.fieldNames d
  let base : BuiltInConfig := {}
  let enabled ← r.defaulted "enabled" Document.bool? base.enabled
  let jdbcEnabled ← r.defaulted "jdbcEnabled" Document.bool? base.jdbcEnabled
  let httpEnabled ← r.defaulted "httpEnabled" Document.bool? base.httpEnabled
  let cacheEnabled ← r.defaulted "cacheEnabled" Document.bool? base.cacheEnabled
  let executorDiscovery ← r.defaulted "executorDiscovery" Document.bool? base.executorDiscovery
  let sqlMaxQueryThresholdMs ←
    r.defaulted "sqlMaxQueryThresholdMs" Document.int64? base.sqlMaxQueryThresholdMs
  let cacheThresholdMs ← r.defaulted "cacheThresholdMs" Document.int64? base.cacheThresholdMs
  let exceptionFilter ← r.defaulted "exceptionFilter" ExceptionFilter.read? base.exceptionFilter
  let simpleTargets ←
    r.defaulted "simpleTargets" (Document.list? TargetConfig.read?) base.simpleTargets
  some
    { enabled := enabled
      jdbcEnabled := jdbcEnabled
      httpEnabled := httpEnabled
      cacheEnabled := cacheEnabled
      executorDiscovery := executorDiscovery
      sqlMaxQueryThresholdMs := sqlMaxQueryThresholdMs
      cacheThresholdMs := cacheThresholdMs
      exceptionFilter := exceptionFilter
      simpleTargets := simpleTargets }

end BuiltInConfig

namespace AgentConfig

/-- The fields of a configuration. -/
def outline : Outline :=
  .record [("debugMode", .value), ("builtIn", BuiltInConfig.outline),
    ("requestedTargets", .list TargetConfig.outline), ("excludedPrefixes", .list .value)]

/-- The written form of a configuration. -/
def toJson (c : AgentConfig) : Json :=
  .object [("debugMode", .bool c.debugMode), ("builtIn", c.builtIn.toJson),
    ("requestedTargets", .array (c.requestedTargets.map TargetConfig.toJson)),
    ("excludedPrefixes", .ofStrings c.excludedPrefixes)]

/-- Reads a configuration. -/
def read? {δ : Type} [Document δ] (d : δ) : Option AgentConfig := do
  let r ← Document.record? outline.fieldNames d
  let base : AgentConfig := {}
  let debugMode ← r.defaulted "debugMode" Document.bool? base.debugMode
  let builtIn ← r.defaulted "builtIn" BuiltInConfig.read? base.builtIn
  let requestedTargets ←
    r.defaulted "requestedTargets" (Document.list? TargetConfig.read?) base.requestedTargets
  let excludedPrefixes ←
    r.defaulted "excludedPrefixes" (Document.list? Document.text?) base.excludedPrefixes
  some { debugMode, builtIn, requestedTargets, excludedPrefixes }

end AgentConfig

end Instrumentation
