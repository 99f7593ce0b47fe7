import Instrumentation.Config.Types

set_option autoImplicit false

/-!
# Rules of a configuration

A configured rule becomes a rule of the registry unless its name is empty, its pattern is refused or one
of its methods has no name; of several faults the first in this order is reported.
-/

namespace Instrumentation

/-- The hook of a configured method. -/
def MethodConfig.hook (m : MethodConfig) : Hook :=
  { method := m.name
    signature := m.signature
    reportCaughtExceptions := m.reportCaughtExceptions
    reportOnEntry := m.reportOnEntry
    minDurationNanos := m.minDurationThresholdNanos
    factory := .standard m.action }

namespace TargetConfig

/-- The rule before its settings and hooks. -/
def bareRule (t : TargetConfig) : Except SetupError Rule :=
  if t.pattern then Rule.pattern t.name t.kind else .ok (Rule.exact t.name t.kind)

/-- The rule of a configured one. -/
def toRule (t : TargetConfig) : Except SetupError Rule := do
  if t.name = "" then throw .emptyTargetName
  let r ← t.bareRule
  if t.methods.any fun m => m.name == "" then throw (.emptyMethodName t.name)
  return { r with
    reportCaughtExceptions := t.reportCaughtExceptions
    reportExecutionTime := t.reportExecutionTime
    hooks := HookTable.addAll [] (t.methods.map MethodConfig.hook) }

end TargetConfig

namespace AgentConfig

/-- The rules of a configuration, or the error of the first one that is refused. -/
def rules (c : AgentConfig) : Except SetupError (List Rule) := c.targetConfigs.mapM TargetConfig.toRule

/-- The error of the first rule that is refused, if there is one. -/
def validate (c : AgentConfig) : Except SetupError Unit := c.rules.map fun _ => ()

end AgentConfig

end Instrumentation
