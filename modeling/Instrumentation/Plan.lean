import Instrumentation.Rule

set_option autoImplicit false

/-!
# Plans

What the loader is told about one unit: how its methods are instrumented.
-/

namespace Instrumentation

/-- The instrumentation of one unit. -/
structure Plan where
  unit : String
  kind : UnitKind
  reportCaughtExceptions : Bool
  reportExecutionTime : Bool
  hooks : HookTable
  debugMode : Bool

namespace Plan

/-- The plan of a rule for the unit that the rule names. -/
def ofRule (r : Rule) (debugMode : Bool) : Plan :=
  { unit := r.name
    kind := r.kind
    reportCaughtExceptions := r.reportCaughtExceptions
    reportExecutionTime := r.reportExecutionTime
    hooks := r.hooks
    debugMode }

/-- The instrumentation of a method of the unit, if some hook applies to it. A unit that reports caught
exceptions does so in all its methods. -/
def instrument (p : Plan) (method signature : String) (access : UInt32) :
    Option MethodInstrumentation :=
  (p.hooks.find? method signature).map fun h =>
    let made := h.instrument { owner := p.unit, method, signature, access }
    { made with reportCaughtExceptions := made.reportCaughtExceptions || p.reportCaughtExceptions }

end Plan

end Instrumentation
