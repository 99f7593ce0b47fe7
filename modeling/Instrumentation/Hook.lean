import Instrumentation.Hook.Action
import Instrumentation.UnitName

set_option autoImplicit false

/-!
# Hooks

A hook names a method, or one overload of it, and says how calls of the method are reported. Its factory
makes the instrumentation of a method that it matches. Hook tables hold one hook per method name and
signature: a hook that is added under the key of an earlier one takes its place.
-/

namespace Instrumentation

/-- A method that was met in a unit. -/
structure MethodOccurrence where
  owner : String
  method : String
  signature : String
  access : UInt32 := 0
deriving DecidableEq, Repr, Inhabited

/-- The name under which events report the method. -/
def MethodOccurrence.qualifiedName (o : MethodOccurrence) : String :=
  qualifiedMethodName o.owner o.method

/-- The instrumentation of one method. -/
structure MethodInstrumentation where
  qualifiedName : String
  signature : String
  action : HookAction
  reportOnEntry : Bool
  reportCaughtExceptions : Bool
  minDurationNanos : UInt64
deriving DecidableEq, Repr, Inhabited

/-- The settings of a hook. An empty signature stands for every overload. -/
structure HookSettings where
  method : String
  signature : String
  reportCaughtExceptions : Bool := false
  reportOnEntry : Bool := true
  minDurationNanos : UInt64 := 0
deriving DecidableEq, Repr, Inhabited

/-- Makes the instrumentation of a method from the settings of the hook that matches it. -/
abbrev InstrumentationFactory := HookSettings → MethodOccurrence → MethodInstrumentation

/-- The factory of an action: the method keeps its name and signature, the hook gives the settings. -/
def InstrumentationFactory.standard (action : HookAction) : InstrumentationFactory :=
  fun settings occurrence =>
    { qualifiedName := occurrence.qualifiedName
      signature := occurrence.signature
      action
      reportOnEntry := settings.reportOnEntry
      reportCaughtExceptions := settings.reportCaughtExceptions
      minDurationNanos := settings.minDurationNanos }

/-- The text that stands for a factory where a hook is shown. -/
def InstrumentationFactory.shown : String := "VisitorFactory(..)"

/-- A hook: its settings and its factory. -/
structure Hook extends HookSettings where
  factory : InstrumentationFactory

namespace Hook

/-- The hook of an action with the default settings. -/
def ofAction (method signature : String) (action : HookAction) : Hook :=
  { method, signature, factory := .standard action }

/-- The method name and signature under which a table keeps the hook. -/
def key (h : Hook) : String × String := (h.method, h.signature)

/-- The hook applies to a method. -/
def matchesMethod (h : Hook) (method signature : String) : Bool :=
  h.method == method && (h.signature == "" || h.signature == signature)

/-- The instrumentation that the hook makes of a method. -/
def instrument (h : Hook) (o : MethodOccurrence) : MethodInstrumentation :=
  h.factory h.toHookSettings o

end Hook

/-- The hooks of a rule, in the order in which their keys were first added. -/
abbrev HookTable := List Hook

namespace HookTable

/-- Adds a hook, in the place of the hook with the same key if there is one. -/
def add (hook : Hook) : HookTable → HookTable
  | [] => [hook]
  | h :: hs => if h.key = hook.key then hook :: hs else h :: add hook hs

/-- Adds hooks one after the other. -/
def addAll (t : HookTable) (hooks : List Hook) : HookTable := hooks.foldl (fun t h => add h t) t

/-- The first hook that applies to a method. -/
def find? (t : HookTable) (method signature : String) : Option Hook :=
  List.find? (fun h => h.matchesMethod method signature) t

end HookTable

end Instrumentation
