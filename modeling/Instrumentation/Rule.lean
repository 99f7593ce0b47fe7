import Instrumentation.Hook
import Instrumentation.Pattern
import Instrumentation.SetupError
import Instrumentation.UnitKind

set_option autoImplicit false

/-!
# Rules

A rule says which units get a plan and what is in it. An exact rule names one unit. A pattern rule names
one package and describes simple names in it; its name is the package followed by a regular expression.
-/

namespace Instrumentation

/-- Where a rule comes from. Rules that are built in are never excluded. -/
inductive Origin where
  | builtIn
  | configured
deriving DecidableEq, Repr, Inhabited

/-- Which units a rule applies to. -/
inductive NameMatcher where
  | exact
  /-- The units of the package whose simple name the pattern accepts. -/
  | pattern (package : String) (simpleName : SimpleNamePattern)

/-- A rule. -/
structure Rule where
  name : String
  matcher : NameMatcher
  kind : UnitKind
  reportCaughtExceptions : Bool := false
  reportExecutionTime : Bool := true
  hooks : HookTable := []
  origin : Origin := .configured

namespace Rule

/-- The rule of one unit. -/
def exact (name : String) (kind : UnitKind) : Rule := { name, matcher := .exact, kind }

/-- The rule of the simple names that the part of the name after its last separator describes. -/
def pattern (name : String) (kind : UnitKind) : Except SetupError Rule :=
  let (package, simple) := (splitUnitName name).getD ("", name)
  if simple = "" then .error (.invalidPattern name .missingSimpleName)
  else
    match SimpleNamePattern.ofText? simple with
    | none => .error (.invalidPattern name .malformed)
    | some p => .ok { name, matcher := .pattern package p, kind }

/-- The rule with one more hook. -/
def addHook (r : Rule) (h : Hook) : Rule := { r with hooks := HookTable.add h r.hooks }

/-- The rule with more hooks, added one after the other. -/
def addHooks (r : Rule) (hs : List Hook) : Rule := { r with hooks := HookTable.addAll r.hooks hs }

/-- A rule that describes simple names. -/
def isPattern (r : Rule) : Bool :=
  match r.matcher with
  | .exact => false
  | .pattern .. => true

/-- The key under which a registry keeps the rule: the unit or the package. -/
def key (r : Rule) : String :=
  match r.matcher with
  | .exact => r.name
  | .pattern package _ => package

/-- A pattern rule accepts a simple name; an exact rule accepts none. -/
def accepts (r : Rule) (simpleName : String) : Bool :=
  match r.matcher with
  | .exact => false
  | .pattern _ p => p.accepts simpleName

/-- The rule of one unit with everything else as in this rule. -/
def forUnit (r : Rule) (unit : String) : Rule := { r with name := unit, matcher := .exact }

end Rule

end Instrumentation
