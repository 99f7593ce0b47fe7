set_option autoImplicit false

/-!
# Errors of setting the agent up

Misuse of the registration and configuration interface. It is reported to the caller at once, and the
call that reports it changes nothing.
-/

namespace Instrumentation

/-- Why the pattern of a rule is refused. -/
inductive PatternFault where
  /-- Nothing is left after the package. -/
  | missingSimpleName
  /-- The expression does not read, or it is beyond a limit. -/
  | malformed
  | described (message : String)
deriving DecidableEq, Repr, Inhabited

/-- The text of a fault. What exactly is malformed in an expression is left open. -/
def PatternFault.message : PatternFault → String
  | missingSimpleName => "missing unit name pattern"
  | malformed => "<regex>"
  | described message => message

/-- An error of setting the agent up. -/
inductive SetupError where
  | invalidArgument (message : String)
  | alreadyRegistered (what : String)
  | invalidPattern (name : String) (fault : PatternFault)
  | invalidTarget (message : String)
deriving DecidableEq, Repr, Inhabited

namespace SetupError

/-- The text of an error. -/
def message : SetupError → String
  | invalidArgument m => "Invalid argument: " ++ m
  | alreadyRegistered what => "Already registered: " ++ what
  | invalidPattern name fault => "Invalid pattern for '" ++ name ++ "': " ++ fault.message
  | invalidTarget m => "Invalid target: " ++ m

/-- The rule of an empty name. -/
def emptyTargetName : SetupError := invalidTarget "target name must be non-empty"

/-- The rule of a hook without method name. -/
def emptyMethodName (target : String) : SetupError :=
  invalidTarget ("method name must be non-empty in target '" ++ target ++ "'")

/-- A handler without name. -/
def emptyHandlerName : SetupError :=
  invalidArgument "notification handler name must be non-empty"

/-- A second default handler. -/
def secondDefaultHandler : SetupError := alreadyRegistered "default notification handler"

end SetupError

end Instrumentation
