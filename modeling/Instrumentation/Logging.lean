import Instrumentation.Config.Types

set_option autoImplicit false

/-!
# Settings of the agent's own log

The host may have a log of its own, in which case installing the agent's is refused and the host's stays.
-/

namespace Instrumentation

/-- Levels of log messages. -/
inductive LogLevel where
  | warn
  | debug
deriving DecidableEq, Repr, Inhabited

/-- The text of a level. -/
def LogLevel.text : LogLevel → String
  | warn => "WARN"
  | debug => "DEBUG"

/-- How the agent's messages are written. -/
structure LogSettings where
  level : LogLevel
  fileAndLine : Bool
  colors : Bool := false
  /-- A filter that counts in place of the level. -/
  filter : Option String := none
deriving DecidableEq, Repr, Inhabited

namespace LogSettings

/-- Warnings only. -/
def quiet : LogSettings := { level := .warn, fileAndLine := false }

/-- Everything, with the places in the agent's code. -/
def verbose : LogSettings := { level := .debug, fileAndLine := true }

/-- The settings of a configuration: everything in debug mode. -/
def ofConfig (c : AgentConfig) : LogSettings := if c.debugMode then verbose else quiet

/-- The settings with a filter. -/
def withFilter (s : LogSettings) (filter : String) : LogSettings := { s with filter := some filter }

end LogSettings

/-- Why the agent's log is not installed. -/
inductive LogFault where
  | alreadyInstalled
deriving DecidableEq, Repr, Inhabited

/-- Installs the agent's log in a host. A host that has a log keeps it. -/
def LogSettings.install (s : LogSettings) (host : Option LogSettings) : Except LogFault LogSettings :=
  match host with
  | some _ => .error .alreadyInstalled
  | none => .ok s

end Instrumentation
