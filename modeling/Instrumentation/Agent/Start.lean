import Instrumentation.Agent
import Instrumentation.Config.Load

set_option autoImplicit false

/-!
# Starting the agent

An agent starts from a configuration file or in a directory. If that fails, the error tells what was tried
and why it did not work.
-/

namespace Instrumentation

/-- Why an agent did not start. -/
inductive StartError where
  /-- No configuration was loaded. -/
  | unloaded (attempt : String) (cause : LoadError)
  /-- The configuration that was loaded is refused. -/
  | refused (cause : SetupError)
deriving DecidableEq, Repr, Inhabited

/-- What was tried. -/
def StartError.attempt : StartError → String
  | unloaded attempt _ => attempt
  | refused _ => "Agent configuration rejected"

namespace Agent

variable {H : Type}

/-- The agent of a configuration that was tried to be loaded. -/
def ofLoaded (attempt : String) (loaded : Except LoadError AgentConfig) :
    Except StartError (Agent H) := do
  let c ← loaded.mapError (StartError.unloaded attempt)
  (ofConfig c).mapError StartError.refused

/-- Starts the agent with the configuration of a file in a directory. -/
def startFromFile (t : FileTree) (directory path : String) : Except StartError (Agent H) :=
  ofLoaded ("Failed to load agent configuration from " ++ directory ++ "/" ++ path)
    (AgentConfig.loadFile t (.ofText path))

/-- Starts the agent in a directory. -/
def startIn (t : FileTree) (directory : String) (explicit : Option String) :
    Except StartError (Agent H) :=
  ofLoaded ("Failed to load agent configuration for " ++ directory)
    (AgentConfig.load t directory explicit)

end Agent

end Instrumentation
