import Instrumentation.Config.LoadError
import Instrumentation.Config.Rules
import Instrumentation.Config.Written
import Instrumentation.Json.Document
import Instrumentation.Json.Printer
import Instrumentation.Yaml.Jump
import Instrumentation.Yaml.Printer

set_option autoImplicit false

/-!
# Configuration files

A configuration comes from one file only: the one that the environment names, or else the first of the
well-known ones that is there. If none is there, the default configuration applies. What is read must be a
configuration whose rules are all accepted; otherwise there is an error, and no other file is tried.
-/

namespace Instrumentation

/-- The names of configuration files, in the order in which they are looked for. -/
def configFileNames : List String :=
  ["agent-runtime.json", "agent-runtime.yaml", ".agent-runtime/config.json"]

/-- The variable of the environment that names a configuration file. -/
def configVariable : String := "AGENT_RUNTIME_CONFIG"

/-- The formats of configuration files. -/
inductive ConfigFormat where
  | json
  | yaml
deriving DecidableEq, Repr, Inhabited

/-- The format of a file, by its extension in any case of letters. -/
def ConfigFormat.ofPath (p : FilePath) : ConfigFormat :=
  if ["yaml", "yml"].contains (p.extension.map Char.toLower) then .yaml else .json

namespace AgentConfig

/-- The configuration that a text means. -/
def parse (format : ConfigFormat) (text : String) : Except LoadError AgentConfig :=
  match format with
  | .json => ((Json.Text.parse? text).bind fun t => read? (Json.Piece.whole t)).elim
      (.error (.json .unstated)) .ok
  | .yaml => ((Yaml.Piece.ofText? outline text).bind read?).elim (.error (.yaml .unstated)) .ok

/-- The text of a configuration. -/
def render (format : ConfigFormat) (c : AgentConfig) : String :=
  match format with
  | .json => c.toJson.pretty
  | .yaml => Yaml.render c.toJson

/-- The configuration, if all its rules are accepted. -/
def checked (c : AgentConfig) : Except LoadError AgentConfig :=
  match c.validate with
  | .ok () => .ok c
  | .error e => .error (.rejected e)

/-- Loads a configuration from a file. -/
def loadFile (t : FileTree) (p : FilePath) : Except LoadError AgentConfig := do
  let text ← (t.readText p).mapError (LoadError.ofFileFault .unstated)
  let c ← parse (.ofPath p) text
  c.checked

/-- Saves a configuration to a file. Its rules are not looked at. -/
def saveFile (t : FileTree) (p : FilePath) (c : AgentConfig) : Except LoadError FileTree :=
  (t.writeText p (c.render (.ofPath p))).mapError (LoadError.ofFileFault .unstated)

/-- The first of the well-known files that is there. -/
def findFile (t : FileTree) : Option String :=
  configFileNames.find? fun name => t.contains (.ofText name)

/-- Loads the configuration of an agent that starts in a directory. The name of the directory is told
where an explicitly named file is missing. -/
def load (t : FileTree) (directory : String) (explicit : Option String) :
    Except LoadError AgentConfig :=
  match explicit with
  | some path =>
      if t.contains (.ofText path) then loadFile t (.ofText path)
      else .error (.notFound (.stated (directory ++ "/" ++ path)))
  | none =>
      match findFile t with
      | some name => loadFile t (.ofText name)
      | none => .ok {}

end AgentConfig

end Instrumentation
