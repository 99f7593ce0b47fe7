import Instrumentation.Config.FileTree
import Instrumentation.SetupError

set_option autoImplicit false

/-!
# Errors of reading and writing configuration files
-/

namespace Instrumentation

/-- What an error says about its cause. The words of the file system and of the format readers are left
open. -/
inductive Detail where
  | unstated
  | stated (text : String)
deriving DecidableEq, Repr, Inhabited

/-- The text of a detail. -/
def Detail.text : Detail → String
  | unstated => ""
  | stated s => s

/-- An error of reading or writing a configuration file. -/
inductive LoadError where
  | notFound (detail : Detail)
  | invalidFormat (detail : Detail)
  | io (detail : Detail)
  | yaml (detail : Detail)
  | json (detail : Detail)
  /-- The file was read, but one of its rules is refused. -/
  | rejected (error : SetupError)
deriving DecidableEq, Repr, Inhabited

namespace LoadError

/-- The text of an error. -/
def message : LoadError → String
  | notFound d => "Config file not found: " ++ d.text
  | invalidFormat d => "Invalid config format: " ++ d.text
  | io d => "IO error reading config: " ++ d.text
  | yaml d => "YAML parsing error: " ++ d.text
  | json d => "JSON parsing error: " ++ d.text
  | rejected e => "Configuration rejected: " ++ e.message

/-- The error behind an error. -/
def source? : LoadError → Option SetupError
  | rejected e => some e
  | _ => none

/-- An error of the file system. A missing file is told apart from all other faults. -/
def ofFileFault (detail : Detail) : FileFault → LoadError
  | .missing => notFound detail
  | .other => io detail

end LoadError

end Instrumentation
