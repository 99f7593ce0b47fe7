set_option autoImplicit false

/-!
# Paths of files

A path is a list of parts, which are followed one by one from a directory. An empty part and a point stay
where they are, two points lead upwards, and every other part is the name of something in the directory.
Nothing is known about a path before it is followed: a part that leads upwards again does not make up for
one that leads nowhere.
-/

namespace Instrumentation

/-- The parts of a text between slashes. -/
def splitAtSlashes : List Char → List (List Char)
  | [] => [[]]
  | c :: cs =>
      if c = '/' then [] :: splitAtSlashes cs
      else
        match splitAtSlashes cs with
        | [] => [[c]]
        | p :: ps => (c :: p) :: ps

/-- A path from a directory. -/
structure FilePath where
  parts : List String
deriving DecidableEq, Repr, Inhabited

namespace FilePath

/-- The path that a text means. -/
def ofText (text : String) : FilePath := ⟨(splitAtSlashes text.toList).map String.ofList⟩

/-- The part stays where it is. -/
def isIdle (part : String) : Bool := part == "" || part == "."

/-- The part leads upwards. -/
def isUpward (part : String) : Bool := part == ".."

/-- Parts without those at their end that satisfy a condition. -/
def trimEnd (p : String → Bool) (parts : List String) : List String :=
  (parts.reverse.dropWhile p).reverse

/-- The name of the file, unless the last part that matters leads upwards. -/
def fileName? (p : FilePath) : Option String :=
  (trimEnd isIdle p.parts).getLast?.filter fun part => !isUpward part

/-- The path without its last part that matters. -/
def parent (p : FilePath) : FilePath := ⟨trimEnd isIdle (trimEnd isIdle p.parts).dropLast⟩

/-- The part of a name after its last point. A point at the beginning does not count. -/
def extensionOf (name : List Char) : List Char :=
  let reversed := name.reverse
  match reversed.dropWhile (fun c => c != '.') with
  | [] => []
  | [_] => []
  | _ => (reversed.takeWhile fun c => c != '.').reverse

/-- The extension of the file name. -/
def extension (p : FilePath) : String :=
  String.ofList (extensionOf (p.fileName?.getD "").toList)

/-- The greatest number of bytes in a name. -/
def nameLimit : Nat := 255

/-- The greatest number of bytes in a path. -/
def pathLimit : Nat := 4095

/-- The number of bytes in a path. -/
def bytes (p : FilePath) : Nat := (String.intercalate "/" p.parts).utf8ByteSize

/-- The path cannot be followed at all from a directory whose own path has a number of bytes: the two are
too long together, or there is a null character. -/
def isUnusable (directoryBytes : Nat) (p : FilePath) : Bool :=
  decide (pathLimit < directoryBytes + 1 + p.bytes) ||
    p.parts.any fun part => part.toList.contains '\x00'

end FilePath

end Instrumentation
