import Instrumentation.Config.FilePath

set_option autoImplicit false

/-!
# Trees of files

A directory with all that is in it, as far as configurations are looked for there. The directories above a
file are there with it. A path may lead out of the directory into the one around it, where nothing else is
known, and which stands for all directories further up.
-/

namespace Instrumentation

/-- What can stand at a path. -/
inductive FileEntry where
  | directory
  | file (content : ByteArray)

/-- Why a path cannot be read or written. -/
inductive FileFault where
  | missing
  | other
deriving DecidableEq, Repr, Inhabited

/-- A place that a path leads to: the names on the way from the directory, or from the one around it. -/
structure FilePlace where
  outside : Bool := false
  names : List String := []
deriving DecidableEq, Repr, Inhabited

namespace FilePlace

/-- The directory around a place. -/
def parent (p : FilePlace) : FilePlace :=
  if p.names.isEmpty then { outside := true } else { p with names := p.names.dropLast }

/-- The place with a name in the directory at a place. -/
def child (p : FilePlace) (name : String) : FilePlace := { p with names := p.names ++ [name] }

/-- Nothing but directories can stand at a place if something stands at another. -/
def isAbove (p q : FilePlace) : Bool := p.outside == q.outside && p.names.isPrefixOf q.names

end FilePlace

/-- The files and directories of a tree by their places; the first entry counts. -/
structure FileTree where
  entries : List (FilePlace × FileEntry) := []
  /-- The number of bytes in the path of the directory itself. -/
  directoryBytes : Nat := 0

namespace FileTree

/-- The tree with one more entry. -/
def put (t : FileTree) (place : FilePlace) (e : FileEntry) : FileTree :=
  { t with entries := (place, e) :: t.entries }

/-- What stands at a place. The directories above an entry need no entry of their own. -/
def entry? (t : FileTree) (place : FilePlace) : Option FileEntry :=
  match t.entries.lookup place with
  | some e => some e
  | none =>
      if place.names.isEmpty || t.entries.any fun e => place.isAbove e.1 then some .directory
      else none

/-- A file stands at a place. -/
def isFile (t : FileTree) (place : FilePlace) : Bool :=
  match t.entry? place with
  | some (.file _) => true
  | _ => false

/-- Where a part of a path leads to from a place. From a file it leads nowhere, not even if it is
empty. -/
def step (t : FileTree) (place : FilePlace) (part : String) : Except FileFault FilePlace :=
  if t.isFile place then .error .other
  else if FilePath.isIdle part then .ok place
  else if FilePath.isUpward part then .ok place.parent
  else if FilePath.nameLimit < part.utf8ByteSize then .error .other
  else if (t.entry? (place.child part)).isSome then .ok (place.child part)
  else .error .missing

/-- Where the parts of a path lead to. -/
def follow (t : FileTree) (parts : List String) : Except FileFault FilePlace :=
  parts.foldlM t.step {}

/-- What stands at a path, or why nothing can be found there. -/
def find (t : FileTree) (p : FilePath) : Except FileFault FileEntry := do
  if p.isUnusable t.directoryBytes then .error .other
  else
    match t.entry? (← t.follow p.parts) with
    | some e => .ok e
    | none => .error .missing

/-- Something stands at a path. -/
def contains (t : FileTree) (p : FilePath) : Bool := (t.find p).isOk

/-- The text of a file. A directory has none, nor has a file whose bytes do not encode one. -/
def readText (t : FileTree) (p : FilePath) : Except FileFault String := do
  match ← t.find p with
  | .directory => .error .other
  | .file content =>
      match String.fromUTF8? content with
      | some s => .ok s
      | none => .error .other

/-- A step to a directory, which is made if nothing stands there. -/
def stepMaking (state : FileTree × FilePlace) (part : String) :
    Except FileFault (FileTree × FilePlace) :=
  let (t, place) := state
  match t.step place part with
  | .ok place => .ok (t, place)
  | .error .missing => .ok (t.put (place.child part) .directory, place.child part)
  | .error .other => .error .other

/-- Makes the directories on a path. -/
def makeDirectories (t : FileTree) (p : FilePath) : Except FileFault FileTree :=
  if p.isUnusable t.directoryBytes then .error .other
  else do
    let (t, place) ← p.parts.foldlM stepMaking (t, {})
    if t.isFile place then .error .other else .ok t

/-- Writes a file whose directory is there. The path may not end with a slash. -/
def writeIn (t : FileTree) (p : FilePath) (content : ByteArray) : Except FileFault FileTree :=
  let named := FilePath.trimEnd (fun part => part == "") p.parts
  match named.getLast? with
  | none => .error .other
  | some last =>
      if FilePath.isIdle last || FilePath.isUpward last then do
        let _ ← t.follow named
        .error .other
      else do
        let place ← t.follow named.dropLast
        if named.length < p.parts.length ∨ t.isFile place ∨ FilePath.nameLimit < last.utf8ByteSize
        then .error .other
        else
          match t.entry? (place.child last) with
          | some .directory => .error .other
          | _ => .ok (t.put (place.child last) (.file content))

/-- Writes a file in place of the one before. The directories above it are made. -/
def write (t : FileTree) (p : FilePath) (content : ByteArray) : Except FileFault FileTree := do
  let t ← t.makeDirectories p.parent
  if p.isUnusable t.directoryBytes then .error .other else t.writeIn p content

/-- Writes a text into a file. -/
def writeText (t : FileTree) (p : FilePath) (text : String) : Except FileFault FileTree :=
  t.write p text.toUTF8

end FileTree

end Instrumentation
