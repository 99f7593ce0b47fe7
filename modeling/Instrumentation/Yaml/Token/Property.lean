import Instrumentation.Json.Text
import Instrumentation.Yaml.Cursor
import Instrumentation.Yaml.Token

set_option autoImplicit false

/-!
# Names, tags and directives in the text
-/

namespace Instrumentation.Yaml

/-- The characters that may follow a name directly. -/
def endsName (c : Char) : Bool :=
  isGap c || c == '?' || c == ':' || c == ',' || c == ']' || c == '\x7d' || c == '%' || c == '@' ||
    c == '\x60'

/-- The name of an anchor or of an alias, after its mark. -/
def scanName (c : Cursor) : Option (String × Cursor) :=
  let (name, rest) := c.span isWordChar
  if !name.isEmpty ∧ (rest.ahead? 0).all endsName then some (String.ofList name, rest) else none

/-- The characters of a tag beside letters and digits. -/
def isTagChar (c : Char) : Bool :=
  isWordChar c || [';', '/', '?', ':', '@', '&', '=', '+', '$', '.', '!', '~', '*', '\'', '(', ')'].contains c

/-- The value of an escaped byte after its percent sign. -/
def escapedByte? (c : Cursor) : Option (UInt8 × Cursor) :=
  match c.rest with
  | '%' :: a :: b :: _ => do
      let a ← Json.Text.hexDigit? a
      let b ← Json.Text.hexDigit? b
      some (UInt8.ofNat (a * 16 + b), c.skip 3)
  | _ => none

/-- The number of bytes of the character that begins with a byte. -/
def widthOf? (first : UInt8) : Option Nat :=
  if first < 0x80 then some 1
  else if 0xC0 ≤ first ∧ first < 0xE0 then some 2
  else if 0xE0 ≤ first ∧ first < 0xF0 then some 3
  else if 0xF0 ≤ first ∧ first < 0xF8 then some 4
  else none

/-- The escaped bytes that continue a character. -/
def continuation? : Nat → Cursor → Option (List UInt8 × Cursor)
  | 0, c => some ([], c)
  | n + 1, c => do
      let (b, c) ← escapedByte? c
      if 0x80 ≤ b ∧ b < 0xC0 then
        let (bs, c) ← continuation? n c
        some (b :: bs, c)
      else none

/-- A character that is written as escaped bytes. -/
def escapedChar? (c : Cursor) : Option (List Char × Cursor) := do
  let (first, c) ← escapedByte? c
  let width ← widthOf? first
  let (bs, c) ← continuation? (width - 1) c
  let s ← String.fromUTF8? ⟨(first :: bs).toArray⟩
  some (s.toList, c)

/-- The text of a tag. Between angle brackets it may contain commas and square brackets. -/
def tagText (bracketed : Bool) : Nat → Cursor → Option (List Char × Cursor)
  | 0, c => some ([], c)
  | fuel + 1, c =>
      match c.rest with
      | [] => some ([], c)
      | d :: _ =>
          if d = '%' then do
            let (cs, c) ← escapedChar? c
            let (ds, c) ← tagText bracketed fuel c
            some (cs ++ ds, c)
          else if isTagChar d || (bracketed && (d == ',' || d == '[' || d == ']')) then do
            let (ds, c) ← tagText bracketed fuel (c.skip 1)
            some (d :: ds, c)
          else some ([], c)

/-- A tag text that must not be empty. -/
def scanTagText (bracketed : Bool) (c : Cursor) : Option (List Char × Cursor) := do
  let (cs, c) ← tagText bracketed (c.length + 1) c
  if cs.isEmpty then none else some (cs, c)

/-- A tag: a text in angle brackets, a shorthand handle with a suffix, or a suffix of the primary handle.
The lone mark is a tag of its own. -/
def scanTag (inFlow : Bool) (c : Cursor) : Option (Token × Cursor) := do
  let (tag, after) ←
    if c.startsWith ['!', '<'] then do
      let (cs, c) ← scanTagText true (c.skip 2)
      if c.startsWith ['>'] then some (Token.tag "" (String.ofList cs), c.skip 1) else none
    else
      let (name, c') := (c.skip 1).span isWordChar
      if c'.startsWith ['!'] then do
        let (cs, rest) ← scanTagText false (c'.skip 1)
        some (Token.tag (String.ofList ('!' :: name ++ ['!'])) (String.ofList cs), rest)
      else do
        let (cs, rest) ← tagText false (c'.length + 1) c'
        let suffix := String.ofList (name ++ cs)
        some (if suffix = "" then Token.tag "" "!" else Token.tag "!" suffix, rest)
  if after.gapAt 0 || (inFlow && after.startsWith [',']) then some (tag, after) else none

/-- A number of a version, of at most nine digits. -/
def scanVersionNumber (c : Cursor) : Option (Nat × Cursor) :=
  let (ds, c) := c.span Char.isDigit
  if ds.isEmpty || 9 < ds.length then none
  else some ((ds.filterMap decimalDigit?).foldl (fun n d => n * 10 + d) 0, c)

/-- The version that a directive declares. -/
def scanVersion (c : Cursor) : Option (Token × Cursor) := do
  let (major, c) ← scanVersionNumber (c.dropWhile isBlank)
  if c.startsWith ['.'] then
    let (minor, c) ← scanVersionNumber (c.skip 1)
    some (.version major minor, c)
  else none

/-- The handle that a directive declares: one mark, or a name between two marks. -/
def scanHandle (c : Cursor) : Option (List Char × Cursor) :=
  if c.startsWith ['!'] then
    let (name, c) := (c.skip 1).span isWordChar
    if c.startsWith ['!'] then some ('!' :: name ++ ['!'], c.skip 1)
    else if name.isEmpty then some (['!'], c) else none
  else none

/-- The shorthand that a directive declares. -/
def scanShorthand (c : Cursor) : Option (Token × Cursor) := do
  let (handle, c) ← scanHandle (c.dropWhile isBlank)
  if (c.ahead? 0).any isBlank then
    let (uri, c) ← scanTagText true (c.dropWhile isBlank)
    if c.gapAt 0 then some (.tagShorthand (String.ofList handle) (String.ofList uri), c) else none
  else none

/-- A directive, with its line. -/
def scanDirective (c : Cursor) : Option (Token × Cursor) := do
  let (name, c) := (c.skip 1).span isWordChar
  if name.isEmpty || !c.gapAt 0 then none
  else do
    let (t, c) ←
      if name = ['Y', 'A', 'M', 'L'] then scanVersion c
      else if name = ['T', 'A', 'G'] then scanShorthand c
      else none
    some (t, ← c.endOfLine?)

end Instrumentation.Yaml
