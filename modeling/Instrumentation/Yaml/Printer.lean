import Instrumentation.Decimal.Shortest
import Instrumentation.Json.Printer
import Instrumentation.Yaml.Cursor
import Instrumentation.Yaml.Plain

set_option autoImplicit false

/-!
# Writing trees

Collections are written as blocks, empty ones on one line. The items of a sequence stand under their key,
without further indentation. Lines have no greatest width.

A text is written plainly where it reads back as the same text. One with line feeds becomes a literal block
where that is possible. Others go between single quotes, or between double quotes if they hold characters
that only an escape can show.
-/

namespace Instrumentation.Yaml

/-! ## Texts -/

/-- Characters that need no escape. -/
def isPrintable (c : Char) : Bool :=
  let n := c.toNat
  n == 0x0A || (0x20 ≤ n && n ≤ 0x7E) || (0xA0 ≤ n && n ≤ 0xD7FF) ||
    (0xE000 ≤ n && n ≤ 0xFFFD && n != 0xFEFF) || 0x10000 ≤ n

/-- Somewhere a character with one property is followed by one with another. -/
def hasPair (p q : Char → Bool) : List Char → Bool
  | a :: b :: cs => (p a && q b) || hasPair p q (b :: cs)
  | _ => false

/-- The characters that have a meaning of their own at the beginning of a node. -/
def isLeadingMark (c : Char) : Bool :=
  ['#', ',', '[', ']', '\x7b', '\x7d', '&', '*', '!', '|', '>', '\'', '"', '%', '@', '\x60'].contains c

/-- A text of which a part would be taken for something else if it were written plainly. -/
def hasMarks (cs : List Char) : Bool :=
  ['-', '-', '-'].isPrefixOf cs || ['.', '.', '.'].isPrefixOf cs || cs.head?.any isLeadingMark ||
    (cs.head?.any (fun c => c == '?' || c == '-') && (cs.drop 1).head?.all isGap) ||
    cs.getLast? == some ':' || hasPair (· == ':') isGap cs || hasPair isGap (· == '#') cs

/-- A text that is the same after it has been written plainly and read again as a text. -/
def allowsPlain (cs : List Char) : Bool :=
  cs.all (fun c => isPrintable c && !isBreak c) && cs.head? != some ' ' && cs.getLast? != some ' ' &&
    !hasMarks cs

/-- A text that can stand between single quotes. -/
def allowsSingle (cs : List Char) : Bool :=
  cs.all isPrintable && !hasPair isBreak (· == ' ') cs && !hasPair (· == ' ') isBreak cs

/-- A text that can stand in a literal block. -/
def allowsLiteral (cs : List Char) : Bool :=
  cs.all isPrintable && cs.getLast? != some ' ' && !hasPair (· == ' ') isBreak cs

/-- Blanks up to a column. -/
def indentation (column : Nat) : List Char := List.replicate column ' '

/-- A hexadecimal digit in upper case. -/
def upperHexChar (d : Nat) : Char := (Json.hexChar d).toUpper

/-- The digits of a number to the base sixteen, as many as are asked for. -/
def hexText (n : Nat) : Nat → List Char
  | 0 => []
  | width + 1 => hexText (n / 16) width ++ [upperHexChar (n % 16)]

/-- A character between double quotes. -/
def escapeDouble (c : Char) : List Char :=
  match c with
  | '\x00' => ['\\', '0']
  | '\x07' => ['\\', 'a']
  | '\x08' => ['\\', 'b']
  | '\t' => ['\\', 't']
  | '\n' => ['\\', 'n']
  | '\x0b' => ['\\', 'v']
  | '\x0c' => ['\\', 'f']
  | '\r' => ['\\', 'r']
  | '\x1b' => ['\\', 'e']
  | '"' => ['\\', '"']
  | '\\' => ['\\', '\\']
  | '\x85' => ['\\', 'N']
  | '\u2028' => ['\\', 'L']
  | '\u2029' => ['\\', 'P']
  | c =>
      let n := c.toNat
      if isPrintable c then [c]
      else if n ≤ 0xFF then '\\' :: 'x' :: hexText n 2
      else if n ≤ 0xFFFF then '\\' :: 'u' :: hexText n 4
      else '\\' :: 'U' :: hexText n 8

/-- A text between double quotes. -/
def doubleQuoted (cs : List Char) : List Char := '"' :: cs.flatMap escapeDouble ++ ['"']

/-- The lines of a text between single quotes. Lines after the first are indented. -/
def singleBody (column : Nat) : Bool → List Char → List Char
  | broken, [] => if broken then indentation column else []
  | broken, c :: cs =>
      if isBreak c then c :: singleBody column true cs
      else
        (if broken then indentation column else []) ++ (if c = '\'' then ['\'', '\''] else [c]) ++
          singleBody column false cs

/-- A text between single quotes. -/
def singleQuoted (column : Nat) (cs : List Char) : List Char :=
  '\'' :: singleBody column false cs ++ ['\'']

/-- The lines of a literal block. Lines that are not empty are indented. -/
def literalBody (column : Nat) : Bool → List Char → List Char
  | _, [] => []
  | broken, c :: cs =>
      if isBreak c then c :: literalBody column true cs
      else (if broken then indentation column else []) ++ c :: literalBody column false cs

/-- The signs after the mark of a literal block. The indentation is told if the text begins with a blank or
a line end; the line ends at the end of the text are told unless there is exactly one. -/
def literalSigns (cs : List Char) : List Char :=
  let indent := if cs.head?.any (fun c => c == ' ' || isBreak c) then ['2'] else []
  let chomping := match cs.reverse with
    | c :: rest =>
        if !isBreak c then ['-'] else if rest.head?.all isBreak then ['+'] else []
    | [] => ['-']
  indent ++ chomping

/-- A literal block. -/
def literalBlock (column : Nat) (cs : List Char) : List Char :=
  '|' :: literalSigns cs ++ '\n' :: literalBody column true cs

/-- A text as a node whose further lines begin at a column. -/
def scalarText (column : Nat) (s : String) : List Char :=
  let cs := s.toList
  if cs.contains '\n' then
    if allowsLiteral cs then literalBlock column cs else doubleQuoted cs
  else if Plain.isText s && allowsPlain cs then cs
  else if allowsSingle cs then singleQuoted column cs
  else doubleQuoted cs

/-- The name of a field. It has one line. -/
def fieldText (s : String) : List Char :=
  let cs := s.toList
  if cs.any isBreak then doubleQuoted cs else scalarText 0 s

/-- Ends a line, unless it has been ended already. -/
def endLine (cs : List Char) : List Char :=
  if cs.getLast?.any isBreak then cs else cs ++ ['\n']

/-! ## Trees -/

/-- A value that is written on the line where it begins. -/
def inline? (column : Nat) : Json → Option (List Char)
  | .null => some "null".toList
  | .bool b => some (if b then "true".toList else "false".toList)
  | .number n => some n.render.toList
  | .string s => some (scalarText column s)
  | .array [] => some ['[', ']']
  | .object [] => some ['\x7b', '\x7d']
  | _ => none

/-- The indentation of a line, unless it is there already. -/
def indentUnless (done : Bool) (column : Nat) : List Char := if done then [] else indentation column

mutual

/-- The lines of a value that begins at a column, where the first line has been indented already. -/
def block (column : Nat) (v : Json) : List Char :=
  match inline? column v, v with
  | some cs, _ => endLine cs
  | none, .array items => blockItems column true items
  | none, .object fields => blockFields column true fields
  | none, _ => []

/-- The lines of the items of a sequence. The flag tells whether the first line has been indented. -/
def blockItems (column : Nat) (indented : Bool) : List Json → List Char
  | [] => []
  | v :: vs =>
      indentUnless indented column ++ '-' :: ' ' :: block (column + 2) v ++
        blockItems column false vs

/-- The lines of the fields of a record. The flag tells whether the first line has been indented. -/
def blockFields (column : Nat) (indented : Bool) : List (String × Json) → List Char
  | [] => []
  | (name, v) :: fs =>
      indentUnless indented column ++ fieldText name ++ ':' :: blockValue column v ++
        blockFields column false fs

/-- The value of a field after its colon. -/
def blockValue (column : Nat) (v : Json) : List Char :=
  match inline? (column + 2) v, v with
  | some cs, _ => ' ' :: endLine cs
  | none, .array items => '\n' :: blockItems column false items
  | none, .object fields => '\n' :: blockFields (column + 2) false fields
  | none, _ => []

end

/-- The text of a value. -/
def render (v : Json) : String :=
  match inline? 2 v with
  | some cs => String.ofList (endLine cs)
  | none => String.ofList (block 0 v)

end Instrumentation.Yaml
