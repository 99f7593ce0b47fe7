set_option autoImplicit false

/-!
# Places in a text

A cursor is what is left of a text, with the line and column of its first character. Columns count
characters. A line ends at a line feed, a carriage return, both together, the next-line control, or one
of the two separators of lines and paragraphs.
-/

namespace Instrumentation.Yaml

/-- The next-line control. -/
def nextLine : Char := '\x85'

/-- The separator of lines. -/
def lineSeparator : Char := '\u2028'

/-- The separator of paragraphs. -/
def paragraphSeparator : Char := '\u2029'

/-- The mark of the order of bytes. -/
def byteOrderMark : Char := '\ufeff'

/-- Characters that end a line. -/
def isBreak (c : Char) : Bool :=
  c == '\n' || c == '\r' || c == nextLine || c == lineSeparator || c == paragraphSeparator

/-- Blanks inside a line. -/
def isBlank (c : Char) : Bool := c == ' ' || c == '\t'

/-- Blanks and line ends. -/
def isGap (c : Char) : Bool := isBlank c || isBreak c

/-- The text that a line end stands for: separators stand for themselves, all others for a line feed. -/
def breakText (c : Char) : Char :=
  if c == lineSeparator || c == paragraphSeparator then c else '\n'

/-- Letters, digits, the underscore and the dash. -/
def isWordChar (c : Char) : Bool := c.isAlphanum || c == '_' || c == '-'

/-- The value of a decimal digit. -/
def decimalDigit? (c : Char) : Option Nat := if c.isDigit then some (c.toNat - 48) else none

/-- Characters that may occur in a text: no control characters but tab and line ends. -/
def isAllowed (c : Char) : Bool :=
  let n := c.toNat
  n == 0x09 || n == 0x0A || n == 0x0D || (0x20 ≤ n && n ≤ 0x7E) || n == 0x85 ||
    (0xA0 ≤ n && n ≤ 0xD7FF) || (0xE000 ≤ n && n ≤ 0xFFFD) || 0x10000 ≤ n

/-- A place in a text. -/
structure Cursor where
  rest : List Char
  line : Nat := 0
  column : Nat := 0
  index : Nat := 0
deriving Inhabited

namespace Cursor

/-- The number of characters that are left. -/
def length (c : Cursor) : Nat := c.rest.length

/-- The characters at the cursor begin with the given ones. -/
def startsWith (c : Cursor) (cs : List Char) : Bool := cs.isPrefixOf c.rest

/-- The character at a distance from the cursor. -/
def ahead? (c : Cursor) (n : Nat) : Option Char := c.rest[n]?

/-- Nothing, a blank or a line end stands at a distance from the cursor. -/
def gapAt (c : Cursor) (n : Nat) : Bool := (c.ahead? n).all isGap

/-- Moves over characters of one line. -/
def skip (c : Cursor) (n : Nat) : Cursor :=
  { c with rest := c.rest.drop n, column := c.column + n, index := c.index + n }

/-- Moves over a line end. -/
def skipBreak (c : Cursor) : Cursor :=
  let n := if c.startsWith ['\r', '\n'] then 2 else 1
  { rest := c.rest.drop n, line := c.line + 1, column := 0, index := c.index + n }

/-- The characters at the cursor that satisfy a condition, and the place after them. The condition must
exclude line ends. -/
def span (p : Char → Bool) (c : Cursor) : List Char × Cursor :=
  let cs := c.rest.takeWhile p
  (cs, c.skip cs.length)

/-- Moves over the characters that satisfy a condition. -/
def dropWhile (p : Char → Bool) (c : Cursor) : Cursor := (c.span p).2

/-- A mark of three characters stands at the beginning of a line, and a gap after it. -/
def atMark (c : Cursor) (mark : Char) : Bool :=
  c.column == 0 && c.startsWith [mark, mark, mark] && c.gapAt 3

/-- The mark of the start or of the end of a document stands at the cursor. -/
def atDocumentMark (c : Cursor) : Bool := c.atMark '-' || c.atMark '.'

/-- The end of a line after blanks and a comment; none if something else stands there. -/
def endOfLine? (c : Cursor) : Option Cursor :=
  let c := c.dropWhile isBlank
  let c := if c.startsWith ['#'] then c.dropWhile (fun d => !isBreak d) else c
  match c.rest with
  | [] => some c
  | d :: _ => if isBreak d then some c.skipBreak else none

end Cursor

end Instrumentation.Yaml
