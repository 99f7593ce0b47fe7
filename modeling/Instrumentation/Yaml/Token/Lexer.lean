import Instrumentation.Yaml.Token.Property
import Instrumentation.Yaml.Token.Scalar

set_option autoImplicit false

/-!
# Splitting a text into tokens

Outside flow collections the columns of items and keys give the structure. A lexer keeps the columns of
the open block collections. A key of a mapping is only known as such when its colon is met; so the lexer
remembers, for every flow level, the place where a key may have begun, and puts the tokens of the key and
of its mapping in there. Such a key must end on its line and within 1024 characters.
-/

namespace Instrumentation.Yaml

/-- The greatest distance between the beginning of a key and its colon. -/
def keyReach : Nat := 1024

/-- A place where a key may have begun. -/
structure KeyCandidate where
  /-- Nothing but a key can stand there. -/
  required : Bool
  /-- The number of tokens before the key. -/
  place : Nat
  line : Nat
  column : Nat
  index : Nat
deriving DecidableEq, Repr, Inhabited

/-- A lexer: the text that is left, the open block collections, and the tokens so far. -/
structure Lexer where
  cursor : Cursor
  /-- The column of the innermost block collection, or `-1` outside all of them. -/
  indent : Int := -1
  /-- The columns of the outer block collections, innermost first. -/
  outer : List Int := []
  /-- The candidate of the current flow level. -/
  candidate : Option KeyCandidate := none
  /-- The candidates of the outer flow levels, innermost first. -/
  candidates : List (Option KeyCandidate) := []
  /-- A key may begin here. -/
  keyAllowed : Bool := true
  tokens : Array Token := #[]
deriving Inhabited

namespace Lexer

/-- The lexer stands inside a flow collection. -/
def inFlow (l : Lexer) : Bool := !l.candidates.isEmpty

/-- Adds a token. -/
def push (l : Lexer) (t : Token) : Lexer := { l with tokens := l.tokens.push t }

/-- Adds a token at a place. -/
def insert (l : Lexer) (place : Nat) (t : Token) : Lexer :=
  { l with tokens := l.tokens.insertIdxIfInBounds place t }

/-- Moves to a place in the text. -/
def moveTo (l : Lexer) (c : Cursor) : Lexer := { l with cursor := c }

/-- Closes block collections whose column is greater than the given one. -/
def closeBlocks (column : Int) : List Int → Lexer → Lexer
  | [], l => l
  | o :: os, l =>
      if column < l.indent then
        let l := l.push .blockEnd
        closeBlocks column os { l with indent := o, outer := os }
      else l

/-- Closes the block collections that end before a column. -/
def unroll (l : Lexer) (column : Int) : Lexer :=
  if l.inFlow then l else closeBlocks column l.outer l

/-- Opens a block collection at a column, unless one is open there. Its start goes to a place among the
tokens. -/
def roll (l : Lexer) (column : Nat) (place : Nat) (t : Token) : Lexer :=
  if !l.inFlow ∧ l.indent < column then
    let outer := l.indent :: l.outer
    let l := l.insert place t
    { l with indent := column, outer := outer }
  else l

/-- Opens a block collection at the cursor. -/
def rollHere (l : Lexer) (t : Token) : Lexer := l.roll l.cursor.column l.tokens.size t

/-- A candidate cannot become a key any more. -/
def isStale (c : Cursor) (k : KeyCandidate) : Bool :=
  decide (k.line < c.line) || decide (k.index + keyReach < c.index)

/-- Gives up candidates that are too far away. One that had to become a key is an error. -/
def dropStale (l : Lexer) : Option Lexer := do
  let check : Option KeyCandidate → Option (Option KeyCandidate)
    | some k => if isStale l.cursor k then (if k.required then none else some none) else some (some k)
    | none => some none
  let candidate ← check l.candidate
  let candidates ← l.candidates.mapM check
  some { l with candidate := candidate, candidates := candidates }

/-- Gives up the candidate of the current flow level. -/
def dropCandidate (l : Lexer) : Option Lexer :=
  match l.candidate with
  | some k => if k.required then none else some { l with candidate := none }
  | none => some l

/-- Notes that a key may begin at the cursor. -/
def noteCandidate (l : Lexer) : Option Lexer :=
  if l.keyAllowed then do
    let l ← l.dropCandidate
    let k : KeyCandidate := {
      required := !l.inFlow && l.indent == l.cursor.column
      place := l.tokens.size
      line := l.cursor.line
      column := l.cursor.column
      index := l.cursor.index }
    some { l with candidate := some k }
  else some l

/-- Moves over blanks, comments and line ends. A tab counts as a blank where no key may begin, and so does
the mark of the order of bytes at the start of a line. After a line end in a block a key may begin. -/
def skipGaps : Nat → Lexer → Lexer
  | 0, l => l
  | fuel + 1, l =>
      let c := l.cursor
      let c := if c.column = 0 ∧ c.startsWith [byteOrderMark] then c.skip 1 else c
      let tabs := l.inFlow || !l.keyAllowed
      let c := c.dropWhile fun d => d == ' ' || (tabs && d == '\t')
      let c := if c.startsWith ['#'] then c.dropWhile (fun d => !isBreak d) else c
      match c.rest with
      | [] => l.moveTo c
      | d :: _ =>
          if isBreak d then
            skipGaps fuel { l with cursor := c.skipBreak, keyAllowed := l.keyAllowed || !l.inFlow }
          else l.moveTo c

/-! ## The tokens by their first character -/

/-- A token of one character at the cursor. -/
def mark (l : Lexer) (t : Token) : Lexer := (l.push t).moveTo (l.cursor.skip 1)

/-- The end of all block collections. -/
def closeAll (l : Lexer) : Option Lexer := do
  let l ← (l.unroll (-1)).dropCandidate
  some { l with keyAllowed := false }

/-- The end of the text. -/
def finish (l : Lexer) : Option Lexer := closeAll l

/-- A directive. -/
def directive (l : Lexer) : Option Lexer := do
  let l ← l.closeAll
  let (t, c) ← scanDirective l.cursor
  some ((l.push t).moveTo c)

/-- The mark of the start or the end of a document. -/
def documentMark (l : Lexer) (t : Token) : Option Lexer := do
  let l ← l.closeAll
  some ((l.push t).moveTo (l.cursor.skip 3))

/-- The start of a flow collection, which may itself be a key. -/
def openFlow (l : Lexer) (t : Token) : Option Lexer := do
  let l ← l.noteCandidate
  let l : Lexer := { l with
    candidates := l.candidate :: l.candidates
    candidate := none
    keyAllowed := true }
  some (l.mark t)

/-- The end of a flow collection. -/
def closeFlow (l : Lexer) (t : Token) : Option Lexer := do
  let l ← l.dropCandidate
  let l := match l.candidates with
    | [] => l
    | k :: ks => { l with candidate := k, candidates := ks }
  some (({ l with keyAllowed := false } : Lexer).mark t)

/-- The separator in a flow collection. -/
def separator (l : Lexer) : Option Lexer := do
  let l ← l.dropCandidate
  some (({ l with keyAllowed := true } : Lexer).mark .separator)

/-- An item of a block sequence. -/
def item (l : Lexer) : Option Lexer := do
  if !l.inFlow ∧ !l.keyAllowed then none
  else do
    let l ← (l.rollHere .blockSequence).dropCandidate
    some (({ l with keyAllowed := true } : Lexer).mark .item)

/-- A key that is marked as such. -/
def explicitKey (l : Lexer) : Option Lexer := do
  if !l.inFlow ∧ !l.keyAllowed then none
  else do
    let l ← (l.rollHere .blockMapping).dropCandidate
    some (({ l with keyAllowed := !l.inFlow } : Lexer).mark .key)

/-- The colon before a value. It makes the candidate a key, if there is one. -/
def value (l : Lexer) : Option Lexer :=
  match l.candidate with
  | some k =>
      let l := (l.insert k.place .key).roll k.column k.place .blockMapping
      some (({ l with candidate := none, keyAllowed := false } : Lexer).mark .value)
  | none =>
      if !l.inFlow ∧ !l.keyAllowed then none
      else
        let l := l.rollHere .blockMapping
        some (({ l with keyAllowed := !l.inFlow } : Lexer).mark .value)

/-- A node property or a scalar on one place, which may be a key. -/
def atKey (l : Lexer) (scan : Cursor → Option (Token × Cursor)) : Option Lexer := do
  let l ← l.noteCandidate
  let (t, c) ← scan l.cursor
  some ((({ l with keyAllowed := false } : Lexer).push t).moveTo c)

/-- A block scalar. -/
def blockScalar (l : Lexer) (style : ScalarStyle) : Option Lexer := do
  let l ← l.dropCandidate
  let (text, c) ← scanBlock (style == .literal) l.indent (l.cursor.skip 1)
  some ((({ l with keyAllowed := true } : Lexer).push (.scalar style text)).moveTo c)

/-- A plain scalar. Where it ends after a line end, a key may begin. -/
def plainScalar (l : Lexer) : Option Lexer := do
  let l ← l.noteCandidate
  let (text, broken, c) ← scanPlain l.inFlow (l.indent + 1).toNat l.cursor
  some ((({ l with keyAllowed := broken } : Lexer).push (.scalar .plain text)).moveTo c)

/-- The characters that cannot begin a plain scalar, wherever they stand. -/
def isIndicator (c : Char) : Bool :=
  ['-', '?', ':', ',', '[', ']', '\x7b', '\x7d', '#', '&', '*', '!', '|', '>', '\'', '"', '%', '@',
    '\x60'].contains c

/-- A plain scalar begins at the cursor, whose first character is given. -/
def beginsPlain (l : Lexer) (d : Char) : Bool :=
  (!isGap d && !isIndicator d) ||
    (d == '-' && !(l.cursor.ahead? 1).any isBlank) ||
    (!l.inFlow && (d == '?' || d == ':') && !l.cursor.gapAt 1)

/-- Reads the token at the cursor, whose first character is given. -/
def next (l : Lexer) (d : Char) : Option Lexer :=
  let c := l.cursor
  if c.column = 0 ∧ d = '%' then l.directive
  else if c.atMark '-' then l.documentMark .documentStart
  else if c.atMark '.' then l.documentMark .documentEnd
  else if d = '[' then l.openFlow .flowSequence
  else if d = '\x7b' then l.openFlow .flowMapping
  else if d = ']' then l.closeFlow .flowSequenceEnd
  else if d = '\x7d' then l.closeFlow .flowMappingEnd
  else if d = ',' then l.separator
  else if d = '-' ∧ c.gapAt 1 then l.item
  else if d = '?' ∧ (l.inFlow ∨ c.gapAt 1) then l.explicitKey
  else if d = ':' ∧ (l.inFlow ∨ c.gapAt 1) then l.value
  else if d = '*' then l.atKey fun c => (scanName (c.skip 1)).map fun (n, c) => (.aliasOf n, c)
  else if d = '&' then l.atKey fun c => (scanName (c.skip 1)).map fun (n, c) => (.anchor n, c)
  else if d = '!' then l.atKey (scanTag l.inFlow)
  else if d = '|' ∧ !l.inFlow then l.blockScalar .literal
  else if d = '>' ∧ !l.inFlow then l.blockScalar .quoted
  else if d = '\'' then
    l.atKey fun c => (scanQuoted false (c.skip 1)).map fun (s, c) => (.scalar .quoted s, c)
  else if d = '"' then
    l.atKey fun c => (scanQuoted true (c.skip 1)).map fun (s, c) => (.scalar .quoted s, c)
  else if l.beginsPlain d then l.plainScalar
  else none

/-- Reads all tokens. -/
def run : Nat → Lexer → Option (List Token)
  | 0, _ => none
  | fuel + 1, l => do
      let l ← (skipGaps (l.cursor.length + 1) l).dropStale
      let l := l.unroll l.cursor.column
      match l.cursor.rest with
      | [] => do
          let l ← l.finish
          some l.tokens.toList
      | d :: _ => do run fuel (← l.next d)

end Lexer

/-- The tokens of a text; none if it has characters that are not allowed or does not split into tokens. -/
def Token.ofText? (text : String) : Option (List Token) :=
  let cs := text.toList
  if cs.all isAllowed then Lexer.run (cs.length + 2) { cursor := { rest := cs } } else none

end Instrumentation.Yaml
