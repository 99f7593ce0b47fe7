import Instrumentation.Json.Text
import Instrumentation.Yaml.Cursor

set_option autoImplicit false

/-!
# Scalars in the text

Plain and quoted scalars may run over several lines. A gap of blanks and line ends inside them folds: one
line end becomes a blank, more line ends lose one. Block scalars are indented and keep or fold their
lines.
-/

namespace Instrumentation.Yaml

/-! ## Gaps -/

/-- Blanks and line ends between two words of a scalar. -/
structure Gap where
  /-- Blanks, as long as no line has ended. -/
  blanks : List Char := []
  /-- A line has ended. -/
  broken : Bool := false
  /-- The first line end; it is missing where an escape has removed it. -/
  first : Option Char := none
  /-- The other line ends. -/
  more : List Char := []

namespace Gap

/-- The text that a gap stands for. -/
def fold (g : Gap) : List Char :=
  if g.broken then
    match g.first with
    | some c =>
        if c = '\n' then (if g.more.isEmpty then [' '] else g.more) else c :: g.more
    | none => g.more
  else g.blanks

/-- One more blank. Blanks at the beginning of a line do not count. -/
def addBlank (g : Gap) (c : Char) : Gap :=
  if g.broken then g else { g with blanks := g.blanks ++ [c] }

/-- One more line end. -/
def addBreak (g : Gap) (c : Char) : Gap :=
  if g.broken then { g with more := g.more ++ [breakText c] }
  else { g with broken := true, first := some (breakText c) }

/-- Reads a gap. In a plain scalar no tab may stand left of its indentation. -/
def scan (limit : Nat) : Nat → Gap → Cursor → Option (Gap × Cursor)
  | 0, g, c => some (g, c)
  | fuel + 1, g, c =>
      match c.rest with
      | [] => some (g, c)
      | d :: _ =>
          if isBlank d then
            if d = '\t' ∧ g.broken ∧ c.column < limit then none
            else scan limit fuel (g.addBlank d) (c.skip 1)
          else if isBreak d then scan limit fuel (g.addBreak d) c.skipBreak
          else some (g, c)

end Gap

/-! ## Plain scalars -/

/-- The characters that have a meaning of their own in flow collections. -/
def isFlowMark (c : Char) : Bool := c == ',' || c == '[' || c == ']' || c == '\x7b' || c == '\x7d'

/-- The characters that must not follow a colon inside a plain scalar of a flow collection. -/
def spoilsColon (c : Char) : Bool := isFlowMark c || c == '?'

/-- A word of a plain scalar: up to a gap, a colon before a gap or, in a flow collection, a mark. -/
def plainWord (inFlow : Bool) : Nat → Cursor → Option (List Char × Cursor)
  | 0, c => some ([], c)
  | fuel + 1, c =>
      match c.rest with
      | [] => some ([], c)
      | d :: _ =>
          if isGap d then some ([], c)
          else if inFlow ∧ d = ':' ∧ (c.ahead? 1).any spoilsColon then none
          else if d = ':' ∧ c.gapAt 1 then some ([], c)
          else if inFlow ∧ isFlowMark d then some ([], c)
          else do
            let (cs, rest) ← plainWord inFlow fuel (c.skip 1)
            some (d :: cs, rest)

/-- The words of a plain scalar from the cursor on, where a gap has been read. Also tells whether the
scalar ends after a line end. -/
def plainWords (inFlow : Bool) (limit : Nat) : Nat → Gap → Cursor →
    Option (List Char × Bool × Cursor)
  | 0, g, c => some ([], g.broken, c)
  | fuel + 1, g, c =>
      if c.atDocumentMark || c.startsWith ['#'] then some ([], g.broken, c)
      else do
        let (word, after) ← plainWord inFlow (c.length + 1) c
        if word.isEmpty then some ([], g.broken, after)
        else do
          let (g', next) ← Gap.scan limit (after.length + 1) {} after
          if next.length = after.length then some (g.fold ++ word, false, after)
          else if !inFlow ∧ next.column < limit then some (g.fold ++ word, g'.broken, next)
          else do
            let (cs, broken, rest) ← plainWords inFlow limit fuel g' next
            some (g.fold ++ word ++ cs, broken, rest)

/-- A plain scalar: its text, whether it ends after a line end, and the place after it. -/
def scanPlain (inFlow : Bool) (limit : Nat) (c : Cursor) : Option (String × Bool × Cursor) := do
  let (cs, broken, rest) ← plainWords inFlow limit (c.length + 1) {} c
  some (String.ofList cs, broken, rest)

/-! ## Quoted scalars -/

/-- The character of an escape of one letter. -/
def letterEscape? : Char → Option Char
  | '0' => some '\x00'
  | 'a' => some '\x07'
  | 'b' => some '\x08'
  | 't' => some '\t'
  | '\t' => some '\t'
  | 'n' => some '\n'
  | 'v' => some '\x0b'
  | 'f' => some '\x0c'
  | 'r' => some '\r'
  | 'e' => some '\x1b'
  | ' ' => some ' '
  | '"' => some '"'
  | '/' => some '/'
  | '\\' => some '\\'
  | 'N' => some nextLine
  | '_' => some '\xa0'
  | 'L' => some lineSeparator
  | 'P' => some paragraphSeparator
  | _ => none

/-- The number of digits of an escape by code. -/
def codeLength? : Char → Option Nat
  | 'x' => some 2
  | 'u' => some 4
  | 'U' => some 8
  | _ => none

/-- The character of a code; surrogates and numbers beyond the last character have none. -/
def charOfCode? (n : Nat) : Option Char := if h : n.isValidChar then some (Char.ofNatAux n h) else none

/-- An escape after its backslash. -/
def scanEscape (c : Cursor) : Option (Char × Cursor) :=
  match c.rest with
  | [] => none
  | d :: rest =>
      match letterEscape? d with
      | some e => some (e, c.skip 1)
      | none => do
          let n ← codeLength? d
          let ds ← (rest.take n).mapM Json.Text.hexDigit?
          if ds.length = n then
            let e ← charOfCode? (ds.foldl (fun v d => v * 16 + d) 0)
            some (e, c.skip (n + 1))
          else none

/-- A word of a quoted scalar: up to a gap or the closing quote. An escaped line end also ends the word,
which the flag tells. -/
def quotedWord (double : Bool) : Nat → Cursor → Option (List Char × Bool × Cursor)
  | 0, c => some ([], false, c)
  | fuel + 1, c =>
      match c.rest with
      | [] => some ([], false, c)
      | d :: _ =>
          if isGap d then some ([], false, c)
          else if !double ∧ c.startsWith ['\'', '\''] then do
            let (cs, joined, rest) ← quotedWord double fuel (c.skip 2)
            some ('\'' :: cs, joined, rest)
          else if d = (if double then '"' else '\'') then some ([], false, c)
          else if double ∧ d = '\\' then
            if (c.ahead? 1).any isBreak then some ([], true, (c.skip 1).skipBreak)
            else do
              let (e, after) ← scanEscape (c.skip 1)
              let (cs, joined, rest) ← quotedWord double fuel after
              some (e :: cs, joined, rest)
          else do
            let (cs, joined, rest) ← quotedWord double fuel (c.skip 1)
            some (d :: cs, joined, rest)

/-- The rest of a quoted scalar, up to and including the closing quote. -/
def quotedWords (double : Bool) : Nat → Cursor → Option (List Char × Cursor)
  | 0, _ => none
  | fuel + 1, c =>
      if c.atDocumentMark || c.rest.isEmpty then none
      else do
        let (word, joined, after) ← quotedWord double (c.length + 1) c
        if !joined ∧ after.startsWith [if double then '"' else '\''] then some (word, after.skip 1)
        else do
          let (g, next) ← Gap.scan 0 (after.length + 1) { broken := joined } after
          let (cs, rest) ← quotedWords double fuel next
          some (word ++ g.fold ++ cs, rest)

/-- A quoted scalar after its opening quote. -/
def scanQuoted (double : Bool) (c : Cursor) : Option (String × Cursor) := do
  let (cs, rest) ← quotedWords double (c.length + 1) c
  some (String.ofList cs, rest)

/-! ## Block scalars -/

/-- What becomes of the line ends at the end of a block. -/
inductive Chomping where
  | strip
  | clip
  | keep
deriving DecidableEq, Repr, Inhabited

/-- The chomping that a sign stands for. -/
def chomping? : Char → Option Chomping
  | '+' => some .keep
  | '-' => some .strip
  | _ => none

/-- The sign and the digit after the mark of a block, in any order; each may be missing. The digit must
not be zero. -/
def scanBlockHeader (c : Cursor) : Option (Chomping × Option Nat × Cursor) :=
  let digit (c : Cursor) : Option (Option Nat × Cursor) :=
    match (c.ahead? 0).bind decimalDigit? with
    | some 0 => none
    | some n => some (some n, c.skip 1)
    | none => some (none, c)
  match (c.ahead? 0).bind chomping? with
  | some chomping => do
      let (indent, c) ← digit (c.skip 1)
      some (chomping, indent, c)
  | none => do
      let (indent, c) ← digit c
      match indent, (c.ahead? 0).bind chomping? with
      | some _, some chomping => some (chomping, indent, c.skip 1)
      | _, _ => some (.clip, indent, c)

/-- Empty lines of a block. While the indentation is not known, the widest line of blanks is noted. No tab
may stand in the indentation. -/
def blockBreaks (indent : Option Nat) : Nat → Nat → Cursor → Option (List Char × Nat × Cursor)
  | 0, widest, c => some ([], widest, c)
  | fuel + 1, widest, c =>
      let blanks := (c.rest.takeWhile fun d => d == ' ').length
      let c := c.skip (match indent with
        | some n => min blanks (n - c.column)
        | none => blanks)
      let widest := max widest c.column
      match c.rest with
      | [] => some ([], widest, c)
      | d :: _ =>
          if d = '\t' ∧ indent.all (fun n => decide (c.column < n)) then none
          else if isBreak d then do
            let (cs, widest, rest) ← blockBreaks indent fuel widest c.skipBreak
            some (breakText d :: cs, widest, rest)
          else some ([], widest, c)

/-- The lines of a block from the beginning of a line that is not empty. A folded block joins two lines by
a blank if neither begins with a blank and no empty line stands between them. The line end before the
lines, the empty lines before them and whether the line before begins with a blank are given. Returns the
text and what is left over for chomping. -/
def blockLines (literal : Bool) (indent : Nat) : Nat → Option Char → List Char → Bool → Cursor →
    Option (List Char × Option Char × List Char × Cursor)
  | 0, lead, breaks, _, c => some ([], lead, breaks, c)
  | fuel + 1, lead, breaks, blankBefore, c =>
      match c.rest with
      | [] => some ([], lead, breaks, c)
      | d :: _ =>
          if c.column = indent then do
            let join : List Char :=
              if !literal ∧ lead = some '\n' ∧ !blankBefore ∧ !isBlank d then
                if breaks.isEmpty then [' '] else []
              else lead.toList
            let (line, after) := c.span fun e => !isBreak e
            let (lead', next) := match after.rest with
              | [] => (none, after)
              | e :: _ => (some (breakText e), after.skipBreak)
            let (breaks', _, start) ← blockBreaks (some indent) (next.length + 1) 0 next
            let (cs, left, rest) ← blockLines literal indent fuel lead' breaks' (isBlank d) start
            some (join ++ breaks ++ line ++ cs, left, rest)
          else some ([], lead, breaks, c)

/-- The indentation of a block whose header does not give it: that of its widest leading line, but more
than the indentation around it. -/
def blockIndent (outer : Int) (widest : Nat) : Nat := max (max widest (outer + 1).toNat) 1

/-- A block scalar after its mark, in a block with the given indentation. -/
def scanBlock (literal : Bool) (outer : Int) (c : Cursor) : Option (String × Cursor) := do
  let (chomping, hint, c) ← scanBlockHeader c
  let c ← c.endOfLine?
  let given := hint.map fun n => if 0 ≤ outer then outer.toNat + n else n
  let (breaks, widest, c) ← blockBreaks given (c.length + 1) 0 c
  let indent := given.getD (blockIndent outer widest)
  let (cs, lead, left, rest) ← blockLines literal indent (c.length + 1) none breaks false c
  let tail : List Char := match chomping with
    | .strip => []
    | .clip => lead.toList
    | .keep => lead.toList ++ left
  some (String.ofList (cs ++ tail), rest)

end Instrumentation.Yaml
