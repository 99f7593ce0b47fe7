import Instrumentation.Pattern.Shape

set_option autoImplicit false

/-!
# Reading single elements of an expression

The elements that are the same inside and outside brackets: literals, escapes, the classes of escapes
and of property names. Every reader takes the characters at its start and returns the rest; it fails
where the expression is malformed.
-/

namespace Instrumentation.Pattern

open Instrumentation.Unicode

/-- The settings under which a part of an expression is read. -/
structure Flags where
  caseInsensitive : Bool := false
  multiLine : Bool := false
  dotMatchesNewline : Bool := false
  unicode : Bool := true
  /-- Blanks and comments in the expression are skipped. -/
  verbose : Bool := false
  carriageReturns : Bool := false
  /-- Repetitions try few rounds first, and many first if they are marked. -/
  fewFirst : Bool := false
deriving DecidableEq, Repr, Inhabited

/-- One element of an expression. -/
inductive Element where
  /-- A character, and whether it was written as a two-digit code, which stands for a byte. -/
  | literal (c : Char) (isByte : Bool)
  | look (l : Look)
  /-- A class of an escape: its Unicode and its ASCII reading, and whether it is negated. -/
  | perl (unicode ascii : CharClass) (negated : Bool)
  | property (c : CharClass) (negated : Bool)

/-- A blank that verbose expressions skip. -/
def isSpace (c : Char) : Bool := blankClass.contains c.toNat

/-- The rest of a text after the end of its first line. -/
def afterLine : List Char → List Char
  | [] => []
  | c :: cs => if c = '\n' then cs else afterLine cs

theorem length_afterLine (cs : List Char) : (afterLine cs).length ≤ cs.length := by
  induction cs with
  | nil => simp [afterLine]
  | cons c cs ih =>
      simp only [afterLine, List.length_cons]
      split <;> omega

/-- Skips blanks and comments. -/
def skipVerbose (cs : List Char) : List Char :=
  match cs with
  | [] => []
  | c :: rest =>
      if isSpace c then skipVerbose rest
      else if c = '#' then skipVerbose (afterLine rest)
      else c :: rest
termination_by cs.length
decreasing_by
  · simp
  · have := length_afterLine rest; simp; omega

/-- Skips blanks and comments if the flags ask for it. -/
def skip (fl : Flags) (cs : List Char) : List Char := if fl.verbose then skipVerbose cs else cs

/-- Characters that have a meaning of their own in expressions. -/
def metaCharacters : List Char :=
  ['\\', '.', '+', '*', '?', '(', ')', '|', '[', ']', '\x7b', '\x7d', '^', '$', '#', '&', '-', '~']

/-- Characters that may be escaped to stand for themselves. -/
def isEscapable (c : Char) : Bool :=
  c.toNat < 0x80 && !c.isAlphanum && c != '<' && c != '>'

/-- The value of a hexadecimal digit. -/
def hexDigit? (c : Char) : Option Nat :=
  if '0' ≤ c ∧ c ≤ '9' then some (c.toNat - 48)
  else if 'a' ≤ c ∧ c ≤ 'f' then some (c.toNat - 87)
  else if 'A' ≤ c ∧ c ≤ 'F' then some (c.toNat - 55)
  else none

/-- The character of a code point, if it is one. -/
def charOfCode? (n : Nat) : Option Char := if n.isValidChar then some (Char.ofNat n) else none

/-- A fixed number of hexadecimal digits. -/
def takeHexDigits (fl : Flags) : Nat → Nat → List Char → Option (Nat × List Char)
  | 0, acc, cs => some (acc, cs)
  | _ + 1, _, [] => none
  | n + 1, acc, c :: cs => do
      let d ← hexDigit? c
      takeHexDigits fl n (acc * 16 + d) (skip fl cs)

/-- Hexadecimal digits up to a closing brace, with their number. -/
def takeHexBrace (fl : Flags) : Nat → Nat → Nat → List Char → Option (Nat × Nat × List Char)
  | 0, _, _, _ => none
  | _ + 1, _, _, [] => none
  | fuel + 1, count, acc, c :: cs =>
      if c = '\x7d' then some (count, acc, skip fl cs)
      else do
        let d ← hexDigit? c
        takeHexBrace fl fuel (count + 1) (acc * 16 + d) (skip fl cs)

/-- A character by its code, after the letter that announces it. -/
def takeHexEscape (fl : Flags) (digits : Nat) (cs : List Char) : Option (Element × List Char) :=
  match skip fl cs with
  | '\x7b' :: rest => do
      let rest := skip fl rest
      let (count, code, rest) ← takeHexBrace fl (rest.length + 1) 0 0 rest
      if count = 0 then none
      else do
        let c ← charOfCode? code
        some (.literal c false, rest)
  | cs => do
      let (code, rest) ← takeHexDigits fl digits 0 cs
      let c ← charOfCode? code
      some (.literal c (digits == 2), rest)

/-- The characters up to a closing brace. -/
def takeName (fl : Flags) : Nat → List Char → Option (List Char × List Char)
  | 0, _ => none
  | _ + 1, [] => none
  | fuel + 1, c :: cs =>
      if c = '\x7d' then some ([], cs)
      else do
        let (name, rest) ← takeName fl fuel (skip fl cs)
        some (c :: name, rest)

/-- Splits a name at the first occurrence of a separator. -/
def splitName (sep : List Char) : List Char → Option (List Char × List Char)
  | [] => none
  | c :: cs =>
      if sep.isPrefixOf (c :: cs) then some ([], (c :: cs).drop sep.length)
      else (splitName sep cs).map fun (a, b) => (c :: a, b)

/-- The class of a property in braces, and whether the way it is written negates it. -/
def bracedProperty? (name : List Char) : Option (CharClass × Bool) :=
  let valued (p v : List Char) (negated : Bool) : Option (CharClass × Bool) :=
    (valuedClass? (String.ofList p) (String.ofList v)).map fun c => (c, negated)
  match splitName ['!', '='] name with
  | some (p, v) => valued p v true
  | none =>
      match splitName [':'] name with
      | some (p, v) => valued p v false
      | none =>
          match splitName ['='] name with
          | some (p, v) => valued p v false
          | none => (namedClass? (String.ofList name)).map fun c => (c, false)

/-- A property class, after the letter that announces it. -/
def takeProperty (fl : Flags) (negated : Bool) (cs : List Char) : Option (Element × List Char) :=
  match skip fl cs with
  | [] => none
  | '\x7b' :: rest => do
      let rest := skip fl rest
      let (name, rest) ← takeName fl (rest.length + 1) rest
      let (c, flipped) ← bracedProperty? name
      some (.property c (negated != flipped), rest)
  | c :: rest =>
      if c = '\\' then none
      else do
        let cls ← namedClass? (String.ofList [c])
        some (.property cls negated, skip fl rest)

/-- A letter or dash of the name of a word boundary. -/
def isBoundaryChar (c : Char) : Bool := c.isAlpha || c == '-'

/-- The name of a word boundary and the rest after it. -/
def takeBoundaryName (fl : Flags) : Nat → List Char → List Char × List Char
  | 0, cs => ([], cs)
  | _ + 1, [] => ([], [])
  | fuel + 1, c :: cs =>
      if isBoundaryChar c then
        let (name, rest) := takeBoundaryName fl fuel (skip fl cs)
        (c :: name, rest)
      else ([], c :: cs)

/-- A word boundary, which may have a name in braces. Braces that do not hold a letter or a dash at
their start are left to be read as a repetition. -/
def takeWordBoundary (fl : Flags) (cs : List Char) : Option (Element × List Char) :=
  match cs with
  | '\x7b' :: rest =>
      let inner := skip fl rest
      match inner with
      | [] => none
      | c :: _ =>
          if isBoundaryChar c then
            let (name, after) := takeBoundaryName fl (inner.length + 1) inner
            match after with
            | '\x7d' :: after =>
                match String.ofList name with
                | "start" => some (.look (.wordStart fl.unicode), after)
                | "end" => some (.look (.wordEnd fl.unicode), after)
                | "start-half" => some (.look (.wordStartHalf fl.unicode), after)
                | "end-half" => some (.look (.wordEndHalf fl.unicode), after)
                | _ => none
            | _ => none
          else some (.look (.wordBoundary fl.unicode), cs)
  | cs => some (.look (.wordBoundary fl.unicode), cs)

/-- An escape, after its backslash. -/
def takeEscape (fl : Flags) (cs : List Char) : Option (Element × List Char) :=
  match cs with
  | [] => none
  | c :: rest =>
      if metaCharacters.contains c || isEscapable c then some (.literal c false, rest)
      else
        match c with
        | 'x' => takeHexEscape fl 2 rest
        | 'u' => takeHexEscape fl 4 rest
        | 'U' => takeHexEscape fl 8 rest
        | 'p' => takeProperty fl false rest
        | 'P' => takeProperty fl true rest
        | 'd' => some (.perl digitClass asciiDigitClass false, rest)
        | 'D' => some (.perl digitClass asciiDigitClass true, rest)
        | 's' => some (.perl blankClass asciiBlankClass false, rest)
        | 'S' => some (.perl blankClass asciiBlankClass true, rest)
        | 'w' => some (.perl wordClass asciiWordClass false, rest)
        | 'W' => some (.perl wordClass asciiWordClass true, rest)
        | 'a' => some (.literal '\x07' false, rest)
        | 'f' => some (.literal '\x0c' false, rest)
        | 't' => some (.literal '\t' false, rest)
        | 'n' => some (.literal '\n' false, rest)
        | 'r' => some (.literal '\r' false, rest)
        | 'v' => some (.literal '\x0b' false, rest)
        | 'A' => some (.look .textStart, rest)
        | 'z' => some (.look .textEnd, rest)
        | 'b' => takeWordBoundary fl rest
        | 'B' => some (.look (.notWordBoundary fl.unicode), rest)
        | '<' => some (.look (.wordStart fl.unicode), rest)
        | '>' => some (.look (.wordEnd fl.unicode), rest)
        | _ => none

/-- The case variants of a class, as the flags understand them, if the flags ask for them. -/
def foldClass (fl : Flags) (c : CharClass) : CharClass :=
  if fl.caseInsensitive then (if fl.unicode then .folded c else .foldedAscii c) else c

/-- The complement of a class. Without Unicode it would hold bytes that belong to no character. -/
def negateClass (fl : Flags) (negated : Bool) (c : CharClass) : Option CharClass :=
  if negated then (if fl.unicode then some (.complement c) else none) else some c

/-- The character that a literal stands for. Without Unicode a two-digit code is a byte, and bytes beyond
ASCII belong to no character. -/
def literalChar? (fl : Flags) (c : Char) (isByte : Bool) : Option Char :=
  if !fl.unicode && isByte && decide (0x7f < c.toNat) then none else some c

/-- The class of an element that denotes one. -/
def elementClass? (fl : Flags) : Element → Option CharClass
  | .literal c isByte => do
      let c ← literalChar? fl c isByte
      some (.single c.toNat)
  | .look _ => none
  | .perl unicode ascii negated => negateClass fl negated (if fl.unicode then unicode else ascii)
  | .property c negated => if fl.unicode then some (.negateIf negated (foldClass fl c)) else none

end Instrumentation.Pattern
