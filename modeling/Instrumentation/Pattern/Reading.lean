import Instrumentation.Pattern.Bracket
import Instrumentation.Pattern.Automaton
import Instrumentation.Unicode.LaterVersion

set_option autoImplicit false

/-!
# Reading expressions

`read?` turns the text of a regular expression into a shape, or fails where the text is malformed. The
text is read from left to right. A group is read by the same function as the whole text: it ends at the
first closing parenthesis that it did not open itself. Settings changed inside a group end with it.

Two limits apply to what is read: how deeply its parts are nested, and how much memory its automata take.
-/

namespace Instrumentation.Pattern

open Instrumentation.Unicode

/-- A part of an expression: its shape and the depth of the way it is written. Settings that stand alone
are a part which cannot be repeated. -/
structure Part where
  shape : Shape
  depth : Nat
  repeatable : Bool := true
deriving Inhabited

/-- What has been read of a group: its alternatives before the current one, and the parts of the current
one, both newest first. -/
structure Body where
  branches : List Part := []
  parts : List Part := []
deriving Inhabited

namespace Body

/-- Adds a part to the current alternative. -/
def add (b : Body) (p : Part) : Body := { b with parts := p :: b.parts }

/-- The current alternative as one part. -/
def sequence (b : Body) : Part :=
  match b.parts with
  | [] => ⟨.empty, 0, false⟩
  | [p] => p
  | p :: ps =>
      ⟨ps.foldl (fun acc q => .seq q.shape acc) p.shape,
        1 + ps.foldl (fun d q => max d q.depth) p.depth, true⟩

/-- Goes on to the next alternative. -/
def alternative (b : Body) : Body := { branches := b.sequence :: b.branches, parts := [] }

/-- Everything that has been read, as one part. -/
def close (b : Body) : Part :=
  let last := b.sequence
  match b.branches with
  | [] => last
  | ps =>
      ⟨ps.foldl (fun acc q => .alt q.shape acc) last.shape,
        1 + ps.foldl (fun d q => max d q.depth) last.depth, true⟩

/-- Repeats the last part of the current alternative. -/
def repeatLast (b : Body) (least : Nat) (most : Option Nat) (fewFirst : Bool) : Option Body :=
  match b.parts with
  | [] => none
  | p :: ps =>
      if p.repeatable then
        some { b with parts := ⟨p.shape.repeated least most fewFirst, p.depth + 1, true⟩ :: ps }
      else none

end Body

/-- The names of the groups that have been read. -/
abbrev GroupNames := List (List Char)

/-- A character of a group name. -/
def isNameChar (first : Bool) (c : Char) : Bool :=
  if first then c == '_' || letters.contains c.toNat
  else
    c == '_' || c == '.' || c == '[' || c == ']' || letters.contains c.toNat ||
      numbers.contains c.toNat

/-- A group name up to and including its closing angle. -/
def takeGroupName (first : Bool) : List Char → Option (List Char × List Char)
  | [] => none
  | c :: cs =>
      if c = '>' then (if first then none else some ([], cs))
      else if isNameChar first c then do
        let (name, rest) ← takeGroupName false cs
        some (c :: name, rest)
      else none

/-- The letters of settings. -/
def isFlagLetter (c : Char) : Bool := ['i', 'm', 's', 'U', 'u', 'x', 'R'].contains c

/-- Switches one setting. -/
def Flags.switch (fl : Flags) (c : Char) (on : Bool) : Flags :=
  match c with
  | 'i' => { fl with caseInsensitive := on }
  | 'm' => { fl with multiLine := on }
  | 's' => { fl with dotMatchesNewline := on }
  | 'u' => { fl with unicode := on }
  | 'x' => { fl with verbose := on }
  | 'R' => { fl with carriageReturns := on }
  | 'U' => { fl with fewFirst := on }
  | _ => fl

/-- How a list of settings ends. -/
inductive FlagsEnd where
  /-- The settings stand alone; they hold up to the end of the enclosing group. -/
  | alone (isEmpty : Bool)
  /-- The settings open a group. -/
  | group

/-- The settings after an opening parenthesis and a question mark. Every letter occurs once, one dash may
stand before the letters that are switched off. -/
def takeFlags (fl : Flags) (seen : List Char) :
    List Char → Option (Flags × FlagsEnd × List Char)
  | [] => none
  | c :: cs =>
      if c = ':' then (if seen.head? = some '-' then none else some (fl, .group, cs))
      else if c = ')' then
        if seen.head? = some '-' then none else some (fl, .alone seen.isEmpty, cs)
      else if seen.contains c then none
      else if c = '-' then takeFlags fl (c :: seen) cs
      else if isFlagLetter c then takeFlags (fl.switch c (!seen.contains '-')) (c :: seen) cs
      else none

/-- How a group begins. -/
inductive Opening where
  | group (numbered : Bool) (fl : Flags) (names : GroupNames)
  | settings (fl : Flags)

/-- The beginning of a group, after its opening parenthesis. Conditions on the surrounding text do not
exist, and no two groups have one name. -/
def takeGroupOpening (fl : Flags) (names : GroupNames) (cs : List Char) :
    Option (Opening × List Char) :=
  match skip fl cs with
  | '?' :: '=' :: _ => none
  | '?' :: '!' :: _ => none
  | '?' :: '<' :: '=' :: _ => none
  | '?' :: '<' :: '!' :: _ => none
  | '?' :: 'P' :: '<' :: rest | '?' :: '<' :: rest => do
      let (name, rest) ← takeGroupName true rest
      if names.contains name then none else some (.group true fl (name :: names), rest)
  | '?' :: rest => do
      match ← takeFlags fl [] rest with
      | (fl, .group, rest) => some (.group false fl names, rest)
      | (fl, .alone isEmpty, rest) => if isEmpty then none else some (.settings fl, rest)
  | rest => some (.group true fl names, rest)

/-- Decimal digits with blanks around and, in verbose expressions, between them. -/
def takeDecimal (fl : Flags) (cs : List Char) : Option Nat × List Char :=
  let rec digits (fuel acc : Nat) (cs : List Char) : Nat × List Char :=
    match fuel, cs with
    | 0, cs => (acc, cs)
    | _, [] => (acc, [])
    | fuel + 1, c :: cs =>
        if '0' ≤ c ∧ c ≤ '9' then digits fuel (acc * 10 + (c.toNat - 48)) (skip fl cs)
        else (acc, c :: cs)
  let start := cs.dropWhile isSpace
  match start with
  | c :: _ =>
      if '0' ≤ c ∧ c ≤ '9' then
        let (n, rest) := digits start.length 0 start
        (some n, rest.dropWhile isSpace)
      else (none, start)
  | [] => (none, [])

/-- The largest number of repetitions that can be written. -/
def maxCount : Nat := UInt32.size - 1

/-- A number of repetitions that is there and not too large. -/
def count? (n : Option Nat) : Option Nat := n.filter fun n => n ≤ maxCount

/-- The bounds of a repetition in braces, after the opening brace. The lower bound must be there. -/
def takeBounds (fl : Flags) (cs : List Char) : Option (Nat × Option Nat × List Char) := do
  let cs := skip fl cs
  if cs.isEmpty then none
  else
    let (least, rest) := takeDecimal fl cs
    match rest with
    | ',' :: rest =>
        match skip fl rest with
        | '\x7d' :: rest => do
            let least ← count? least
            some (least, none, rest)
        | rest => do
            let least ← count? least
            let (most, rest) := takeDecimal fl rest
            let most ← count? most
            match rest with
            | '\x7d' :: rest => if least ≤ most then some (least, some most, rest) else none
            | _ => none
    | '\x7d' :: rest => do
        let least ← count? least
        some (least, some least, rest)
    | _ => none

/-- The question mark after a repetition, which turns around what is tried first: whether few rounds are
tried first, and the rest. -/
def takeMark (fl : Flags) : List Char → Bool × List Char
  | '?' :: rest => (!fl.fewFirst, rest)
  | rest => (fl.fewFirst, rest)

/-- The shape of a character outside brackets. -/
def literalShape (fl : Flags) (c : Char) : Shape := .one (foldClass fl (.single c.toNat))

/-- The shape of an element outside brackets. -/
def elementShape? (fl : Flags) : Element → Option Shape
  | .literal c isByte => (literalChar? fl c isByte).map (literalShape fl)
  | .look l => some (.look l)
  | e => (elementClass? fl e).map .one

/-- The class of the dot. Without Unicode it would match bytes that belong to no character. -/
def dotClass? (fl : Flags) : Option CharClass :=
  if !fl.unicode then none
  else if fl.dotMatchesNewline then some anyClass
  else if fl.carriageReturns then some (.complement (.ranges [(10, 10), (13, 13)]))
  else some (.complement (.ranges [(10, 10)]))

/-- The meaning of `^` under the settings. -/
def caretLook (fl : Flags) : Look :=
  if fl.multiLine then (if fl.carriageReturns then .lineStartCrlf else .lineStart) else .textStart

/-- The meaning of `$` under the settings. -/
def dollarLook (fl : Flags) : Look :=
  if fl.multiLine then (if fl.carriageReturns then .lineEndCrlf else .lineEnd) else .textEnd

/-- The rest of a group, up to a closing parenthesis that it did not open or to the end of the text. -/
def takeBody : Nat → Flags → GroupNames → Body → List Char → Option (Part × GroupNames × List Char)
  | 0, _, _, _, _ => none
  | fuel + 1, fl, names, b, cs =>
      match skip fl cs with
      | [] => some (b.close, names, [])
      | ')' :: rest => some (b.close, names, ')' :: rest)
      | '|' :: rest => takeBody fuel fl names b.alternative rest
      | '(' :: rest => do
          match ← takeGroupOpening fl names rest with
          | (.settings fl, rest) => takeBody fuel fl names (b.add ⟨.empty, 0, false⟩) rest
          | (.group numbered inner names, rest) =>
              match ← takeBody fuel inner names {} rest with
              | (p, names, ')' :: rest) =>
                  takeBody fuel fl names (b.add ⟨.group numbered p.shape, p.depth + 1, true⟩) rest
              | _ => none
      | '[' :: rest => do
          let (c, rest) ← takeBracket fl rest
          takeBody fuel fl names (b.add ⟨.one c.cls, c.depth, true⟩) rest
      | '?' :: rest => do
          let (fewFirst, rest) := takeMark fl rest
          takeBody fuel fl names (← b.repeatLast 0 (some 1) fewFirst) rest
      | '*' :: rest => do
          let (fewFirst, rest) := takeMark fl rest
          takeBody fuel fl names (← b.repeatLast 0 none fewFirst) rest
      | '+' :: rest => do
          let (fewFirst, rest) := takeMark fl rest
          takeBody fuel fl names (← b.repeatLast 1 none fewFirst) rest
      | '\x7b' :: rest => do
          let (least, most, rest) ← takeBounds fl rest
          let (fewFirst, rest) := takeMark fl (skip fl rest)
          takeBody fuel fl names (← b.repeatLast least most fewFirst) rest
      | '\\' :: rest => do
          let (e, rest) ← takeEscape fl rest
          let s ← elementShape? fl e
          takeBody fuel fl names (b.add ⟨s, 0, true⟩) rest
      | '.' :: rest => do
          let c ← dotClass? fl
          takeBody fuel fl names (b.add ⟨.one c, 0, true⟩) rest
      | '^' :: rest => takeBody fuel fl names (b.add ⟨.look (caretLook fl), 0, true⟩) rest
      | '$' :: rest => takeBody fuel fl names (b.add ⟨.look (dollarLook fl), 0, true⟩) rest
      | c :: rest => takeBody fuel fl names (b.add ⟨literalShape fl c, 0, true⟩) rest

/-- The deepest nesting of an expression. -/
def nestingLimit : Nat := 250

/-- The shape of an expression; none if the text is malformed or beyond the limits. -/
def read? (cs : List Char) : Option Shape :=
  match takeBody (cs.length + 1) {} [] {} cs with
  | some (p, _, []) => if p.depth ≤ nestingLimit ∧ fits p.shape then some p.shape else none
  | _ => none

end Instrumentation.Pattern
