import Instrumentation.Pattern.Escape

set_option autoImplicit false

/-!
# Reading classes in brackets

A class lists characters, ranges, classes of escapes, named ASCII classes and nested brackets. The
operators `&&`, `--` and `~~` combine what stands on their sides, from left to right and with equal
rank. A closing bracket right after the opening is a literal, and so are dashes there.

Next to a class its depth is counted, which the nesting limit of expressions bounds.
-/

namespace Instrumentation.Pattern

/-- The operators between the parts of a class. -/
inductive SetOperator where
  | inter
  | diff
  | symmDiff
deriving DecidableEq, Repr, Inhabited

/-- Applies an operator. -/
def SetOperator.apply : SetOperator → CharClass → CharClass → CharClass
  | inter, a, b => .inter a b
  | diff, a, b => .diff a b
  | symmDiff, a, b => .symmDiff a b

/-- A class with the depth of the way it is written. -/
structure Leveled where
  cls : CharClass
  depth : Nat
deriving Inhabited

/-- The part of a bracket that has been read: the operand and operator on the left, if any, and the items
since then, newest first. -/
structure Partial where
  left : Option (Leveled × SetOperator) := none
  items : List Leveled := []
deriving Inhabited

namespace Partial

/-- Adds an item. -/
def add (p : Partial) (item : Leveled) : Partial := { p with items := item :: p.items }

/-- The union of the items since the last operator. -/
def unionItems (p : Partial) : Leveled :=
  match p.items with
  | [] => ⟨.nothing, 0⟩
  | [item] => item
  | items =>
      ⟨items.foldl (fun acc i => .union i.cls acc) .nothing,
        1 + items.foldl (fun d i => max d i.depth) 0⟩

/-- Everything that has been read. Operands are folded before an operator combines them. -/
def close (fl : Flags) (p : Partial) : Leveled :=
  let right := p.unionItems
  match p.left with
  | none => right
  | some (left, op) =>
      ⟨op.apply (foldClass fl left.cls) (foldClass fl right.cls), 1 + max left.depth right.depth⟩

/-- Goes on to the right side of an operator. -/
def operator (fl : Flags) (p : Partial) (op : SetOperator) : Partial :=
  { left := some (p.close fl, op) }

end Partial

/-- The dashes at the start of a bracket. -/
def takeDashes (fl : Flags) : Nat → Partial → List Char → Option (Partial × List Char)
  | 0, _, _ => none
  | _ + 1, _, [] => none
  | fuel + 1, p, c :: cs =>
      if c = '-' then takeDashes fl fuel (p.add ⟨.single '-'.toNat, 0⟩) (skip fl cs)
      else some (p, c :: cs)

/-- The start of a bracket, after the opening: whether the class is negated, and its first literals. -/
def takeOpening (fl : Flags) (cs : List Char) : Option (Bool × Partial × List Char) := do
  let cs := skip fl cs
  let (negated, cs) ← match cs with
    | [] => none
    | '^' :: rest => some (true, skip fl rest)
    | _ => some (false, cs)
  let (p, cs) ← takeDashes fl (cs.length + 1) {} cs
  match cs with
  | ']' :: rest =>
      if p.items.isEmpty then
        let rest := skip fl rest
        if rest.isEmpty then none else some (negated, p.add ⟨.single ']'.toNat, 0⟩, rest)
      else some (negated, p, cs)
  | _ => some (negated, p, cs)

/-- The name of an ASCII class up to its colon, and the rest from the colon on. -/
def takeAsciiName : List Char → List Char × List Char
  | [] => ([], [])
  | c :: cs =>
      if c = ':' then ([], c :: cs)
      else let (name, rest) := takeAsciiName cs; (c :: name, rest)

/-- A named ASCII class, after its opening bracket: its ranges, whether it is negated, and the rest. -/
def takeAsciiClass (cs : List Char) : Option (CharClass × Bool × List Char) :=
  match cs with
  | ':' :: cs =>
      let (negated, cs) := match cs with
        | '^' :: rest => (true, rest)
        | _ => (false, cs)
      match takeAsciiName cs with
      | (name, ':' :: ']' :: rest) =>
          (asciiNamedRanges? (String.ofList name)).map fun rs => (.ranges rs, negated, rest)
      | _ => none
  | _ => none

/-- A single element of a bracket. -/
def takeElement (fl : Flags) : List Char → Option (Element × List Char)
  | [] => none
  | '\\' :: rest => takeEscape fl rest
  | c :: rest => some (.literal c false, rest)

/-- The code of an element that is an end of a range. -/
def rangeEnd? (fl : Flags) : Element → Option Nat
  | .literal c isByte => do
      let c ← literalChar? fl c isByte
      if fl.unicode || c.toNat < 128 then some c.toNat else none
  | _ => none

/-- The class of an element inside a bracket. Without Unicode a bracket holds ASCII characters only. -/
def itemClass? (fl : Flags) (e : Element) : Option CharClass :=
  match e with
  | .literal .. => (rangeEnd? fl e).map .single
  | e => elementClass? fl e

/-- An element, or a range between two. A dash before the closing bracket or before another dash is no
range. -/
def takeItem (fl : Flags) (cs : List Char) : Option (CharClass × List Char) := do
  let (first, rest) ← takeElement fl cs
  match skip fl rest with
  | [] => none
  | '-' :: after =>
      match skip fl after with
      | [] => none
      | next :: more =>
          if next = ']' ∨ next = '-' then
            let c ← itemClass? fl first
            some (c, '-' :: after)
          else do
            let (last, rest) ← takeElement fl (next :: more)
            let lo ← rangeEnd? fl first
            let hi ← rangeEnd? fl last
            if lo ≤ hi then some (.ranges [(lo, hi)], rest) else none
  | rest => do
      let c ← itemClass? fl first
      some (c, rest)

/-- The rest of a bracket up to and including its closing. -/
def takeSet (fl : Flags) : Nat → Partial → List Char → Option (Leveled × List Char)
  | 0, _, _ => none
  | fuel + 1, p, cs =>
      match skip fl cs with
      | [] => none
      | ']' :: rest => some (p.close fl, rest)
      | '[' :: rest =>
          match takeAsciiClass rest with
          | some (c, negated, rest) => do
              let c ← negateClass fl negated (foldClass fl c)
              takeSet fl fuel (p.add ⟨c, 0⟩) rest
          | none => do
              let (negated, inner, rest) ← takeOpening fl rest
              let (c, rest) ← takeSet fl fuel inner rest
              let cls ← negateClass fl negated (foldClass fl c.cls)
              takeSet fl fuel (p.add ⟨cls, c.depth + 1⟩) rest
      | '&' :: '&' :: rest => takeSet fl fuel (p.operator fl .inter) rest
      | '-' :: '-' :: rest => takeSet fl fuel (p.operator fl .diff) rest
      | '~' :: '~' :: rest => takeSet fl fuel (p.operator fl .symmDiff) rest
      | rest => do
          let (c, rest) ← takeItem fl rest
          takeSet fl fuel (p.add ⟨c, 0⟩) rest

/-- A class in brackets, after the opening bracket. -/
def takeBracket (fl : Flags) (cs : List Char) : Option (Leveled × List Char) := do
  let (negated, p, rest) ← takeOpening fl cs
  let (c, rest) ← takeSet fl (rest.length + 1) p rest
  let cls ← negateClass fl negated (foldClass fl c.cls)
  some (⟨cls, c.depth + 1⟩, rest)

end Instrumentation.Pattern
