import Instrumentation.Pattern.CharClass

set_option autoImplicit false

/-!
# Shapes of texts

A shape is a regular expression whose flags have been worked into its leaves. `Shape.ends` is its
meaning: the positions of a subject where a match can end, given the positions where it may begin. A
position is the number of characters before it.

`Shape.occursIn` asks for a match anywhere in the subject, `Shape.covers` for one from its beginning to
its end.
-/

namespace Instrumentation.Pattern

/-- Conditions on a position, which take no character. -/
inductive Look where
  | textStart
  | textEnd
  | lineStart
  | lineEnd
  /-- Line ends where a carriage return, a line feed or both in this order break the line. -/
  | lineStartCrlf
  | lineEndCrlf
  | wordBoundary (unicode : Bool)
  | notWordBoundary (unicode : Bool)
  | wordStart (unicode : Bool)
  | wordEnd (unicode : Bool)
  | wordStartHalf (unicode : Bool)
  | wordEndHalf (unicode : Bool)
deriving DecidableEq, Repr, Inhabited

/-- Regular expressions over characters. -/
inductive Shape where
  | empty
  | one (c : CharClass)
  | look (l : Look)
  | seq (a b : Shape)
  | alt (a b : Shape)
  /-- A part in parentheses, which may have a number. -/
  | group (numbered : Bool) (a : Shape)
  /-- Between `least` and `most` repetitions; without a bound above if `most` is none. Whether few or many
  repetitions are tried first makes no difference to what can be matched. -/
  | times (a : Shape) (least : Nat) (most : Option Nat) (fewFirst : Bool)
deriving Inhabited

/-- A text that is searched. -/
abbrev Subject := Array Char

namespace Subject

/-- The character before a position. -/
def before? (s : Subject) (i : Nat) : Option Char := if i = 0 then none else s[i - 1]?

/-- The character after a position. -/
def after? (s : Subject) (i : Nat) : Option Char := s[i]?

end Subject

/-- A character that belongs to a word. -/
def isWordChar (unicode : Bool) : Option Char → Bool
  | none => false
  | some c => (if unicode then wordClass else asciiWordClass).contains c.toNat

/-- A condition holds at a position. -/
def Look.holds (s : Subject) (i : Nat) : Look → Bool
  | textStart => i = 0
  | textEnd => i = s.size
  | lineStart => i = 0 || Subject.before? s i == some '\n'
  | lineEnd => i = s.size || Subject.after? s i == some '\n'
  | lineStartCrlf =>
      i = 0 || Subject.before? s i == some '\n' ||
        (Subject.before? s i == some '\r' && Subject.after? s i != some '\n')
  | lineEndCrlf =>
      i = s.size || Subject.after? s i == some '\r' ||
        (Subject.after? s i == some '\n' && Subject.before? s i != some '\r')
  | wordBoundary u => isWordChar u (Subject.before? s i) != isWordChar u (Subject.after? s i)
  | notWordBoundary u => isWordChar u (Subject.before? s i) == isWordChar u (Subject.after? s i)
  | wordStart u => !isWordChar u (Subject.before? s i) && isWordChar u (Subject.after? s i)
  | wordEnd u => isWordChar u (Subject.before? s i) && !isWordChar u (Subject.after? s i)
  | wordStartHalf u => !isWordChar u (Subject.before? s i)
  | wordEndHalf u => !isWordChar u (Subject.after? s i)

/-- Positions without repetition. -/
abbrev Positions := List Nat

/-- The positions of two lists, each once. -/
def mergePositions (a b : Positions) : Positions :=
  b.foldl (fun acc i => if acc.contains i then acc else acc ++ [i]) a

/-- Applies a step to positions again and again, collecting what is reached, until nothing new comes or
the rounds are over. -/
def spread (step : Positions → Positions) : Nat → Positions → Positions → Positions
  | 0, _, reached => reached
  | rounds + 1, front, reached =>
      let next := (step front).filter fun i => !reached.contains i
      if next.isEmpty then reached else spread step rounds next (mergePositions reached next)

/-- Applies a step to positions a number of times, stopping early when nothing is left. -/
def iterate (step : Positions → Positions) : Nat → Positions → Positions
  | 0, ps => ps
  | n + 1, ps => if ps.isEmpty then [] else iterate step n (step ps)

namespace Shape

/-- The positions where a match that begins at one of the given positions can end. -/
def ends (s : Subject) : Shape → Positions → Positions
  | empty, ps => ps
  | one c, ps =>
      ps.filterMap fun i => do
        let ch ← Subject.after? s i
        if c.contains ch.toNat then some (i + 1) else none
  | look l, ps => ps.filter fun i => l.holds s i
  | seq a b, ps => b.ends s (a.ends s ps)
  | alt a b, ps => mergePositions (a.ends s ps) (b.ends s ps)
  | group _ a, ps => a.ends s ps
  | times a least most _, ps =>
      let start := iterate (a.ends s) least ps
      match most with
      | none => spread (a.ends s) (s.size + 1) start start
      | some m => spread (a.ends s) (m - least) start start

/-- All positions of a subject. -/
def allPositions (s : Subject) : Positions := List.range (s.size + 1)

/-- A match begins and ends somewhere in the subject. -/
def occursIn (r : Shape) (s : Subject) : Bool := !(r.ends s (allPositions s)).isEmpty

/-- A match takes the whole subject. -/
def covers (r : Shape) (s : Subject) : Bool := (r.ends s [0]).contains s.size

/-- A shape that can match the empty text only. -/
def isZeroWidth : Shape → Bool
  | empty => true
  | one _ => false
  | look _ => true
  | seq a b | alt a b => a.isZeroWidth && b.isZeroWidth
  | group _ a => a.isZeroWidth
  | times a _ most _ => a.isZeroWidth || most == some 0

/-- Repeats a shape. Repeating what takes no character is the same as taking it once at most. -/
def repeated (a : Shape) (least : Nat) (most : Option Nat) (fewFirst : Bool) : Shape :=
  if most = some 0 then empty
  else if a.isZeroWidth then times a (min least 1) (some 1) fewFirst
  else times a least most fewFirst

end Shape

end Instrumentation.Pattern
