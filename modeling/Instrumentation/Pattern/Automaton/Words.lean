import Instrumentation.Pattern.Automaton.Ledger

set_option autoImplicit false

/-!
# Lists of words in automata

Alternatives that are all literals are compiled to a tree of their words. Words that begin alike share
states, unless a word between them ends where they part: an earlier word is tried before a later one.
-/

namespace Instrumentation.Pattern

/-- A word, as it is encoded. -/
abbrev Word := List UInt8

/-- Leaves out all but one of the empty words at the beginning. -/
def dropRepeatedEnds : List Word → List Word
  | [] :: [] :: ws => dropRepeatedEnds ([] :: ws)
  | ws => ws

/-- Splits words at the empty ones. -/
def splitAtEnds : List Word → List (List Word)
  | [] => [[]]
  | [] :: ws => [] :: splitAtEnds ws
  | w :: ws =>
      match splitAtEnds ws with
      | c :: cs => (w :: c) :: cs
      | [] => [[w]]

/-- The different first bytes of words. -/
def heads (ws : List Word) : List UInt8 := (ws.filterMap List.head?).eraseDups

/-- What follows a byte in the words that begin with it. -/
def tailsAfter (b : UInt8) (ws : List Word) : List Word :=
  (ws.filter fun w => w.head? == some b).map List.tail

/-- Builds the states of a node of the tree, from what is left of the words there; no word is longer than
`depth`. -/
def buildNode : Nat → List Word → Build Unit
  | 0, _ => return ()
  | depth + 1, ws => do
      let chunks := splitAtEnds (dropRepeatedEnds ws)
      for chunk in chunks do
        for b in heads chunk do
          let tails := tailsAfter b chunk
          if !tails.all List.isEmpty then buildNode depth tails
        match (heads chunk).length with
        | 0 => pure ()
        | 1 => Build.addStates 1
        | n => let _ ← Build.addRanges n
      let filled := (chunks.filter fun chunk => !chunk.isEmpty).length
      Build.addBranching (filled + (chunks.length - 1))

/-- Builds the states that read one of some words. -/
def buildWords (ws : List Word) : Build Unit := do
  Build.addStates 1
  buildNode ((ws.map List.length).foldl max 0 + 1) ws

end Instrumentation.Pattern
