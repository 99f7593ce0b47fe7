import Std.Data.HashMap
import Instrumentation.Pattern.Automaton.Ledger
import Instrumentation.Pattern.Encoding

set_option autoImplicit false

/-!
# Sets of characters in automata

A set of characters is compiled to states that read the bytes of its members. States with the same ways
out are shared as far as a memory of bounded size remembers them: it has one place for every hash, and a
new state takes the place of the one that was there before.
-/

namespace Instrumentation.Pattern

open Instrumentation.Unicode

/-- A way out of a state: the bytes on which it is taken, and the state it leads to. -/
structure Edge where
  bytes : ByteRange
  target : Nat
deriving DecidableEq, Repr, Inhabited

/-- States by the hashes of what they are remembered by. -/
abbrev Shared (κ : Type) := Std.HashMap UInt64 (κ × Nat)

/-- Puts a number into a hash. -/
def mixHash (h : UInt64) (n : Nat) : UInt64 := (h ^^^ UInt64.ofNat n) * 1099511628211

/-- The hash of numbers, below a bound. -/
def hashBelow (bound : UInt64) (ns : List Nat) : UInt64 :=
  ns.foldl mixHash 14695981039346656037 % bound

/-- The state that is remembered by a key. -/
def Shared.find? {κ : Type} [BEq κ] (m : Shared κ) (h : UInt64) (k : κ) : Option Nat :=
  match m[h]? with
  | some (k', state) => if k == k' then some state else none
  | none => none

/-! ## Forwards -/

/-- The number of states that are remembered where bytes are read forwards. -/
def forwardPlaces : UInt64 := 10000

/-- The numbers of an edge that go into its hash. -/
def Edge.numbers (e : Edge) : List Nat := [e.bytes.first.toNat, e.bytes.last.toNat, e.target]

/-- The state with some ways out, which may be there already. -/
def internForward (m : Shared (List Edge)) (es : List Edge) : Build (Nat × Shared (List Edge)) := do
  let h := hashBelow forwardPlaces (es.flatMap Edge.numbers)
  match m.find? h es with
  | some state => return (state, m)
  | none =>
      let state ← Build.addRanges es.length
      return (state, m.insert h (es, state))

/-- Groups sequences by their first byte range. Sequences of one group are neighbours. -/
def groupByHead : List (List ByteRange) → List (ByteRange × List (List ByteRange))
  | [] => []
  | [] :: ss => groupByHead ss
  | (r :: s) :: ss =>
      match groupByHead ss with
      | (r', g) :: gs => if r = r' then (r, s :: g) :: gs else (r, [s]) :: (r', g) :: gs
      | [] => [(r, [s])]

/-- The state that reads sequences of byte ranges, at most `depth` in each, and then goes to a target. -/
def readForward (target : Nat) : Nat → Shared (List Edge) → List (List ByteRange) →
    Build (Nat × Shared (List Edge))
  | 0, m, _ => return (target, m)
  | depth + 1, m, ss => do
      let (es, m) ← (groupByHead ss).foldlM (fun (es, m) (r, tails) => do
        if tails.all List.isEmpty then return (⟨r, target⟩ :: es, m)
        else
          let (state, m) ← readForward target depth m tails
          return (⟨r, state⟩ :: es, m)) (([], m) : List Edge × Shared (List Edge))
      internForward m es.reverse

/-! ## Backwards -/

/-- The number of states that are remembered where bytes are read backwards. -/
def backwardPlaces : UInt64 := 1000

/-- The state with one way out, which may be there already. -/
def internBackward (m : Shared Edge) (e : Edge) : Build (Nat × Shared Edge) := do
  let h := hashBelow backwardPlaces [e.target, e.bytes.first.toNat, e.bytes.last.toNat]
  match m.find? h e with
  | some state => return (state, m)
  | none =>
      let state ← Build.addState 0
      return (state, m.insert h (e, state))

/-- The states that read one sequence of byte ranges backwards, and then go to a target. Its last state is
one more way out of the state where all sequences begin. -/
def readBackward (target : Nat) (m : Shared Edge) (s : List ByteRange) : Build (Shared Edge) := do
  let (_, m) ← s.foldlM (fun (state, m) r => internBackward m ⟨r, state⟩) (target, m)
  Build.take Build.branchBytes
  return m

/-! ## Both ways -/

/-- All members are encoded in one byte. -/
def isSingleByte (rs : Ranges) : Bool := rs.all fun r => decide (r.2 < 0x80)

/-- Builds the states that read a character of a set. -/
def buildSet (backwards : Bool) (rs : Ranges) : Build Unit := do
  if isSingleByte rs then
    let _ ← Build.addState 0
    let _ ← Build.addRanges rs.length
  else if backwards then
    Build.addBranching 0
    let target ← Build.addState 0
    let _ ← (byteSequences rs).foldlM (readBackward target) {}
  else
    let target ← Build.addState 0
    let _ ← readForward target 4 {} (byteSequences rs)

end Instrumentation.Pattern
