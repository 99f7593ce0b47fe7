set_option autoImplicit false

/-!
# Ledgers of automata

While an automaton is built, a ledger keeps the number of its states and the memory that they take. A
build fails as soon as the memory exceeds the limit.
-/

namespace Instrumentation.Pattern

/-- The number of states of an automaton, and the bytes that they take. -/
structure Ledger where
  states : Nat := 0
  memory : Nat := 0
deriving DecidableEq, Repr, Inhabited

/-- Steps that build an automaton. -/
abbrev Build := StateT Ledger Option

namespace Build

/-- The most bytes that an automaton may take. -/
def memoryLimit : Nat := 10 * (1024 * 1024)

/-- The bytes of a state. -/
def stateBytes : Nat := 32

/-- The bytes of a byte range that leads to a state, in a state that holds several of them. -/
def rangeBytes : Nat := 8

/-- The bytes of a further way out of a state that branches. -/
def branchBytes : Nat := 4

/-- Takes bytes. -/
def take (bytes : Nat) : Build Unit := fun l =>
  let memory := l.memory + bytes
  if memory ≤ memoryLimit then some ((), { l with memory := memory }) else none

/-- Adds a state that takes some bytes besides its own. The answer is its number. -/
def addState (bytes : Nat) : Build Nat := fun l =>
  let memory := l.memory + (stateBytes + bytes)
  if memory ≤ memoryLimit then some (l.states, { states := l.states + 1, memory := memory })
  else none

/-- Adds some states that take no bytes besides their own. -/
def addStates : Nat → Build Unit
  | 0 => return ()
  | n + 1 => do
      let _ ← addState 0
      addStates n

/-- Adds a state with ways out in a number of byte ranges. -/
def addRanges (ranges : Nat) : Build Nat := addState (ranges * rangeBytes)

/-- Adds a state that branches in a number of ways. -/
def addBranching (ways : Nat) : Build Unit := do
  let _ ← addState (ways * branchBytes)

end Build

end Instrumentation.Pattern
