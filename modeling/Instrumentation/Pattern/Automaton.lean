import Instrumentation.Pattern.Automaton.Sets
import Instrumentation.Pattern.Automaton.Words
import Instrumentation.Pattern.Term

set_option autoImplicit false

/-!
# The size of automata

A shape is compiled to two automata, one of which reads a text forwards and one backwards. Repetitions are
written out. `fits` says that neither of the two takes more memory than it may.

Fragments of an automaton are joined at their ends. An end is open, or it is a state that branches, which
grows with every way out.
-/

namespace Instrumentation.Pattern

/-- How a fragment ends. -/
inductive Ending where
  | open
  | branching
deriving DecidableEq, Repr, Inhabited

/-- Leads from the end of a fragment to a state. -/
def Ending.connect : Ending → Build Unit
  | .open => return ()
  | .branching => Build.take Build.branchBytes

namespace Build

/-- A state that does nothing. -/
def nothing : Build Ending := do
  addStates 1
  return .open

/-- Fragments one after the other, the first of which has been built. -/
def follow (body : Build Ending) : Nat → Ending → Build Ending
  | 0, e => return e
  | n + 1, e => do
      let e' ← body
      e.connect
      follow body n e'

/-- A fragment a number of times. -/
def exactly (body : Build Ending) : Nat → Build Ending
  | 0 => nothing
  | n + 1 => do follow body n (← body)

/-- Fragments each of which may be the last, or left out as the first. -/
def upTo (body : Build Ending) : Nat → Ending → Build Ending
  | 0, e => return e
  | n + 1, e => do
      addBranching 2
      let e' ← body
      e.connect
      upTo body n e'

/-- A fragment at least and at most a number of times. -/
def between (body : Build Ending) (least more : Nat) : Build Ending := do
  let e ← exactly body least
  addStates 1
  (← upTo body more e).connect
  return .open

/-- A fragment or nothing. -/
def optional (body : Build Ending) : Build Ending := do
  addBranching 2
  let e ← body
  addStates 1
  e.connect
  return .open

/-- A fragment any number of times, where it cannot do without a byte. -/
def loop (body : Build Ending) : Build Ending := do
  addBranching 1
  (← body).connect
  return .branching

/-- A fragment any number of times, where it may do without a byte. -/
def carefulLoop (body : Build Ending) : Build Ending := do
  let e ← body
  addBranching 2
  e.connect
  addBranching 2
  addStates 1
  return .open

/-- A fragment at least once. -/
def atLeastOnce (body : Build Ending) : Build Ending := do
  let e ← body
  addBranching 1
  e.connect
  return .branching

/-- A fragment at least a number of times. -/
def atLeast (body : Build Ending) : Nat → Build Ending
  | 0 => loop body
  | 1 => atLeastOnce body
  | n + 1 => do
      let e ← exactly body n
      let last ← body
      addBranching 1
      e.connect
      last.connect
      return .branching

end Build

namespace Term

/-- The bytes of a literal. -/
def literal? : Term → Option Word
  | literal bs => some bs
  | _ => none

/-- The words of alternatives, if there are several and all of them are literals. -/
def words? (ts : List Term) : Option (List Word) :=
  if 1 < ts.length then ts.mapM literal? else none

mutual

/-- Builds the states of a term. Parts have numbers in the automaton that reads forwards only. -/
def build (backwards : Bool) : Term → Build Ending
  | empty => Build.nothing
  | literal bs => do
      Build.addStates bs.length
      return .open
  | set rs => do
      buildSet backwards rs
      return .open
  | look _ => Build.nothing
  | numbered a => do
      if backwards then a.build backwards
      else
        Build.addStates 1
        let e ← a.build backwards
        Build.addStates 1
        e.connect
        return .open
  | seq ts => do
      match ← buildItems backwards ts with
      | some e => return e
      | none => Build.nothing
  | alt ts => do
      match words? ts with
      | some ws =>
          buildWords (if backwards then ws.map List.reverse else ws)
          return .open
      | none => buildAlternatives backwards ts
  | times a least most _ =>
      let body := a.build backwards
      match most with
      | none =>
          if least = 0 ∧ !a.leastLength?.any (0 < ·) then Build.carefulLoop body
          else Build.atLeast body least
      | some most =>
          if least = 0 ∧ most = 1 then Build.optional body
          else if least = most then Build.exactly body least
          else Build.between body least (most - least)

/-- Builds the states of a sequence, from its end if it is read backwards. None if it is empty. -/
def buildItems (backwards : Bool) : List Term → Build (Option Ending)
  | [] => return none
  | t :: ts => do
      if backwards then
        let before ← buildItems backwards ts
        let e ← t.build backwards
        match before with
        | some b => b.connect
        | none => pure ()
        return some e
      else
        let e ← t.build backwards
        match ← buildItems backwards ts with
        | some last =>
            e.connect
            return some last
        | none => return some e

/-- Builds the states of alternatives. -/
def buildAlternatives (backwards : Bool) : List Term → Build Ending
  | [] => Build.nothing
  | t :: ts => do
      let first ← t.build backwards
      match ts with
      | [] => return first
      | u :: us =>
          let second ← u.build backwards
          Build.addBranching 2
          Build.addStates 1
          first.connect
          second.connect
          buildRest backwards us
          return .open

/-- Builds the states of the alternatives after the second one. -/
def buildRest (backwards : Bool) : List Term → Build Unit
  | [] => return ()
  | t :: ts => do
      let e ← t.build backwards
      Build.take Build.branchBytes
      e.connect
      buildRest backwards ts

end

/-- Where a text may be entered: at one place only if the term is bound to it, else anywhere. -/
def buildEntry (backwards : Bool) (t : Term) : Build Ending :=
  if t.bound (if backwards then .textEnd else .textStart) backwards then Build.nothing
  else Build.loop do
    Build.addStates 1
    let _ ← Build.addRanges 1
    return .open

/-- Builds the automaton of a term. -/
def automaton (backwards : Bool) (t : Term) : Build Unit := do
  let entry ← t.buildEntry backwards
  let e ← if backwards then t.build backwards else (numbered t).build backwards
  Build.addStates 1
  e.connect
  entry.connect

/-- The memory that the automaton of a term takes; none if it is beyond the limit. -/
def memory? (backwards : Bool) (t : Term) : Option Nat :=
  ((t.automaton backwards).run {}).map fun r => r.2.memory

end Term

/-- Both automata of a shape take no more memory than they may. -/
def fits (s : Shape) : Bool :=
  let t := Term.ofShape s
  (t.memory? false).isSome && (t.memory? true).isSome

end Instrumentation.Pattern
