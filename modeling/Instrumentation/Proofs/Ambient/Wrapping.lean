import Instrumentation.Scenario.Host
import Mathlib.Logic.Function.Iterate

set_option autoImplicit false

/-!
# Work that is wrapped more than once

Work may be wrapped although it is wrapped already, by a second executor that hands on contexts or by hand. Wrapping
again changes nothing: a context that is lent within another loan is the one that the body finds, and the outer loan only
puts back what the inner one has put back already (`lend_lend`). So a chain of wrappers is its innermost one
(`layered_cons`), and an executor behind any number of propagating ones receives the same single task as behind one
(`wrapped_again_as_once`).
-/

namespace Instrumentation

/-- States in which only the slots that were set last are seen. -/
class LawfulThreadState (σ : Type) {κ : Type} [ThreadState σ κ] : Prop where
  setSlots_setSlots : ∀ (s : σ) (x y : Slots κ),
    ThreadState.setSlots (ThreadState.setSlots s x) y = ThreadState.setSlots s y

instance {κ : Type} : LawfulThreadState (Slots κ) := ⟨fun _ _ _ => rfl⟩

instance : LawfulThreadState Scenario.Host := ⟨fun _ _ _ => rfl⟩

section Lending

variable {σ κ α : Type} [ThreadState σ κ]

/-- A state with another context, or none, on its running thread. -/
def underContext (c : Option κ) (s : σ) : σ :=
  ThreadState.setSlots s ((ThreadState.slots s).replaceContext c)

@[simp] theorem slots_underContext (c : Option κ) (s : σ) :
    ThreadState.slots (underContext c s) = { ThreadState.slots s with context := c } :=
  ThreadState.slots_setSlots ..

/-- A task with a context lent to it runs as it would on a thread that has this context. Afterwards the thread has its
own context again. -/
theorem lend_run (c : Option κ) (task : StateM σ α) (s : σ) :
    (lend c task).run s =
      ((task.run (underContext c s)).1,
        underContext (ThreadState.slots s).context (task.run (underContext c s)).2) := rfl

variable [LawfulThreadState σ]

theorem underContext_underContext (c d : Option κ) (s : σ) :
    underContext d (underContext c s) = underContext d s := by
  rw [underContext, slots_underContext, underContext, LawfulThreadState.setSlots_setSlots]
  rfl

/-- Of two contexts that are lent to a task, only the inner one counts. -/
theorem lend_lend (c d : Option κ) (task : StateM σ α) :
    lend c (lend d task) = lend d task := by
  funext s
  show (lend c (lend d task)).run s = (lend d task).run s
  simp only [lend_run, underContext_underContext]

end Lending

/-! ## Chains of wrappers -/

/-- A way to wrap work: with the context of the thread that wraps it, whose slots are given, or with a context of its
own. -/
inductive Wrapper (κ : Type) where
  | wrap (wrapping : Slots κ)
  | wrapWith (c : Option κ)
deriving DecidableEq, Repr

namespace Wrapper

variable {κ β : Type}

/-- The context that the wrapper captures. -/
def captured : Wrapper κ → Option κ
  | wrap wrapping => wrapping.context
  | wrapWith c => c

/-- Wraps work. -/
def apply : Wrapper κ → β → Work κ β
  | wrap wrapping, body => .wrap wrapping body
  | wrapWith c, body => .wrapWith c body

theorem apply_eq (w : Wrapper κ) (body : β) : w.apply body = ⟨w.captured, body⟩ := by
  cases w with
  | wrap wrapping => rfl
  | wrapWith c => rfl

end Wrapper

section Layers

variable {σ κ α : Type} [ThreadState σ κ]

/-- The task that comes of wrapping a body in layers, the innermost first: each layer wraps the task of the layers
within. -/
def layered (layers : List (Wrapper κ)) (body : StateM σ α) : StateM σ α :=
  layers.foldl (fun task w => (w.apply task).task) body

theorem layered_cons_eq (w : Wrapper κ) (outer : List (Wrapper κ)) (body : StateM σ α) :
    layered (w :: outer) body = layered outer (lend w.captured body) := by
  show layered outer (w.apply body).task = _
  rw [w.apply_eq]
  rfl

/-- Executors in a row, each of which hands on the context of the submitter, wrap a task in as many layers on the
submitting thread. The executor behind them receives the one task that comes of this. -/
theorem propagating_iterate_run {ρ : Type} (inner : Executor σ α ρ) (n : Nat) (body : StateM σ α)
    (submitter : σ) :
    ((Executor.propagating^[n]) inner body).run submitter =
      (inner (layered (List.replicate n (.wrap (ThreadState.slots submitter))) body)).run
        submitter := by
  induction n generalizing body with
  | zero => rfl
  | succ n ih =>
      rw [Function.iterate_succ_apply']
      -- The outermost executor wraps first, so its layer is the innermost one.
      exact ih (Work.wrap (ThreadState.slots submitter) body).task

variable [LawfulThreadState σ]

/-- Layers around a loan add nothing. -/
theorem layered_lend (outer : List (Wrapper κ)) (c : Option κ) (body : StateM σ α) :
    layered outer (lend c body) = lend c body := by
  induction outer with
  | nil => rfl
  | cons w outer ih => rw [layered_cons_eq, lend_lend, ih]

/-- A chain of wrappers is its innermost one. -/
theorem layered_cons (innermost : Wrapper κ) (outer : List (Wrapper κ)) (body : StateM σ α) :
    layered (innermost :: outer) body = lend innermost.captured body := by
  rw [layered_cons_eq, layered_lend]

end Layers

/-- How a task runs a body on a worker under a context, or under none: the body finds the context, and everything else
as the worker had it; the task has the result of the body; and it leaves what the body has left, but with the context
that the worker had before. -/
structure RunsUnder {σ κ α : Type} [ThreadState σ κ] (c : Option κ) (body task : StateM σ α)
    (worker found : σ) : Prop where
  found_eq : found = ThreadState.setSlots worker { ThreadState.slots worker with context := c }
  finds : (ThreadState.slots found).context = c
  result : (task.run worker).1 = (body.run found).1
  restores : (ThreadState.slots (task.run worker).2).context = (ThreadState.slots worker).context
  leaves : (task.run worker).2 = ThreadState.setSlots (body.run found).2
    { ThreadState.slots (body.run found).2 with context := (ThreadState.slots worker).context }

theorem runsUnder_lend {σ κ α : Type} [ThreadState σ κ] (c : Option κ) (body : StateM σ α)
    (worker : σ) : RunsUnder c body (lend c body) worker (underContext c worker) where
  found_eq := rfl
  finds := by rw [slots_underContext]
  result := rfl
  restores := by rw [lend_run, slots_underContext]
  leaves := rfl

/-- **Wrapping again is wrapping once.**

* Whatever an executor does with its tasks: behind one or more propagating executors it receives, for each task that is
  submitted, one task, and the same as behind a single one. The task runs the submitted body under the context of the
  submitter, on whichever worker and whenever that is, and the worker has its own context afterwards.
* A body that is wrapped in any chain of wrappers runs under the context of the innermost one, whatever the outer ones
  capture, and the thread has its own context after the outermost run.

A panic is a result of the body like any other. -/
theorem wrapped_again_as_once {σ κ α : Type} [ThreadState σ κ] [LawfulThreadState σ]
    (body : StateM σ α) :
    (∀ (n : Nat) (submitter : σ), ∃ task : StateM σ α,
      (∀ (ρ : Type) (inner : Executor σ α ρ),
        ((Executor.propagating^[n + 1]) inner body).run submitter = (inner task).run submitter ∧
          (inner.propagating body).run submitter = (inner task).run submitter) ∧
      ∀ worker, ∃ found,
        RunsUnder (ThreadState.slots submitter).context body task worker found) ∧
    ∀ (innermost : Wrapper κ) (outer : List (Wrapper κ)) (worker : σ), ∃ found,
      RunsUnder innermost.captured body (layered (innermost :: outer) body) worker found := by
  refine ⟨fun n submitter => ?_, fun innermost outer worker => ?_⟩
  · refine ⟨lend (ThreadState.slots submitter).context body, fun ρ inner => ⟨?_, rfl⟩,
      fun worker => ⟨_, runsUnder_lend ..⟩⟩
    rw [propagating_iterate_run, List.replicate_succ, layered_cons]
    rfl
  · rw [layered_cons]
    exact ⟨_, runsUnder_lend ..⟩

/-- A body that returns the context that it finds and leaves another one behind. -/
def disturb : StateM (Slots Nat) (Option Nat) := do
  let found ← get
  set (found.setContext 9)
  return found.context

/-- An executor that runs its task at once, on a thread that has a context of its own, and returns that context as it is
afterwards beside the result. -/
def atOnce : Executor (Slots Nat) (Option Nat) (Option Nat × Option Nat) := fun task => do
  onThread { context := some 5 } do
    let result ← task
    return (result, (← get).context)

/-- Three executors in a row act like one; and the context that was given to a body at first is found within two wrappers
that were added on other threads. -/
theorem wrapped_again_as_once_disturbed :
    (((Executor.propagating^[3]) atOnce disturb).run { context := some 7 } =
      (atOnce.propagating disturb).run { context := some 7 }) ∧
    (((Executor.propagating^[3]) atOnce disturb).run { context := some 7 }).1 =
      (some 7, some 5) ∧
    ((layered [.wrapWith none, .wrap { context := some 3 }, .wrapWith (some 4)] disturb).run
      { context := some 5 }).1 = none ∧
    (∃ found, RunsUnder none disturb
      (layered [.wrapWith none, .wrap { context := some 3 }, .wrapWith (some 4)] disturb)
      { context := some 5 } found) := by
  obtain ⟨hsubmitted, hchain⟩ := wrapped_again_as_once disturb
  obtain ⟨task, hreceived, -⟩ := hsubmitted 2 { context := some 7 }
  obtain ⟨hnested, hsingle⟩ := hreceived _ atOnce
  have hinnermost := hchain (.wrapWith none) [.wrap { context := some 3 }, .wrapWith (some 4)]
    { context := some 5 }
  exact ⟨hnested.trans hsingle.symm, by decide, by decide, hinnermost⟩

end Instrumentation
