import Instrumentation.Ambient.Slots

set_option autoImplicit false

/-!
# Work that is handed on

Work that one thread submits and another one runs shall see the context of its submitter. Wrapping
captures the context; running the wrapped work lends it to the running thread, for exactly as long as the
work takes. A panic is a result of the work like any other, so that it ends the loan too.

`ThreadState` says where a state keeps the slots of the running thread, so that the same definitions serve
a thread alone and a whole host.
-/

namespace Instrumentation

/-- States that hold the slots of the running thread. -/
class ThreadState (σ : Type) (κ : outParam Type) where
  slots : σ → Slots κ
  setSlots : σ → Slots κ → σ
  slots_setSlots : ∀ (s : σ) (x : Slots κ), slots (setSlots s x) = x

instance {κ : Type} : ThreadState (Slots κ) κ where
  slots s := s
  setSlots _ x := x
  slots_setSlots _ _ := rfl

section

variable {σ κ α : Type} [ThreadState σ κ]

/-- Runs a task on a thread that has a context, or none, lent to it for the time of the task. -/
def lend (c : Option κ) (task : StateM σ α) : StateM σ α := do
  let (scope, slots) := (ThreadState.slots (← get)).enterContext c
  modify (ThreadState.setSlots · slots)
  let a ← task
  modify fun s => ThreadState.setSlots s ((ThreadState.slots s).leave scope)
  return a

/-- Runs a task on a thread of its own: the slots of the new thread are given, those of the running thread
are as before when the task is done. -/
def onThread (fresh : Slots κ) (task : StateM σ α) : StateM σ α := do
  let own := ThreadState.slots (← get)
  modify (ThreadState.setSlots · fresh)
  let a ← task
  modify (ThreadState.setSlots · own)
  return a

end

/-- Work with the context that was captured for it. -/
structure Work (κ β : Type) where
  captured : Option κ
  body : β

namespace Work

variable {σ κ α β : Type}

/-- Captures the context of the submitting thread. -/
def wrap (s : Slots κ) (body : β) : Work κ β := ⟨s.context, body⟩

/-- Gives work a context of its own, or none. -/
def wrapWith (c : Option κ) (body : β) : Work κ β := ⟨c, body⟩

/-- The task of wrapped work, where the body says what to do. -/
def task [ThreadState σ κ] (w : Work κ (StateM σ α)) : StateM σ α := lend w.captured w.body

/-- Runs wrapped work whose body is given in other terms. -/
def run [ThreadState σ κ] (w : Work κ β) (perform : β → StateM σ α) : StateM σ α :=
  (Work.mk w.captured (perform w.body)).task

end Work

/-- Whatever takes tasks and runs them in its own time and place. -/
abbrev Executor (σ α ρ : Type) := StateM σ α → StateM σ ρ

/-- An executor in front of another one that hands on the context of the submitter with each task. -/
def Executor.propagating {σ κ α ρ : Type} [ThreadState σ κ] (inner : Executor σ α ρ) :
    Executor σ α ρ :=
  fun body => do
    let s ← get
    inner (Work.wrap (ThreadState.slots s) body).task

/-- What a poll of a future gives: its result, or the future that is left. -/
inductive Poll (α β : Type) where
  | ready (result : α)
  | pending (rest : β)

/-- A wrapped future is work that is polled again and again. Each poll has the captured context lent to
its thread. -/
def Work.poll {σ κ α β : Type} [ThreadState σ κ] (w : Work κ β)
    (inner : β → StateM σ (Poll α β)) : StateM σ (Poll α (Work κ β)) := do
  match ← lend w.captured (inner w.body) with
  | .ready result => return .ready result
  | .pending rest => return .pending { w with body := rest }

end Instrumentation
