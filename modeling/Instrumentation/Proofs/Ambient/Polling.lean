import Instrumentation.Dispatch.Failure
import Instrumentation.Proofs.Ambient.Wrapping
import Instrumentation.Proofs.Machine
import Mathlib.Logic.Function.Basic

set_option autoImplicit false

/-!
# Polls of wrapped futures

A wrapped future is polled again and again, each time by whichever thread comes along. Each poll lends the captured
context to that thread for the time of the poll. `Polling.turn` is one turn of a schedule: a thread polls the future, or
a thread does something else that changes its slots. What a poll meets apart from the slots of its thread, such as memory
that others write, is given with the turn.

`polled_in_captured_context` says of every schedule that each poll finds the captured context and gives the thread its
own back, and that the results are those of the bare future (`Future.results`) polled on threads that have the captured
context.
-/

namespace Instrumentation

/-- A future: what a poll does, by what its surroundings give it and by what the last poll has left. A panic is a result
of the future. -/
abbrev Future (ι κ α β : Type) := ι → β → StateM (Slots κ) (Poll (Except PanicPayload α) β)

namespace Poll

variable {α β γ : Type}

/-- The result, if there is one. -/
def result? : Poll α β → Option α
  | ready result => some result
  | pending _ => none

/-- What is left to be polled. -/
def rest? : Poll α β → Option β
  | ready _ => none
  | pending rest => some rest

/-- Changes what is left to be polled. -/
def mapRest (f : β → γ) : Poll α β → Poll α γ
  | ready result => .ready result
  | pending rest => .pending (f rest)

@[simp] theorem result?_mapRest (f : β → γ) (p : Poll α β) : (p.mapRest f).result? = p.result? := by
  cases p with
  | ready result => rfl
  | pending rest => rfl

@[simp] theorem rest?_mapRest (f : β → γ) (p : Poll α β) :
    (p.mapRest f).rest? = p.rest?.map f := by
  cases p with
  | ready result => rfl
  | pending rest => rfl

end Poll

/-- A poll of a wrapped future is a poll of the future on a thread that has the captured context, and afterwards the
thread has its own context again. What is left keeps the capture. -/
theorem Work.poll_run {σ κ α β : Type} [ThreadState σ κ] (w : Work κ β)
    (inner : β → StateM σ (Poll α β)) (s : σ) :
    (w.poll inner).run s =
      (((inner w.body).run (underContext w.captured s)).1.mapRest (Work.mk w.captured),
        underContext (ThreadState.slots s).context
          ((inner w.body).run (underContext w.captured s)).2) := by
  rw [Work.poll, StateT.run_bind, lend_run]
  rcases (inner w.body).run (underContext w.captured s) with ⟨p, t⟩
  cases p with
  | ready result => rfl
  | pending rest => rfl

/-- Slots with a note of what a future has found in them. -/
structure Watched (κ : Type) where
  slots : Slots κ
  found : Slots κ

instance {κ : Type} : ThreadState (Watched κ) κ where
  slots w := w.slots
  setSlots w slots := { w with slots }
  slots_setSlots _ _ := rfl

namespace Future

variable {ι κ α β : Type}

/-- The future with a note of the slots that a poll has found at its start. -/
def watched (f : Future ι κ α β) (given : ι) (b : β) :
    StateM (Watched κ) (Poll (Except PanicPayload α) β) := do
  let found := (← get).slots
  let (p, slots) := (f given b).run found
  set { slots, found : Watched κ }
  return p

/-- In a poll of the wrapped future, the future finds the captured context. -/
theorem found_poll_watched (f : Future ι κ α β) (given : ι) (w : Work κ β) (s : Watched κ) :
    ((w.poll (f.watched given)).run s).2.found = s.slots.replaceContext w.captured := by
  rw [Work.poll_run]
  rfl

/-- What the polls of a future come to, each by what it is given and the slots of its thread, up to the poll that has the
result. A poll without result comes to nothing. -/
def results (f : Future ι κ α β) : β → List (ι × Slots κ) → List (Option (Except PanicPayload α))
  | _, [] => []
  | b, (given, slots) :: later =>
      match ((f given b).run slots).1 with
      | .ready result => [some result]
      | .pending rest => none :: f.results rest later

end Future

/-- What a poll was: who polled, what was given, the slots of the thread before and after, those that the future found
when the poll began, and the result if there was one. -/
structure PollReport (τ ι κ α : Type) where
  thread : τ
  given : ι
  before : Slots κ
  found : Slots κ
  after : Slots κ
  result : Option (Except PanicPayload α)

/-- What happens next. -/
inductive Polling.Turn (τ ι κ : Type) where
  | poll (thread : τ) (given : ι)
  /-- A thread does something else, after which its slots are as given. -/
  | elsewhere (thread : τ) (slots : Slots κ)

/-- Threads and a wrapped future, which is there until it has a result. -/
structure Polling (τ κ β : Type) where
  slots : τ → Slots κ
  future : Option (Work κ β)

namespace Polling

variable {τ ι κ α β : Type}

/-- A future that was wrapped by a thread. -/
def wrapped (slots : τ → Slots κ) (t : τ) (b : β) : Polling τ κ β :=
  { slots, future := some (.wrap (slots t) b) }

variable [DecidableEq τ]

/-- Takes a turn. A poll of a future that has no result yet is reported. -/
def turn (f : Future ι κ α β) : Machine (Polling τ κ β) (Turn τ ι κ) (PollReport τ ι κ α)
  | p, .elsewhere t slots => (none, { p with slots := Function.update p.slots t slots })
  | p, .poll t given =>
      match p.future with
      | none => (none, p)
      | some work =>
          let before := p.slots t
          let found :=
            ((work.poll (f.watched given)).run { slots := before, found := before }).2.found
          let (polled, after) := (work.poll (f given)).run before
          (some { thread := t, given, before, found, after, result := polled.result? },
            { slots := Function.update p.slots t after, future := polled.rest? })

theorem turn_poll_of_none (f : Future ι κ α β) {p : Polling τ κ β} (h : p.future = none) (t : τ)
    (given : ι) : turn f p (.poll t given) = (none, p) := by
  rw [turn, h]

/-- A turn at which a thread polls: the future is polled on slots that hold the captured context, and the thread has its
own context afterwards. -/
theorem turn_poll (f : Future ι κ α β) {p : Polling τ κ β} {c : Option κ} {b : β}
    (h : p.future = some ⟨c, b⟩) {t : τ} {given : ι} {polled : Poll (Except PanicPayload α) β}
    {left : Slots κ} (hpoll : (f given b).run ((p.slots t).replaceContext c) = (polled, left)) :
    turn f p (.poll t given) =
      (some { thread := t, given, before := p.slots t, found := (p.slots t).replaceContext c,
              after := left.replaceContext (p.slots t).context, result := polled.result? },
        { slots := Function.update p.slots t (left.replaceContext (p.slots t).context),
          future := polled.rest?.map (Work.mk c) }) := by
  have hrun : ((Work.mk c b).poll (f given)).run (p.slots t) =
      (polled.mapRest (Work.mk c), left.replaceContext (p.slots t).context) := by
    rw [Work.poll_run]
    show ((((f given b).run ((p.slots t).replaceContext c)).1.mapRest (Work.mk c)),
      ((f given b).run ((p.slots t).replaceContext c)).2.replaceContext (p.slots t).context) = _
    rw [hpoll]
  rw [turn, h]
  dsimp only
  rw [hrun, Future.found_poll_watched]
  dsimp only
  rw [Poll.result?_mapRest, Poll.rest?_mapRest]

/-- A future that has its result is polled no more. -/
theorem given_of_none (f : Future ι κ α β) {p : Polling τ κ β} (h : p.future = none)
    (schedule : List (Turn τ ι κ)) : (turn f).given p schedule = [] := by
  induction schedule generalizing p with
  | nil => rfl
  | cons a rest ih =>
      rw [Machine.given_cons]
      cases a with
      | poll t given =>
          rw [turn_poll_of_none f h]
          exact ih h
      | elsewhere t slots => exact ih h

/-- The results of a wrapped future are those of the future on slots that hold the captured context. -/
theorem results_given (f : Future ι κ α β) {p : Polling τ κ β} {c : Option κ} {b : β}
    (h : p.future = some ⟨c, b⟩) (schedule : List (Turn τ ι κ)) :
    ((turn f).given p schedule).map PollReport.result =
      f.results b (((turn f).given p schedule).map fun r =>
        (r.given, r.before.replaceContext c)) := by
  induction schedule generalizing p b with
  | nil => rfl
  | cons a rest ih =>
      rw [Machine.given_cons]
      cases a with
      | elsewhere t slots => exact ih h
      | poll t given =>
          rcases hpoll : (f given b).run ((p.slots t).replaceContext c) with ⟨polled, left⟩
          rw [turn_poll f h hpoll, Option.toList_some, List.singleton_append, List.map_cons,
            List.map_cons, Future.results, hpoll]
          cases polled with
          | ready result =>
              -- The future is gone, so that the rest of the schedule has no reports.
              rw [given_of_none f (by rfl)]
              rfl
          | pending rest =>
              rw [ih rfl]
              rfl

/-- As long as no poll has had a result, the future is there, with the capture of the start. -/
theorem exists_future_after (f : Future ι κ α β) {p : Polling τ κ β} {c : Option κ} {b : β}
    (h : p.future = some ⟨c, b⟩) {history : List (Turn τ ι κ)}
    (hpending : ∀ r ∈ (turn f).given p history, r.result = none) :
    ∃ b', ((turn f).after p history).future = some ⟨c, b'⟩ := by
  induction history generalizing p b with
  | nil => exact ⟨b, h⟩
  | cons a rest ih =>
      rw [Machine.given_cons] at hpending
      rw [Machine.after_cons]
      cases a with
      | elsewhere t slots => exact ih h hpending
      | poll t given =>
          rcases hpoll : (f given b).run ((p.slots t).replaceContext c) with ⟨polled, left⟩
          rw [turn_poll f h hpoll] at hpending ⊢
          have hfirst : polled.result? = none := hpending _ List.mem_cons_self
          cases polled with
          | ready result => cases hfirst
          | pending rest => exact ih rfl fun r hr => hpending r (List.mem_cons_of_mem _ hr)

/-- **A wrapped future is polled in the captured context.** Whatever thread wraps it, and whatever the schedule of turns:

* the results of its polls are those of the bare future, polled each time on the slots of the polling thread with the
  context that the wrapping thread had;
* as long as no poll has had a result, a poll by any thread takes place; the future finds at its start that context,
  whatever earlier polls or the threads have put into the slots; and whatever the poll comes to, a panic included, the
  polling thread has the context that it had before, and the other threads have not changed. -/
theorem polled_in_captured_context (f : Future ι κ α β) (slots : τ → Slots κ) (wrapping : τ) (b : β)
    (history : List (Turn τ ι κ)) :
    ((turn f).given (wrapped slots wrapping b) history).map PollReport.result =
      f.results b (((turn f).given (wrapped slots wrapping b) history).map fun r =>
        (r.given, r.before.replaceContext (slots wrapping).context)) ∧
    ((∀ r ∈ (turn f).given (wrapped slots wrapping b) history, r.result = none) →
      ∀ (t : τ) (given : ι), ∃ r p, turn f ((turn f).after (wrapped slots wrapping b) history)
          (.poll t given) = (some r, p) ∧
        r.thread = t ∧ r.given = given ∧
        r.before = ((turn f).after (wrapped slots wrapping b) history).slots t ∧
        r.found.context = (slots wrapping).context ∧ r.found.key = r.before.key ∧
        r.after = p.slots t ∧ r.after.context = r.before.context ∧
        ∀ u, u ≠ t → p.slots u = ((turn f).after (wrapped slots wrapping b) history).slots u) := by
  have hwrapped : (wrapped slots wrapping b).future = some ⟨(slots wrapping).context, b⟩ := rfl
  refine ⟨results_given f hwrapped history, ?_⟩
  intro hpending t given
  obtain ⟨b', hfuture⟩ := exists_future_after f hwrapped hpending
  rcases hpoll : (f given b').run ((((turn f).after (wrapped slots wrapping b) history).slots
    t).replaceContext (slots wrapping).context) with ⟨polled, left⟩
  refine ⟨_, _, turn_poll f hfuture hpoll, rfl, rfl, rfl, rfl, rfl, ?_, rfl, ?_⟩
  · dsimp only
    rw [Function.update_self]
  · intro u hu
    exact Function.update_of_ne hu ..

/-- A future that disturbs the slots in every poll, has no result for a number of polls, and panics then. -/
def disturbing : Future Unit Nat String Nat := fun _ left => do
  modify fun s => (s.setContext 9).setKey "disturbed"
  match left with
  | 0 => return .ready (.error (.text "out of polls"))
  | rest + 1 => return .pending rest

/-- Thread 0 has a context, and so has thread 1. -/
def pollingSlots : Nat → Slots Nat := fun t => { context := if t = 0 then some 7 else some 5 }

/-- Thread 0 loses its context after it has wrapped the future; the future is polled on thread 1, and on thread 2 after
this thread has got another context. -/
def pollingHistory : List (Turn Nat Unit Nat) :=
  [.elsewhere 0 {}, .poll 1 (), .elsewhere 2 { context := some 3 }, .poll 2 ()]

/-- The third poll is on the thread that has wrapped the future. It panics, after it has found the context that this
thread had then; the thread has no context afterwards, as before. -/
theorem polled_in_captured_context_disturbing :
    (∀ r ∈ (turn disturbing).given (wrapped pollingSlots 0 2) pollingHistory, r.result = none) ∧
    ((turn disturbing).given (wrapped pollingSlots 0 2) (pollingHistory ++ [.poll 0 ()])).map
        PollReport.result = [none, none, some (.error (.text "out of polls"))] ∧
    ∃ r p, turn disturbing ((turn disturbing).after (wrapped pollingSlots 0 2) pollingHistory)
        (.poll 0 ()) = (some r, p) ∧
      r.found.context = some 7 ∧ r.before.context = none ∧ (p.slots 0).context = none := by
  have hpending :
      ∀ r ∈ (turn disturbing).given (wrapped pollingSlots 0 2) pollingHistory, r.result = none := by
    decide
  obtain ⟨-, hpoll⟩ := polled_in_captured_context disturbing pollingSlots 0 2 pollingHistory
  obtain ⟨r, p, hturn, -, -, hbefore, hfound, -, hafter, hback, -⟩ := hpoll hpending 0 ()
  have hnone : r.before.context = none := by
    rw [hbefore]
    decide
  refine ⟨hpending, rfl, r, p, hturn, hfound, hnone, ?_⟩
  rw [← hafter, hback, hnone]

end Polling

end Instrumentation
