import Instrumentation.Ambient.Work
import Instrumentation.Proofs.Machine
import Mathlib.Logic.Function.Basic

set_option autoImplicit false

/-!
# Work handed over between threads

Any number of threads submit work to one pool and run work from it. The steps of the threads may come in any order, so
a worker may run many tasks, one inside the other, and whatever a task does comes between its beginning and its end.
A thread keeps what is open on it on a stack of frames: the scopes that it has entered, and the tasks that it runs, each
with the scope of the context that is lent to it.

`handed_over` says of every order of the steps that a task begins with the context that its submitter had when it
submitted the task, and that the thread has the context that it had before the task as soon as the task ends. Both are
read back from the history: what waits was submitted at some step, and what runs was begun at some step.

From its beginning to its end a task does to the slots of its thread what a run of its work does
(`Worker.passage_begin_finish`), so the steps of tasks are those of `Work.run`, taken apart.
-/

namespace Instrumentation

variable {κ β : Type}

/-- What is open on a thread: a scope that it has entered, or a task that it runs with the scope of the loan. -/
inductive Frame (κ : Type) where
  | scope (opened : Scope κ)
  | task (job : Nat) (loan : Scope κ)
deriving DecidableEq, Repr

/-- A thread: its slots and what is open on it, innermost first. -/
structure Worker (κ : Type) where
  slots : Slots κ := {}
  frames : List (Frame κ) := []
deriving DecidableEq, Repr

/-- How the body of a task ends. -/
inductive TaskEnd where
  | returned
  | panicked
deriving DecidableEq, Repr

/-- What a run of work does to slots if its body leaves the slots `left`: the slots that the body finds, and the slots
after the run. -/
def Work.passage (work : Work κ β) (left before : Slots κ) : Slots κ × Slots κ :=
  StateT.run
    (work.run fun _ => do
      let found ← get
      set left
      return found)
    before

namespace Worker

/-- What concerns one thread only. -/
inductive Act (κ : Type) where
  | setContext (c : κ)
  | clearContext
  | setKey (k : String)
  | clearKey
  | enterContext (c : Option κ)
  | enterKey (k : String)
  /-- Leaves the innermost scope. -/
  | exit
  /-- The innermost task ends. -/
  | finish (ending : TaskEnd)

/-- The job of the innermost task. -/
def running (w : Worker κ) : Option Nat :=
  w.frames.findSome? fun
    | .scope _ => none
    | .task job _ => some job

/-- Opens a scope. -/
def enter (w : Worker κ) (opened : Scope κ × Slots κ) : Worker κ :=
  { slots := opened.2, frames := .scope opened.1 :: w.frames }

/-- Begins a task, with the captured context lent to the thread. -/
def begin (w : Worker κ) (job : Nat) (work : Work κ β) : Worker κ :=
  let (loan, slots) := w.slots.enterContext work.captured
  { slots, frames := .task job loan :: w.frames }

/-- Ends the innermost task. The scopes that are open inside it are left first, from the inside out; then the loan
ends. None if no task is running. -/
def endTask (s : Slots κ) : List (Frame κ) → Option (Worker κ)
  | [] => none
  | .scope opened :: rest => endTask (s.leave opened) rest
  | .task _ loan :: rest => some { slots := s.leave loan, frames := rest }

/-- Leaves the innermost scope, if it was entered inside the innermost task. -/
def exit (w : Worker κ) : Worker κ :=
  match w.frames with
  | .scope opened :: rest => { slots := w.slots.leave opened, frames := rest }
  | _ => w

/-- A thread after something that concerns it only. A task that panics leaves its scopes and ends its loan like one that
returns. -/
def act (w : Worker κ) : Act κ → Worker κ
  | .setContext c => { w with slots := w.slots.setContext c }
  | .clearContext => { w with slots := w.slots.clearContext }
  | .setKey k => { w with slots := w.slots.setKey k }
  | .clearKey => { w with slots := w.slots.clearKey }
  | .enterContext c => w.enter (w.slots.enterContext c)
  | .enterKey k => w.enter (w.slots.enterKey k)
  | .exit => w.exit
  | .finish _ => (endTask w.slots w.frames).getD w

/-- The innermost task stands below the scopes that are open inside it. -/
theorem exists_frames_of_running {w : Worker κ} {job : Nat} (h : w.running = some job) :
    ∃ (opened : List (Scope κ)) (loan : Scope κ) (rest : List (Frame κ)),
      w.frames = opened.map .scope ++ .task job loan :: rest := by
  obtain ⟨slots, frames⟩ := w
  show ∃ opened loan rest, frames = _
  unfold running at h
  dsimp only at h
  induction frames with
  | nil => cases h
  | cons f frames ih =>
      cases f with
      | scope s =>
          rw [List.findSome?_cons] at h
          obtain ⟨opened, loan, rest, rfl⟩ := ih h
          exact ⟨s :: opened, loan, rest, rfl⟩
      | task j loan =>
          cases h
          exact ⟨[], loan, frames, rfl⟩

theorem endTask_eq (s : Slots κ) (opened : List (Scope κ)) (job : Nat) (loan : Scope κ)
    (rest : List (Frame κ)) :
    endTask s (opened.map .scope ++ .task job loan :: rest) =
      some { slots := (opened.foldl Slots.leave s).leave loan, frames := rest } := by
  induction opened generalizing s with
  | nil => rfl
  | cons o opened ih => exact ih (s.leave o)

/-- The innermost task ends: the scopes inside it are left, and then the scope of its loan. -/
theorem act_finish {w : Worker κ} {opened : List (Scope κ)} {job : Nat} {loan : Scope κ}
    {rest : List (Frame κ)} (h : w.frames = opened.map .scope ++ .task job loan :: rest)
    (ending : TaskEnd) :
    w.act (.finish ending) =
      { slots := (opened.foldl Slots.leave w.slots).leave loan, frames := rest } := by
  rw [act, h, endTask_eq]
  rfl

theorem suffix_of_endTask {s : Slots κ} {frames : List (Frame κ)} {w : Worker κ}
    (h : endTask s frames = some w) : w.frames <:+ frames := by
  induction frames generalizing s with
  | nil => cases h
  | cons f frames ih =>
      cases f with
      | scope opened => exact (ih h).trans (List.suffix_cons ..)
      | task job loan =>
          cases h
          exact List.suffix_cons ..

/-- Nothing that concerns one thread only begins a task: a task is on the thread afterwards, above the same frames as
before, only if it was there before. -/
theorem suffix_of_act {w : Worker κ} {a : Act κ} {job : Nat} {loan : Scope κ}
    {below : List (Frame κ)} (h : .task job loan :: below <:+ (w.act a).frames) :
    .task job loan :: below <:+ w.frames := by
  cases a with
  | enterContext c => exact (List.suffix_cons_iff.1 h).resolve_left nofun
  | enterKey k => exact (List.suffix_cons_iff.1 h).resolve_left nofun
  | exit =>
      rw [act, exit] at h
      split at h
      · next hframes =>
        rw [hframes]
        exact h.trans (List.suffix_cons ..)
      · exact h
  | finish ending =>
      rw [act] at h
      cases hend : endTask w.slots w.frames with
      | none =>
          rw [hend] at h
          exact h
      | some ended =>
          rw [hend] at h
          exact h.trans (suffix_of_endTask hend)
  | _ => exact h

/-- **A task that begins and ends is a run of its work**, whichever of its scopes the body leaves open: the body finds
the slots with which the task begins, and what the work leaves in the slots is there when the task has ended. -/
theorem passage_begin_finish (w inner : Worker κ) (job : Nat) (work : Work κ β)
    (opened : List (Scope κ))
    (hframes : inner.frames = opened.map .scope ++ (w.begin job work).frames) (ending : TaskEnd) :
    work.passage (opened.foldl Slots.leave inner.slots) w.slots =
      ((w.begin job work).slots, (inner.act (.finish ending)).slots) := by
  rw [act_finish hframes]
  rfl

end Worker

/-- What a thread does next. -/
inductive Pool.Step (κ β : Type) where
  | own (a : Worker.Act κ)
  /-- Submits work that is wrapped on the submitting thread. -/
  | submit (body : β)
  /-- Takes a waiting job and begins it. -/
  | begin (job : Nat)

/-- Threads and the jobs that they submitted. A job is there until it begins. -/
structure Pool (τ κ β : Type) where
  worker : τ → Worker κ
  jobs : List (Option (Work κ β)) := []

namespace Pool

variable {τ : Type}

/-- Threads with given slots before any of their steps. -/
def idle (slots : τ → Slots κ) : Pool τ κ β := { worker := fun t => { slots := slots t } }

/-- The context of a thread. -/
def context (p : Pool τ κ β) (t : τ) : Option κ := (p.worker t).slots.context

/-- The work that waits as a job. -/
def waiting (p : Pool τ κ β) (job : Nat) : Option (Work κ β) := p.jobs[job]?.join

variable [DecidableEq τ]

/-- Sets a thread. -/
def setWorker (p : Pool τ κ β) (t : τ) (w : Worker κ) : Pool τ κ β :=
  { p with worker := Function.update p.worker t w }

@[simp] theorem worker_setWorker (p : Pool τ κ β) (t : τ) (w : Worker κ) :
    (p.setWorker t w).worker t = w := Function.update_self ..

/-- The step of a thread. A job that begins gives out its body. -/
def operate : Machine (Pool τ κ β) (τ × Step κ β) β
  | p, (t, .own a) => (none, p.setWorker t ((p.worker t).act a))
  | p, (t, .submit body) =>
      (none, { p with jobs := p.jobs ++ [some (Work.wrap (p.worker t).slots body)] })
  | p, (t, .begin job) =>
      match p.waiting job with
      | none => (none, p)
      | some work =>
          (some work.body,
            { p.setWorker t ((p.worker t).begin job work) with jobs := p.jobs.set job none })

theorem operate_own (p : Pool τ κ β) (t : τ) (a : Worker.Act κ) :
    operate p (t, .own a) = (none, p.setWorker t ((p.worker t).act a)) := rfl

theorem operate_begin {p : Pool τ κ β} {job : Nat} {work : Work κ β}
    (h : p.waiting job = some work) (t : τ) :
    operate p (t, .begin job) =
      (some work.body,
        { p.setWorker t ((p.worker t).begin job work) with jobs := p.jobs.set job none }) := by
  rw [operate, h]

theorem worker_operate_begin {p : Pool τ κ β} {job : Nat} {work : Work κ β}
    (h : p.waiting job = some work) (t : τ) :
    (operate p (t, .begin job)).2.worker t = (p.worker t).begin job work := by
  rw [operate_begin h]
  exact worker_setWorker ..

/-- No step of a thread changes another thread. -/
theorem worker_operate_of_ne (p : Pool τ κ β) {t u : τ} (h : u ≠ t) (step : Step κ β) :
    (operate p (u, step)).2.worker t = p.worker t := by
  cases step with
  | own a => exact Function.update_of_ne h.symm ..
  | submit body => rfl
  | begin job =>
      rw [operate]
      cases p.waiting job with
      | none => rfl
      | some work => exact Function.update_of_ne h.symm ..

/-- A job that waits after a step and did not wait before it is submitted by the step. -/
theorem waiting_operate {p : Pool τ κ β} {u : τ} {step : Step κ β} {job : Nat} {work : Work κ β}
    (hbefore : p.waiting job ≠ some work)
    (hafter : (operate p (u, step)).2.waiting job = some work) :
    ∃ body, step = .submit body ∧ p.jobs.length = job ∧
      work = Work.wrap (p.worker u).slots body := by
  cases step with
  | own a => exact absurd hafter hbefore
  | submit body =>
      have hjobs : (p.jobs ++ [some (Work.wrap (p.worker u).slots body)])[job]?.join = some work :=
        hafter
      rcases Nat.lt_trichotomy job p.jobs.length with hlt | heq | hgt
      · rw [List.getElem?_append_left hlt] at hjobs
        exact absurd hjobs hbefore
      · rw [heq, List.getElem?_concat_length] at hjobs
        cases hjobs
        exact ⟨body, rfl, heq.symm, rfl⟩
      · have hlength : (p.jobs ++ [some (Work.wrap (p.worker u).slots body)]).length ≤ job := by
          simpa [Nat.succ_le_iff] using hgt
        rw [List.getElem?_eq_none hlength] at hjobs
        cases hjobs
  | begin j =>
      -- A job that begins leaves the list of jobs as long as it is, with nothing in its place.
      rw [operate] at hafter
      cases hj : p.waiting j with
      | none =>
          rw [hj] at hafter
          exact absurd hafter hbefore
      | some begun =>
          rw [hj] at hafter
          have hjobs : (p.jobs.set j none)[job]?.join = some work := hafter
          rw [List.getElem?_set] at hjobs
          split at hjobs
          · split at hjobs <;> cases hjobs
          · exact absurd hjobs hbefore

/-- A task that is on a thread after a step, and was not there above the same frames before it, is begun by the step
on top of these frames. -/
theorem task_operate {p : Pool τ κ β} {t u : τ} {step : Step κ β} {job : Nat} {loan : Scope κ}
    {below : List (Frame κ)} (hbefore : ¬ .task job loan :: below <:+ (p.worker t).frames)
    (hafter : .task job loan :: below <:+ ((operate p (u, step)).2.worker t).frames) :
    u = t ∧ step = .begin job ∧ ∃ work, p.waiting job = some work ∧
      .task job loan :: below = ((p.worker t).begin job work).frames := by
  by_cases hu : u = t
  · subst hu
    cases step with
    | own a =>
        have hact : .task job loan :: below <:+ ((p.worker u).act a).frames := by
          simpa [operate] using hafter
        exact absurd (Worker.suffix_of_act hact) hbefore
    | submit body => exact absurd hafter hbefore
    | begin j =>
        rw [operate] at hafter
        cases hj : p.waiting j with
        | none =>
            rw [hj] at hafter
            exact absurd hafter hbefore
        | some work =>
            rw [hj] at hafter
            have hbegun : .task job loan :: below <:+ ((p.worker u).begin j work).frames := by
              simpa using hafter
            -- One frame was added, so the task is either that frame or was there before.
            rcases List.suffix_cons_iff.1 hbegun with hnew | hold
            · cases hnew
              exact ⟨rfl, rfl, work, hj, rfl⟩
            · exact absurd hold hbefore
  · rw [worker_operate_of_ne p hu] at hafter
    exact absurd hafter hbefore

/-- **Work is handed over with its context, and the context is given back.** Whatever threads with whatever slots do,
in any order of their steps:

* a job that waits was submitted by some thread, and when it begins, on any thread, its body finds the context that
  the submitter had when it submitted the job;
* when the innermost task of a thread ends, in whatever way, the thread has the context that it had before the task
  began, and from its beginning to its end the task did to the slots of the thread what a run of its work does;
* no step of a thread changes another thread. -/
theorem handed_over (slots : τ → Slots κ) (history : List (τ × Step κ β)) (t : τ) (job : Nat) :
    (∀ work, (operate.after (idle slots) history).waiting job = some work →
      ∃ front u body rest, history = front ++ (u, .submit body) :: rest ∧
        (operate.after (idle slots) front).jobs.length = job ∧
        (operate (operate.after (idle slots) history) (t, .begin job)).1 = some body ∧
        (operate (operate.after (idle slots) history) (t, .begin job)).2.context t =
          (operate.after (idle slots) front).context u) ∧
      (((operate.after (idle slots) history).worker t).running = some job →
        ∃ front rest work, history = front ++ (t, .begin job) :: rest ∧
          (operate.after (idle slots) front).waiting job = some work ∧
          ∀ ending,
            (operate (operate.after (idle slots) history) (t, .own (.finish ending))).2.context t =
              (operate.after (idle slots) front).context t ∧
            ∃ left, work.passage left ((operate.after (idle slots) front).worker t).slots =
              (((operate (operate.after (idle slots) front) (t, .begin job)).2.worker t).slots,
                ((operate (operate.after (idle slots) history)
                  (t, .own (.finish ending))).2.worker t).slots)) ∧
      ∀ (p : Pool τ κ β) (u : τ) (step : Step κ β), u ≠ t →
        (operate p (u, step)).2.worker t = p.worker t := by
  refine ⟨?_, ?_, fun p u step hu => p.worker_operate_of_ne hu step⟩
  · intro work hwaiting
    have hidle : ¬ (idle slots : Pool τ κ β).waiting job = some work := by
      simp [idle, waiting]
    -- Nothing waits at first, so some step of the history made this job wait.
    obtain ⟨front, ⟨u, step⟩, rest, hhistory, hbefore, hafter⟩ :=
      Machine.exists_step_of_after operate
        (P := fun p : Pool τ κ β => p.waiting job = some work) hidle hwaiting
    obtain ⟨body, rfl, hlength, rfl⟩ := waiting_operate hbefore hafter
    refine ⟨front, u, body, rest, hhistory, hlength, ?_, ?_⟩
    · rw [operate_begin hwaiting]
      rfl
    · rw [context, worker_operate_begin hwaiting]
      rfl
  · intro hrunning
    -- It is followed together with the frames below it: that the task is there would not say what it stands on, and
    -- so not what is left on the thread when it ends.
    obtain ⟨opened, loan, below, hframes⟩ := Worker.exists_frames_of_running hrunning
    have hthere : .task job loan :: below <:+ ((operate.after (idle slots) history).worker t).frames :=
      ⟨opened.map .scope, hframes.symm⟩
    have hidle : ¬ .task job loan :: below <:+ ((idle slots : Pool τ κ β).worker t).frames := by
      simp [idle]
    obtain ⟨front, ⟨u, step⟩, rest, hhistory, hbefore, hafter⟩ :=
      Machine.exists_step_of_after operate
        (P := fun p : Pool τ κ β => .task job loan :: below <:+ (p.worker t).frames) hidle hthere
    obtain ⟨rfl, rfl, work, hwaiting, hbegun⟩ := task_operate hbefore hafter
    rw [hbegun] at hframes
    refine ⟨front, rest, work, hhistory, hwaiting, fun ending => ?_⟩
    have hpassage := ((operate.after (idle slots) front).worker u).passage_begin_finish
      ((operate.after (idle slots) history).worker u) job work opened hframes ending
    rw [worker_operate_begin hwaiting, operate_own, context, worker_setWorker]
    refine ⟨?_, _, hpassage⟩
    rw [Worker.act_finish hframes]
    rfl

/-- Thread 1 has a context of its own; thread 0 has none. -/
def workerSlots : Nat → Slots Nat := fun t => { context := if t = 1 then some 5 else none }

/-- Thread 0 submits a job under a context that it takes away again. Thread 1 runs the job, sets another context, enters
a scope without context and submits two jobs in it; it runs the first of these inside the task that it runs, and that
job panics. -/
def workerHistory : List (Nat × Step Nat String) :=
  [(0, .own (.setContext 7)), (0, .submit "outer"), (0, .own .clearContext), (1, .begin 0),
    (1, .own (.setContext 9)), (1, .own (.enterContext none)), (1, .submit "inner"),
    (1, .submit "later"), (1, .begin 1), (1, .own (.setContext 8)), (1, .own (.finish .panicked)),
    (0, .own (.setContext 3))]

/-- The task of thread 1 ends while its scope is open, and the thread has its own context again; the job that was
submitted without context begins without context on thread 0. -/
theorem handed_over_nested :
    ((operate.after (idle workerSlots) workerHistory).worker 1).running = some 0 ∧
      (∃ front rest, workerHistory = front ++ (1, .begin 0) :: rest ∧
        (operate (operate.after (idle workerSlots) workerHistory)
          (1, .own (.finish .panicked))).2.context 1 =
            (operate.after (idle workerSlots) front).context 1) ∧
      (operate (operate.after (idle workerSlots) workerHistory)
        (1, .own (.finish .panicked))).2.context 1 = some 5 ∧
      (operate.after (idle workerSlots) workerHistory).waiting 2 = some ⟨none, "later"⟩ ∧
      (∃ front u body rest, workerHistory = front ++ (u, .submit body) :: rest ∧
        (operate.after (idle workerSlots) front).jobs.length = 2 ∧
        (operate (operate.after (idle workerSlots) workerHistory) (0, .begin 2)).2.context 0 =
          (operate.after (idle workerSlots) front).context u) ∧
      (operate (operate.after (idle workerSlots) workerHistory) (0, .begin 2)).2.context 0 =
        none := by
  have hrunning : ((operate.after (idle workerSlots) workerHistory).worker 1).running = some 0 := by
    decide
  have hwaiting : (operate.after (idle workerSlots) workerHistory).waiting 2 =
      some ⟨none, "later"⟩ := rfl
  obtain ⟨-, hends, -⟩ := handed_over workerSlots workerHistory 1 0
  obtain ⟨hbegins, -, -⟩ := handed_over workerSlots workerHistory 0 2
  obtain ⟨front, rest, work, hhistory, -, hended⟩ := hends hrunning
  obtain ⟨front', u, body, rest', hhistory', hlength, -, hfound⟩ := hbegins _ hwaiting
  exact ⟨hrunning, ⟨front, rest, hhistory, (hended .panicked).1⟩, by decide, hwaiting,
    ⟨front', u, body, rest', hhistory', hlength, hfound⟩, by decide⟩

end Pool

end Instrumentation
