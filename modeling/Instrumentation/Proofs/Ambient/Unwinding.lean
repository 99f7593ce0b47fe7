import Instrumentation.Proofs.Ambient.Handoff
import Mathlib.Logic.Function.Iterate

set_option autoImplicit false

/-!
# Scopes and panics

What one thread does is a program of nested blocks: bodies of scopes, runs of wrapped work, and blocks that catch the
panics of their bodies. `Program.exec` says what a program comes to, through the loans that also run tasks. It does not
say what the slots hold in between, and while a panic unwinds. So an execution takes single steps: it keeps the blocks
around the running part on a stack, and a panic drops them one by one until a block catches it.

`scopes_restore` says of every step at which the body of a scope, or wrapped work, ends, returning or panicking, that the
slot of the scope holds again what it held when this very scope was entered. Nothing is assumed about the body, which may
set and clear both slots. That the steps come to what `exec` says is `Execution.leads_exec`.
-/

namespace Instrumentation

variable {κ : Type}

/-- What a thread does. A scope is left at the end of its body, so scopes are left in the reverse order of their entries. -/
inductive Program (κ : Type) where
  | skip
  | setContext (c : κ)
  | clearContext
  | setKey (k : String)
  | clearKey
  /-- Goes on in a way that depends on what the slots hold. -/
  | look (next : Slots κ → Program κ)
  | seq (first second : Program κ)
  | inContext (c : Option κ) (body : Program κ)
  | inKey (k : String) (body : Program κ)
  /-- Runs wrapped work. -/
  | run (captured : Option κ) (body : Program κ)
  | panic
  /-- Runs the handler if the body panics. -/
  | catching (body handler : Program κ)

/-- Runs a task with a key lent to the thread for the time of the task. -/
def lendKey {α : Type} (k : String) (task : StateM (Slots κ) α) : StateM (Slots κ) α := do
  let (scope, slots) := (← get).enterKey k
  set slots
  let a ← task
  modify fun s => s.leave scope
  return a

/-- What is entered at the beginning of a block. -/
inductive Opening (κ : Type) where
  | context (c : Option κ)
  | key (k : String)
deriving DecidableEq, Repr

namespace Opening

/-- The slots at the beginning of the block: the slot of the scope holds what the scope brings, and the other one what it
held. -/
def entered : Opening κ → Slots κ → Slots κ
  | context c, before => { before with context := c }
  | key k, before => { before with key := some k }

/-- The slots after the block: the slot of the scope holds what it held before the block, and the other one what the block
has left in it. -/
def restored : Opening κ → Slots κ → Slots κ → Slots κ
  | context _, before, left => { left with context := before.context }
  | key _, before, left => { left with key := before.key }

end Opening

/-- Enters a scope. -/
def Slots.enter (s : Slots κ) : Opening κ → Scope κ × Slots κ
  | .context c => s.enterContext c
  | .key k => s.enterKey k

theorem Slots.enter_snd (s : Slots κ) (o : Opening κ) : (s.enter o).2 = o.entered s := by
  cases o with
  | context c => rfl
  | key k => rfl

/-- A scope that is left restores its slot and keeps the other one. -/
theorem Slots.leave_enter (before left : Slots κ) (o : Opening κ) :
    left.leave (before.enter o).1 = o.restored before left := by
  cases o with
  | context c => exact leave_enterContext before left c
  | key k => exact leave_enterKey before left k

namespace Program

/-- Wraps work where the program stands. What follows may run it. -/
def wrap (body : Program κ) (next : Work κ (Program κ) → Program κ) : Program κ :=
  .look fun s => next (.wrap s body)

/-- Runs wrapped work. -/
def runWork (work : Work κ (Program κ)) : Program κ := .run work.captured work.body

/-- What a program comes to: how it ends, and what it leaves in the slots. -/
def exec : Program κ → StateM (Slots κ) TaskEnd
  | skip => return .returned
  | setContext c => do
      modify fun s => s.setContext c
      return .returned
  | clearContext => do
      modify Slots.clearContext
      return .returned
  | setKey k => do
      modify fun s => s.setKey k
      return .returned
  | clearKey => do
      modify Slots.clearKey
      return .returned
  | look next => do
      let s ← get
      (next s).exec
  | seq first second => do
      match ← first.exec with
      | .returned => second.exec
      | .panicked => return .panicked
  | inContext c body => lend c body.exec
  | inKey k body => lendKey k body.exec
  | run captured body => (Work.wrapWith captured body.exec).task
  | panic => return .panicked
  | catching body handler => do
      match ← body.exec with
      | .returned => return .returned
      | .panicked => handler.exec

/-- The scope with which a block begins, and the body of the block. Wrapped work begins with the scope of its context. -/
def opening? : Program κ → Option (Opening κ × Program κ)
  | inContext c body => some (.context c, body)
  | inKey k body => some (.key k, body)
  | run captured body => some (.context captured, body)
  | _ => none

theorem exec_run_of_opening {p body : Program κ} {o : Opening κ} (h : p.opening? = some (o, body))
    (s : Slots κ) :
    p.exec.run s =
      ((body.exec.run (o.entered s)).1, o.restored s (body.exec.run (o.entered s)).2) := by
  cases p with
  | inContext c body => cases h; rfl
  | inKey k body => cases h; rfl
  | run captured body => cases h; rfl
  | _ => cases h

theorem exec_seq_run (first second : Program κ) (s : Slots κ) :
    (seq first second).exec.run s =
      match first.exec.run s with
      | (.returned, t) => second.exec.run t
      | (.panicked, t) => (.panicked, t) := by
  show (first.exec >>= _).run s = _
  rw [StateT.run_bind]
  rcases first.exec.run s with ⟨ending, t⟩
  cases ending with
  | returned => rfl
  | panicked => rfl

theorem exec_catching_run (body handler : Program κ) (s : Slots κ) :
    (catching body handler).exec.run s =
      match body.exec.run s with
      | (.returned, t) => (.returned, t)
      | (.panicked, t) => handler.exec.run t := by
  show (body.exec >>= _).run s = _
  rw [StateT.run_bind]
  rcases body.exec.run s with ⟨ending, t⟩
  cases ending with
  | returned => rfl
  | panicked => rfl

end Program

/-- A block around the running part of a program. -/
inductive Enclosing (κ : Type) where
  /-- A sequence, and what follows in it. -/
  | next (p : Program κ)
  /-- The body of a scope, or wrapped work. -/
  | scope (opened : Scope κ)
  /-- A block that catches panics. -/
  | handler (p : Program κ)

/-- What happens on a thread: a part of the program begins, or a part has ended. -/
inductive Control (κ : Type) where
  | running (p : Program κ)
  | ended (ending : TaskEnd)

/-- A thread that executes a program: its slots, and the enclosing blocks with the innermost first. -/
structure Execution (κ : Type) where
  slots : Slots κ
  control : Control κ
  stack : List (Enclosing κ)

namespace Execution

/-- A thread that is about to execute a program. -/
def start (slots : Slots κ) (p : Program κ) : Execution κ := ⟨slots, .running p, []⟩

/-- Enters the scope of a block. -/
def enter (s : Slots κ) (o : Opening κ) (body : Program κ) (stack : List (Enclosing κ)) :
    Execution κ :=
  ⟨(s.enter o).2, .running body, .scope (s.enter o).1 :: stack⟩

/-- A part of the program begins. -/
def begin (s : Slots κ) (stack : List (Enclosing κ)) : Program κ → Execution κ
  | .skip => ⟨s, .ended .returned, stack⟩
  | .setContext c => ⟨s.setContext c, .ended .returned, stack⟩
  | .clearContext => ⟨s.clearContext, .ended .returned, stack⟩
  | .setKey k => ⟨s.setKey k, .ended .returned, stack⟩
  | .clearKey => ⟨s.clearKey, .ended .returned, stack⟩
  | .look next => ⟨s, .running (next s), stack⟩
  | .seq first second => ⟨s, .running first, .next second :: stack⟩
  | .inContext c body => enter s (.context c) body stack
  | .inKey k body => enter s (.key k) body stack
  | .run captured body => enter s (.context captured) body stack
  | .panic => ⟨s, .ended .panicked, stack⟩
  | .catching body handler => ⟨s, .running body, .handler handler :: stack⟩

/-- A part of the program has ended, and the innermost block goes on or ends too. A scope is left in either case. -/
def resume (s : Slots κ) : TaskEnd → List (Enclosing κ) → Execution κ
  | ending, [] => ⟨s, .ended ending, []⟩
  | ending, .scope opened :: below => ⟨s.leave opened, .ended ending, below⟩
  | .returned, .next p :: below => ⟨s, .running p, below⟩
  | .panicked, .next _ :: below => ⟨s, .ended .panicked, below⟩
  | .returned, .handler _ :: below => ⟨s, .ended .returned, below⟩
  | .panicked, .handler p :: below => ⟨s, .running p, below⟩

/-- A single step. -/
def step (x : Execution κ) : Execution κ :=
  match x.control with
  | .running p => begin x.slots x.stack p
  | .ended ending => resume x.slots ending x.stack

/-- The execution after a number of steps. -/
def after (x : Execution κ) (n : Nat) : Execution κ := step^[n] x

theorem after_succ (x : Execution κ) (n : Nat) : x.after (n + 1) = (x.after n).step :=
  Function.iterate_succ_apply' ..

/-! ## Steps come to what the program comes to -/

/-- One execution leads to another one in some number of steps. -/
def Leads (x y : Execution κ) : Prop := ∃ n, x.after n = y

theorem Leads.refl (x : Execution κ) : x.Leads x := ⟨0, rfl⟩

theorem Leads.head {x y : Execution κ} (h : x.step.Leads y) : x.Leads y := by
  obtain ⟨n, hn⟩ := h
  exact ⟨n + 1, hn⟩

theorem Leads.trans {x y z : Execution κ} (h : x.Leads y) (h' : y.Leads z) : x.Leads z := by
  obtain ⟨n, rfl⟩ := h
  obtain ⟨m, rfl⟩ := h'
  exact ⟨m + n, Function.iterate_add_apply ..⟩

/-- A block whose body leads to its end leads to its own end, with its scope left. -/
theorem leads_of_opening {p body : Program κ} {o : Opening κ} (h : p.opening? = some (o, body))
    {s : Slots κ} {stack : List (Enclosing κ)}
    (hbody : ∀ below, Leads ⟨o.entered s, .running body, below⟩
      ⟨(body.exec.run (o.entered s)).2, .ended (body.exec.run (o.entered s)).1, below⟩) :
    Leads ⟨s, .running p, stack⟩ ⟨(p.exec.run s).2, .ended (p.exec.run s).1, stack⟩ := by
  have hbegin : step ⟨s, .running p, stack⟩ = enter s o body stack := by
    cases p with
    | inContext c body => cases h; rfl
    | inKey k body => cases h; rfl
    | run captured body => cases h; rfl
    | _ => cases h
  rw [Program.exec_run_of_opening h, ← Slots.leave_enter]
  refine Leads.head ?_
  rw [hbegin, enter, Slots.enter_snd]
  exact (hbody _).trans (Leads.head (Leads.refl _))

/-- Every program ends, with the enclosing blocks as they were, and it comes to what `exec` says. -/
theorem leads_exec (p : Program κ) (s : Slots κ) (stack : List (Enclosing κ)) :
    Leads ⟨s, .running p, stack⟩ ⟨(p.exec.run s).2, .ended (p.exec.run s).1, stack⟩ := by
  -- The stack is general, since a part of the program runs with the block around it on top of the other blocks.
  induction p generalizing s stack with
  | look next ih => exact Leads.head (ih s s stack)
  | seq first second ihFirst ihSecond =>
      have hfirst := ihFirst s (.next second :: stack)
      rw [Program.exec_seq_run]
      generalize first.exec.run s = r at hfirst ⊢
      rcases r with ⟨ending, t⟩
      cases ending with
      | returned => exact Leads.head (hfirst.trans (Leads.head (ihSecond t stack)))
      | panicked => exact Leads.head (hfirst.trans (Leads.head (Leads.refl _)))
  | inContext c body ih => exact leads_of_opening rfl (ih _)
  | inKey k body ih => exact leads_of_opening rfl (ih _)
  | run captured body ih => exact leads_of_opening rfl (ih _)
  | catching body handler ihBody ihHandler =>
      have hbody := ihBody s (.handler handler :: stack)
      rw [Program.exec_catching_run]
      generalize body.exec.run s = r at hbody ⊢
      rcases r with ⟨ending, t⟩
      cases ending with
      | returned => exact Leads.head (hbody.trans (Leads.head (Leads.refl _)))
      | panicked => exact Leads.head (hbody.trans (Leads.head (ihHandler t stack)))
  | _ => exact Leads.head (Leads.refl _)

/-! ## Where a scope was entered -/

/-- A part that ends enters nothing: at most the innermost block is left. -/
theorem resume_suffix (s : Slots κ) (ending : TaskEnd) (stack : List (Enclosing κ)) :
    (resume s ending stack).stack <:+ stack := by
  cases stack with
  | nil => exact List.suffix_refl []
  | cons f below =>
      have hleft : (resume s ending (f :: below)).stack = below := by
        cases f with
        | scope opened => rfl
        | next p => cases ending <;> rfl
        | handler p => cases ending <;> rfl
      rw [hleft]
      exact List.suffix_cons f below

/-- A step leaves blocks, adds one that is no scope, or enters the scope with which a block begins. -/
theorem step_cases (x : Execution κ) :
    x.step.stack <:+ x.stack ∨
      (∃ f, (∀ opened, .scope opened ≠ f) ∧ x.step.stack = f :: x.stack) ∨
      ∃ p o body, x.control = .running p ∧ p.opening? = some (o, body) ∧
        x.step = enter x.slots o body x.stack := by
  rcases x with ⟨s, control, stack⟩
  cases control with
  | running p =>
      cases p with
      | seq first second => exact .inr (.inl ⟨.next second, nofun, rfl⟩)
      | catching body handler => exact .inr (.inl ⟨.handler handler, nofun, rfl⟩)
      | inContext c body => exact .inr (.inr ⟨_, .context c, body, rfl, rfl, rfl⟩)
      | inKey k body => exact .inr (.inr ⟨_, .key k, body, rfl, rfl, rfl⟩)
      | run captured body => exact .inr (.inr ⟨_, .context captured, body, rfl, rfl, rfl⟩)
      | _ => exact .inl (List.suffix_refl stack)
  | ended ending => exact .inl (resume_suffix s ending stack)

/-- A scope that is open after a step, and was not open above the same blocks before it, is entered by the step on top of
these blocks. -/
theorem opening_of_step {x : Execution κ} {opened : Scope κ} {below : List (Enclosing κ)}
    (hbefore : ¬ .scope opened :: below <:+ x.stack)
    (hafter : .scope opened :: below <:+ x.step.stack) :
    ∃ p o body, x = ⟨x.slots, .running p, below⟩ ∧ p.opening? = some (o, body) ∧
      opened = (x.slots.enter o).1 ∧
      x.step = ⟨o.entered x.slots, .running body, .scope opened :: below⟩ := by
  rcases x.step_cases with hsuffix | ⟨f, hf, hcons⟩ | ⟨p, o, body, hcontrol, hopening, hstep⟩
  · exact absurd (hafter.trans hsuffix) hbefore
  · rw [hcons] at hafter
    rcases List.suffix_cons_iff.1 hafter with hnew | hold
    · cases hnew
      exact absurd rfl (hf opened)
    · exact absurd hold hbefore
  · rw [hstep, enter] at hafter
    rcases List.suffix_cons_iff.1 hafter with hnew | hold
    · cases hnew
      refine ⟨p, o, body, ?_, hopening, rfl, ?_⟩
      · rw [← hcontrol]
      · rw [hstep, enter, Slots.enter_snd]
    · exact absurd hold hbefore

/-- What is so at some time, and was not so at first, has been so ever since some last moment at which it was not. -/
theorem exists_last_moment {P : Nat → Prop} {n : Nat} (hfirst : ¬ P 0) (h : P n) :
    ∃ m < n, ¬ P m ∧ ∀ k, m < k → k ≤ n → P k := by
  induction n with
  | zero => exact absurd h hfirst
  | succ n ih =>
      by_cases hn : P n
      · obtain ⟨m, hm, hnot, hsince⟩ := ih hn
        refine ⟨m, Nat.lt_succ_of_lt hm, hnot, fun k hmk hk => ?_⟩
        rcases Nat.le_succ_iff.1 hk with hk | rfl
        · exact hsince k hmk hk
        · exact h
      · refine ⟨n, Nat.lt_succ_self n, hn, fun k hnk hk => ?_⟩
        rw [Nat.le_antisymm hk hnk]
        exact h

/-- **Scopes and wrapped work restore their slots.** Every program ends, with no block open, as `exec` says. And at every
step at which the body of a scope, or wrapped work, ends, returning or panicking: it was entered at an earlier step, on
top of the blocks that are left now, and open since then; by then its slot held what the scope brings and the other slot
what it held before; and the next step leaves it, so that its slot holds what it held before the scope was entered, and
the other slot what the body has left in it. -/
theorem scopes_restore (slots : Slots κ) (program : Program κ) :
    (∃ n, (start slots program).after n =
      ⟨(program.exec.run slots).2, .ended (program.exec.run slots).1, []⟩) ∧
    ∀ (n : Nat) (left : Slots κ) (ending : TaskEnd) (opened : Scope κ)
      (below : List (Enclosing κ)),
      (start slots program).after n = ⟨left, .ended ending, .scope opened :: below⟩ →
      ∃ m < n, ∃ (before : Slots κ) (p : Program κ) (o : Opening κ) (body : Program κ),
        p.opening? = some (o, body) ∧
        (start slots program).after m = ⟨before, .running p, below⟩ ∧
        (start slots program).after (m + 1) =
          ⟨o.entered before, .running body, .scope opened :: below⟩ ∧
        (∀ k, m < k → k ≤ n → .scope opened :: below <:+ ((start slots program).after k).stack) ∧
        (start slots program).after (n + 1) = ⟨o.restored before left, .ended ending, below⟩ := by
  refine ⟨leads_exec program slots [], ?_⟩
  intro n left ending opened below hends
  -- The scope is followed together with the blocks below it: an equal scope may have been open before, elsewhere.
  have hstack : ((start slots program).after n).stack = .scope opened :: below :=
    congrArg stack hends
  have hopen : .scope opened :: below <:+ ((start slots program).after n).stack :=
    hstack ▸ List.suffix_refl _
  have hclosed : ¬ .scope opened :: below <:+ ((start slots program).after 0).stack := by
    simp [after, start]
  obtain ⟨m, hm, hbefore, hsince⟩ := exists_last_moment
    (P := fun k => .scope opened :: below <:+ ((start slots program).after k).stack) hclosed hopen
  have hafter := hsince (m + 1) (Nat.lt_succ_self m) hm
  rw [after_succ] at hafter
  obtain ⟨p, o, body, hat, hopening, hopened, hstep⟩ := opening_of_step hbefore hafter
  refine ⟨m, hm, ((start slots program).after m).slots, p, o, body, hopening, hat, ?_, hsince, ?_⟩
  · rw [after_succ, hstep]
  · rw [after_succ, hends, ← Slots.leave_enter, ← hopened]
    rfl

/-- The body of a context scope goes into a scope of the empty key, sets the key, clears the context and panics. The
handler runs work that was wrapped at the start. -/
def panickingProgram : Program Nat :=
  .wrap (.setKey "after") fun work =>
    .catching
      (.inContext (some 1)
        (.seq (.inKey "" (.seq (.setKey "inner") (.seq .clearContext .panic))) (.setContext 3)))
      (.runWork work)

/-- An execution of this program on a thread that has a context. -/
def panicking : Execution Nat := start { context := some 7 } panickingProgram

/-- The blocks around the scope of the key. -/
def aroundKey : List (Enclosing Nat) :=
  [.next (.setContext 3), .scope (.context (some 7)), .handler (.run (some 7) (.setKey "after"))]

/-- The panic leaves the scope of the key first, with the context that the body has left, and then the scope of the
context. The work that runs afterwards finds the context of the start. -/
theorem scopes_restore_unwinding :
    panicking.after 12 =
        ⟨{ context := none, key := some "inner" }, .ended .panicked, .scope (.key none) :: aroundKey⟩ ∧
      (∃ m < 12, ∃ (before : Slots Nat) (p : Program Nat) (o : Opening Nat) (body : Program Nat),
        p.opening? = some (o, body) ∧ panicking.after m = ⟨before, .running p, aroundKey⟩ ∧
          (panicking.after 13).slots =
            o.restored before { context := none, key := some "inner" }) ∧
      (panicking.after 13).slots = { context := none, key := none } ∧
      (panicking.after 15).slots = { context := some 7, key := none } ∧
      ∃ n, panicking.after n = ⟨{ context := some 7, key := some "after" }, .ended .returned, []⟩ := by
  have hends : panicking.after 12 =
      ⟨{ context := none, key := some "inner" }, .ended .panicked, .scope (.key none) :: aroundKey⟩ :=
    rfl
  obtain ⟨hcomes, hrestores⟩ := scopes_restore { context := some 7 } panickingProgram
  obtain ⟨m, hm, before, p, o, body, hopening, hat, -, -, hleft⟩ := hrestores 12 _ _ _ _ hends
  exact ⟨hends, ⟨m, hm, before, p, o, body, hopening, hat, congrArg slots hleft⟩, rfl, rfl, hcomes⟩

end Execution

end Instrumentation
