import Instrumentation.Ambient.Slots
import Instrumentation.Proofs.Dispatch.Submission
import Instrumentation.Proofs.Machine
import Mathlib.Logic.Function.Basic

set_option autoImplicit false

/-!
# Threads that share a router

Any number of threads use one router: they register handlers, set thresholds and the filter, set the keys that
route their own events, and submit events. Every thread has slots and scopes of its own. What all threads do, in
whatever order, is a list of turns, and `operate` is one turn.

`operate_submit` says all that a submission does to the traffic: one outcome is counted. The view of the thread
that the handlers work on is written back as a whole, so that nothing else changes is a result and not a matter
of definition.
-/

namespace Instrumentation

/-! ## Threads -/

/-- What a thread does to its key. -/
inductive KeyAction where
  | set (key : String)
  | clear
  /-- Enters a scope with a key. -/
  | enter (key : String)
  /-- Leaves one of the open scopes, counted from the newest one. Scopes that are nested are left from there. -/
  | leave (place : Nat)

/-- What a thread has to itself: its slots, and the scopes that it is in, newest first. Nothing here depends on
contexts. -/
structure Thread where
  slots : Slots Unit := .unset
  scopes : List (Scope Unit) := []

namespace Thread

/-- The key that routes the events of the thread. -/
def key (t : Thread) : Option String := t.slots.key

/-- Writes a key back. -/
def withKey (t : Thread) (key : Option String) : Thread := { t with slots := { t.slots with key } }

/-- A thread changes its key. A scope that is not open cannot be left. -/
def act (t : Thread) : KeyAction → Thread
  | .set key => { t with slots := t.slots.setKey key }
  | .clear => { t with slots := t.slots.clearKey }
  | .enter key =>
      { slots := (t.slots.enterKey key).2, scopes := (t.slots.enterKey key).1 :: t.scopes }
  | .leave place =>
      match t.scopes[place]? with
      | none => t
      | some scope => { slots := t.slots.leave scope, scopes := t.scopes.eraseIdx place }

@[simp] theorem withKey_key (t : Thread) : t.withKey t.key = t := rfl

end Thread

/-- Tells threads apart. -/
abbrev ThreadId := Nat

/-! ## Turns -/

/-- What can be set on a router at any time. -/
inductive Setting where
  | queryThresholdMs (threshold : Int64)
  | cacheThresholdMs (threshold : Int64)
  | cacheThresholdNs (threshold : Int64)
  | filter (f : ExceptionFilter)

/-- What a thread does. -/
inductive Operation (H : Type) where
  /-- Registers a handler that gives this name. -/
  | register (name : String) (owner : Owner) (handler : H)
  | registerFallback (handler : H)
  | tune (setting : Setting)
  /-- Notes the kind of a unit in the index. -/
  | record (unit : String) (kind : UnitKind)
  | route (action : KeyAction)
  /-- Submits an event to handlers that conduct themselves so. -/
  | submit (conduct : Conduct H) (x : Submission)

/-- A thread does something. -/
structure Turn (H : Type) where
  thread : ThreadId
  operation : Operation H

/-- What a thread is told when it registers a handler or submits an event. -/
inductive Response (H : Type) where
  | registered (result : Except SetupError Unit)
  /-- How the submission ended, and the calls of handlers that it led to. -/
  | submitted (ended : Except PanicPayload Unit) (calls : List (Invocation H))

variable {H : Type}

/-- Changes a setting of a router. -/
def Router.tune (r : Router H) : Setting → Router H
  | .queryThresholdMs threshold => r.setQueryThresholdMs threshold
  | .cacheThresholdMs threshold => r.setCacheThresholdMs threshold
  | .cacheThresholdNs threshold => r.setCacheThresholdNs threshold
  | .filter f => r.setFilter f

/-- Settings have no part in routing and in counting. -/
theorem Router.tune_frame (r : Router H) (setting : Setting) :
    (r.tune setting).handlers = r.handlers ∧ (r.tune setting).fallback = r.fallback ∧
      (r.tune setting).metrics = r.metrics := by
  -- Each setting is opened first: comparing whole routers would compute thresholds.
  cases setting with
  | queryThresholdMs threshold =>
      rw [tune, setQueryThresholdMs]
      exact ⟨rfl, rfl, rfl⟩
  | cacheThresholdMs threshold =>
      rw [tune, setCacheThresholdMs]
      exact ⟨rfl, rfl, rfl⟩
  | cacheThresholdNs threshold =>
      rw [tune, setCacheThresholdNs]
      exact ⟨rfl, rfl, rfl⟩
  | filter f =>
      rw [tune, setFilter]
      exact ⟨rfl, rfl, rfl⟩

/-- A router, the index that it reads, and the threads that use it. -/
structure Traffic (H : Type) where
  router : Router H
  index : UnitIndex
  threads : ThreadId → Thread

namespace Traffic

/-- A new router. No thread has a key. -/
def initial (index : UnitIndex) : Traffic H := ⟨.initial, index, fun _ => {}⟩

/-- The key of a thread. -/
def key (s : Traffic H) (thread : ThreadId) : Option String := (s.threads thread).key

/-- What a thread works on when it submits an event. -/
def view (s : Traffic H) (thread : ThreadId) : ThreadView H :=
  { router := s.router, index := s.index, key := s.key thread }

/-- Writes back what a thread worked on. -/
def writeBack (s : Traffic H) (thread : ThreadId) (v : ThreadView H) : Traffic H :=
  { router := v.router
    index := v.index
    threads := Function.update s.threads thread ((s.threads thread).withKey v.key) }

/-- A registration that is refused changes nothing. -/
def settle (s : Traffic H) : Except SetupError (Router H) → Option (Response H) × Traffic H
  | .ok router => (some (.registered (.ok ())), { s with router })
  | .error e => (some (.registered (.error e)), s)

/-- A thread takes a turn. -/
def operate : Machine (Traffic H) (Turn H) (Response H)
  | s, ⟨_, .register name owner handler⟩ => s.settle (s.router.register name owner handler)
  | s, ⟨_, .registerFallback handler⟩ => s.settle (s.router.registerFallback handler)
  | s, ⟨_, .tune setting⟩ => (none, { s with router := s.router.tune setting })
  | s, ⟨_, .record unit kind⟩ => (none, { s with index := s.index.record unit kind })
  | s, ⟨thread, .route action⟩ =>
      (none, { s with threads := Function.update s.threads thread ((s.threads thread).act action) })
  | s, ⟨thread, .submit conduct x⟩ =>
      let ended := (conduct.callbacks.submit x).run.run (s.view thread)
      (some (.submitted ended.1 ended.2.invocations), s.writeBack thread ended.2)

/-- What an event of a thread is offered to. -/
def offer (s : Traffic H) (thread : ThreadId) (e : Event) : Offer H :=
  s.router.offer s.index (s.key thread) e

/-- After an outcome is counted. -/
def conclude (s : Traffic H) (kind : EventKind) (outcome : Outcome) : Traffic H :=
  { s with router := s.router.conclude kind outcome }

/-- An offer leaves the index and the key of the thread as they are. -/
theorem writeBack_afterOffer (s : Traffic H) (thread : ThreadId)
    (react : H → Event → Reaction) (kind : EventKind) (o : Offer H) :
    s.writeBack thread ((s.view thread).afterOffer react kind o) =
      s.conclude kind (o.outcome react) := by
  have hthreads : Function.update s.threads thread ((s.threads thread).withKey (s.key thread)) =
      s.threads := by
    rw [key, Thread.withKey_key, Function.update_eq_self]
  show (⟨s.router.conclude kind (o.outcome react), s.index,
    Function.update s.threads thread ((s.threads thread).withKey (s.key thread))⟩ : Traffic H) = _
  rw [hthreads]
  rfl

/-- **A submission returns, and all that it does to the traffic is that one outcome is counted.** -/
theorem operate_submit (s : Traffic H) (thread : ThreadId) (c : Conduct H) (x : Submission) :
    operate s ⟨thread, .submit c x⟩ =
      (some (.submitted (.ok ()) ((s.offer thread x.event).invocations c.react)),
        s.conclude x.kind ((s.offer thread x.event).outcome c.react)) := by
  have hrun : (c.callbacks.submit x).run.run (s.view thread) =
      (.ok (), (s.view thread).afterOffer c.react x.kind (s.offer thread x.event)) :=
    c.submit_run (s.view thread) x
  rw [operate, hrun, writeBack_afterOffer]
  rfl

/-- Registering a handler can change the handlers, and nothing else. -/
theorem settle_register (s : Traffic H) (name : String) (owner : Owner) (handler : H) :
    ∃ handlers, (s.settle (s.router.register name owner handler)).2 =
      { s with router := { s.router with handlers } } := by
  unfold Router.register
  split
  · exact ⟨s.router.handlers, rfl⟩
  · exact ⟨s.router.handlers.insert name ⟨name, handler, owner⟩, rfl⟩

/-- Registering a fallback handler can change the fallback handler, and nothing else. -/
theorem settle_registerFallback (s : Traffic H) (handler : H) :
    ∃ fallback, (s.settle (s.router.registerFallback handler)).2 =
      { s with router := { s.router with fallback } } := by
  unfold Router.registerFallback
  split
  · exact ⟨s.router.fallback, rfl⟩
  · exact ⟨some handler, rfl⟩

/-- What a thread does changes no other thread. -/
theorem operate_threads_of_ne (s : Traffic H) (turn : Turn H) {other : ThreadId}
    (h : other ≠ turn.thread) : (operate s turn).2.threads other = s.threads other := by
  obtain ⟨thread, operation⟩ := turn
  cases operation with
  | register name owner handler =>
      obtain ⟨handlers, hsettle⟩ := s.settle_register name owner handler
      rw [operate, hsettle]
  | registerFallback handler =>
      obtain ⟨fallback, hsettle⟩ := s.settle_registerFallback handler
      rw [operate, hsettle]
  | tune setting => rfl
  | record unit kind => rfl
  | route action => exact Function.update_of_ne h _ _
  | submit conduct x =>
      rw [operate_submit]
      rfl

end Traffic

end Instrumentation
