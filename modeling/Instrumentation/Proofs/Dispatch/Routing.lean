import Instrumentation.Proofs.Dispatch.Traffic

set_option autoImplicit false

/-!
# Which handler gets an event

After any history of turns, the handler of an event can be read from the history and from the key of the thread
(`recipient?`). Under a name the latest registration counts, for threads without a key the first registration of
a fallback handler. A key that nobody registered stands for nobody; the fallback handler does not stand in.

`handlerAs?_after` and `fallback_after` relate the router to the history, by induction on the history with the
router generalized. The law of routing puts them together with what a submission does.
-/

namespace Instrumentation

namespace Operation

variable {H : Type}

/-- The handler that an operation registers under a name. -/
def registeredAs? (name : String) : Operation H → Option H
  | register n _ handler => if n = name then some handler else none
  | _ => none

/-- The handler that an operation registers for threads without a key. -/
def registeredFallback? : Operation H → Option H
  | registerFallback handler => some handler
  | _ => none

end Operation

section History

variable {H : Type}

/-- The handler of the latest registration under a name. -/
def latestAs? (history : List (Turn H)) (name : String) : Option H :=
  (history.filterMap fun turn => turn.operation.registeredAs? name).getLast?

/-- The handler of the first registration for threads without a key. -/
def firstFallback? (history : List (Turn H)) : Option H :=
  (history.filterMap fun turn => turn.operation.registeredFallback?).head?

/-- The handler that a history determines for a key. -/
def recipient? (history : List (Turn H)) : Option String → Option H
  | none => firstFallback? history
  | some key => if key = "" then firstFallback? history else latestAs? history key

end History

namespace Router

variable {H : Type}

/-- The handler that is registered under a name. -/
def handlerAs? (r : Router H) (name : String) : Option H :=
  (r.handlers.find? name).map Registration.handler

/-- What a key stands for. The empty key counts as none. -/
theorem resolve?_eq (r : Router H) (key : Option String) :
    r.resolve? key = match key with
      | none => r.fallback
      | some key => if key = "" then r.fallback else r.handlerAs? key := by
  cases key with
  | none => rfl
  | some key =>
      by_cases hkey : key = ""
      · subst hkey
        rfl
      · have heffective : effectiveKey (some key) = some key := by
          simp [effectiveKey, Option.filter, hkey]
        rw [resolve?, heffective]
        simp only [hkey, if_false]
        rfl

theorem register_eq_error (r : Router H) (owner : Owner) (handler : H) :
    r.register "" owner handler = .error .emptyHandlerName := by
  rw [register, if_pos rfl]

theorem registerFallback_eq_error {r : Router H} {there : H} (h : r.fallback = some there)
    (handler : H) : r.registerFallback handler = .error .secondDefaultHandler := by
  rw [registerFallback, h]

/-- What is offered goes to the handler that the key stands for, unless the filter refuses it. -/
theorem handlers_of_offer (r : Router H) (index : UnitIndex) (key : Option String) (e : Event)
    (react : H → Event → Reaction) :
    ((r.offer index key e).invocations react).map Invocation.handler =
      if (r.filter.pass e).isSome then (r.resolve? key).toList else [] := by
  unfold offer
  cases r.resolve? key with
  | none => simp [Offer.invocations]
  | some handler =>
      cases r.filter.pass e with
      | none => rfl
      | some e' => rfl

end Router

namespace Traffic

variable {H : Type}

/-! ## One turn -/

/-- A turn changes the handler under a name when it registers another one. -/
theorem handlerAs?_operate (s : Traffic H) (turn : Turn H) {name : String} (hname : name ≠ "") :
    (operate s turn).2.router.handlerAs? name =
      (turn.operation.registeredAs? name).or (s.router.handlerAs? name) := by
  obtain ⟨thread, operation⟩ := turn
  cases operation with
  | register n owner handler =>
      rw [operate, Operation.registeredAs?, Router.register]
      by_cases hn : n = ""
      -- A handler without a name is refused, and its registration is none under any other name.
      · subst hn
        rw [if_pos rfl, if_neg (Ne.symm hname)]
        rfl
      · rw [if_neg hn]
        show ((s.router.handlers.insert n ⟨n, handler, owner⟩).find? name).map
          Registration.handler = _
        rw [Table.find?_insert]
        by_cases heq : name = n
        · rw [if_pos heq, if_pos heq.symm]
          rfl
        · rw [if_neg heq, if_neg (Ne.symm heq)]
          rfl
  | registerFallback handler =>
      obtain ⟨fallback, hsettle⟩ := s.settle_registerFallback handler
      rw [operate, hsettle]
      rfl
  | tune setting =>
      show (s.router.tune setting).handlerAs? name = _
      rw [Router.handlerAs?, (s.router.tune_frame setting).1]
      rfl
  | record unit kind => rfl
  | route action => rfl
  | submit c x =>
      rw [operate_submit]
      rfl

/-- A turn sets the fallback handler if there is none yet. -/
theorem fallback_operate (s : Traffic H) (turn : Turn H) :
    (operate s turn).2.router.fallback =
      s.router.fallback.or turn.operation.registeredFallback? := by
  obtain ⟨thread, operation⟩ := turn
  cases operation with
  | register name owner handler =>
      obtain ⟨handlers, hsettle⟩ := s.settle_register name owner handler
      rw [operate, hsettle]
      exact (Option.or_none ..).symm
  | registerFallback handler =>
      rw [operate, Operation.registeredFallback?, Router.registerFallback]
      cases hthere : s.router.fallback with
      | none => rfl
      | some there => exact hthere
  | tune setting =>
      show (s.router.tune setting).fallback = s.router.fallback.or none
      rw [Option.or_none, (s.router.tune_frame setting).2.1]
  | record unit kind => exact (Option.or_none ..).symm
  | route action => exact (Option.or_none ..).symm
  | submit c x =>
      rw [operate_submit]
      exact (Option.or_none ..).symm

/-! ## Histories -/

/-- The latest registration under a name counts; without one, what was registered before the history. -/
theorem handlerAs?_after (s : Traffic H) (history : List (Turn H)) {name : String}
    (hname : name ≠ "") :
    (operate.after s history).router.handlerAs? name =
      (latestAs? history name).or (s.router.handlerAs? name) := by
  induction history generalizing s with
  | nil => rfl
  | cons turn rest ih =>
      rw [Machine.after_cons, ih, handlerAs?_operate s turn hname, latestAs?, latestAs?,
        List.filterMap_cons]
      cases turn.operation.registeredAs? name with
      | none => rfl
      | some handler =>
          -- Only a registration later than this one takes its place.
          rw [Option.some_or, List.getLast?_cons]
          cases (rest.filterMap fun turn => turn.operation.registeredAs? name).getLast? with
          | none => rfl
          | some later => rfl

/-- What stands as the fallback handler stays; without one, the first registration counts. -/
theorem fallback_after (s : Traffic H) (history : List (Turn H)) :
    (operate.after s history).router.fallback =
      s.router.fallback.or (firstFallback? history) := by
  induction history generalizing s with
  | nil => exact (Option.or_none ..).symm
  | cons turn rest ih =>
      rw [Machine.after_cons, ih, fallback_operate, firstFallback?, firstFallback?,
        List.filterMap_cons, Option.or_assoc]
      cases turn.operation.registeredFallback? with
      | none => rfl
      | some handler => rfl

/-- After a history, a key stands for the handler that the history determines. -/
theorem resolve?_after (index : UnitIndex) (history : List (Turn H)) (key : Option String) :
    (operate.after (initial index) history).router.resolve? key = recipient? history key := by
  have hfallback : (operate.after (initial index) history).router.fallback =
      firstFallback? history := by
    rw [fallback_after]
    exact Option.none_or
  rw [Router.resolve?_eq]
  cases key with
  | none => exact hfallback
  | some key =>
      by_cases hkey : key = ""
      · simp only [recipient?, hkey, if_true]
        exact hfallback
      · simp only [recipient?, hkey, if_false]
        rw [handlerAs?_after _ _ hkey]
        exact Option.or_none

/-- Once a fallback handler was registered, there is one. -/
theorem fallback_of_mem (s : Traffic H) {history : List (Turn H)} {thread : ThreadId} {first : H}
    (h : ⟨thread, .registerFallback first⟩ ∈ history) :
    ∃ there, (operate.after s history).router.fallback = some there := by
  have hmem : first ∈ history.filterMap fun turn => turn.operation.registeredFallback? :=
    List.mem_filterMap.2 ⟨_, h, rfl⟩
  obtain ⟨there, rest, heq⟩ := List.exists_cons_of_ne_nil (List.ne_nil_of_mem hmem)
  rw [fallback_after, firstFallback?, heq, List.head?_cons]
  cases s.router.fallback with
  | none => exact ⟨there, rfl⟩
  | some before => exact ⟨before, rfl⟩

/-- **The law of routing.** After every history of turns of any number of threads:

* an event is offered to one handler at most, which the history determines for the key of the thread;
* once a fallback handler was registered, another one is refused, and so is every handler without a name; what is
  refused changes nothing;
* no turn changes the key of another thread. -/
theorem routing_law (index : UnitIndex) (history : List (Turn H)) :
    let s := operate.after (initial index) history
    (∀ thread c x, ∃ calls,
      (operate s ⟨thread, .submit c x⟩).1 = some (.submitted (.ok ()) calls) ∧
        calls.length ≤ 1 ∧
        calls.map Invocation.handler =
          if (s.router.filter.pass x.event).isSome then
            (recipient? history (s.key thread)).toList
          else []) ∧
      (∀ thread handler earlier first, ⟨earlier, .registerFallback first⟩ ∈ history →
        operate s ⟨thread, .registerFallback handler⟩ =
          (some (.registered (.error .secondDefaultHandler)), s)) ∧
      (∀ thread owner handler,
        operate s ⟨thread, .register "" owner handler⟩ =
          (some (.registered (.error .emptyHandlerName)), s)) ∧
      ∀ turn other, other ≠ turn.thread → (operate s turn).2.key other = s.key other := by
  intro s
  refine ⟨?_, ?_, ?_, ?_⟩
  · intro thread c x
    refine ⟨(s.offer thread x.event).invocations c.react, ?_, ?_, ?_⟩
    · rw [operate_submit]
    · exact Offer.length_invocations_le_one ..
    · rw [← resolve?_after index history]
      exact Router.handlers_of_offer ..
  · intro thread handler earlier first hmem
    obtain ⟨there, hthere⟩ := fallback_of_mem (initial index) hmem
    rw [operate, Router.registerFallback_eq_error hthere]
    rfl
  · intro thread owner handler
    rw [operate, Router.register_eq_error]
    rfl
  · intro turn other hne
    exact congrArg Thread.key (s.operate_threads_of_ne turn hne)

/-- Two threads with one router. The first one is in two nested scopes, one with an unknown and one with an empty
key. -/
def sharedTurns : List (Turn Nat) :=
  [⟨0, .register "acme" none 1⟩, ⟨1, .registerFallback 2⟩, ⟨1, .register "acme" none 3⟩,
    ⟨1, .route (.set "acme")⟩, ⟨0, .route (.enter "nobody")⟩, ⟨0, .route (.enter "")⟩]

/-- Handlers that accept everything. -/
def accepting : Conduct Nat where
  react _ _ := .accepted
  name _ := .ok "accepting"

/-- The first thread's events go to the fallback handler, the second thread's to the later one of two handlers.
A second fallback handler is refused, and what the second thread does to its key leaves the first one alone. -/
theorem routing_law_shared :
    let s := operate.after (initial {}) sharedTurns
    (∀ x, x.event = .cacheCallStarted "com/acme/Cache.get" →
      (∃ calls, (operate s ⟨0, .submit accepting x⟩).1 = some (.submitted (.ok ()) calls) ∧
        calls.map Invocation.handler = [2]) ∧
      ∃ calls, (operate s ⟨1, .submit accepting x⟩).1 = some (.submitted (.ok ()) calls) ∧
        calls.map Invocation.handler = [3]) ∧
      operate s ⟨0, .registerFallback 4⟩ = (some (.registered (.error .secondDefaultHandler)), s) ∧
      (operate s ⟨1, .route .clear⟩).2.key 0 = some "" := by
  intro s
  obtain ⟨hroutes, hsecond, -, hother⟩ := routing_law (H := Nat) {} sharedTurns
  refine ⟨?_, ?_, ?_⟩
  · intro x hx
    obtain ⟨calls₀, hcalls₀, -, hhandlers₀⟩ := hroutes 0 accepting x
    obtain ⟨calls₁, hcalls₁, -, hhandlers₁⟩ := hroutes 1 accepting x
    refine ⟨⟨calls₀, hcalls₀, ?_⟩, ⟨calls₁, hcalls₁, ?_⟩⟩
    · rw [hhandlers₀, hx]
      decide +kernel
    · rw [hhandlers₁, hx]
      decide +kernel
  · exact hsecond 0 4 1 2 (List.mem_cons_of_mem _ List.mem_cons_self)
  · rw [hother ⟨1, .route .clear⟩ 0 (by decide)]
    decide +kernel

end Traffic

end Instrumentation
