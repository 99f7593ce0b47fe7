import Instrumentation.Proofs.Dispatch.Traffic

set_option autoImplicit false

/-!
# Isolation of handlers and conservation of outcomes

Whatever a handler does with an event, its submission returns to the code that raised the event, and one outcome
of the event's own kind is counted. `Isolated` lists all that a submission does, and `isolated_submit` says so for
every state of the traffic and every conduct of the handlers.

Since every submission counts once and nothing else counts at all, the counts of a kind sum to the number of
events of that kind (`sum_after`), as long as no count can wrap around.
-/

namespace Instrumentation

namespace EventCounts

/-- The count of an outcome. -/
def of (c : EventCounts) : Outcome → UInt64
  | .delivered => c.delivered
  | .unrouted => c.unrouted
  | .filtered => c.filtered
  | .failed => c.failed

/-- The sum of the four counts, as a number that does not wrap around. -/
def sum (c : EventCounts) : Nat :=
  c.delivered.toNat + c.unrouted.toNat + c.filtered.toNat + c.failed.toNat

theorem of_record (c : EventCounts) (o o' : Outcome) :
    (c.record o).of o' = if o' = o then c.of o' + 1 else c.of o' := by
  cases o <;> cases o' <;> rfl

/-- A count that is below the limit of the sum does not wrap around when it grows. -/
theorem toNat_add_one {n : UInt64} {m : Nat} (hle : n.toNat ≤ m) (hm : m + 1 < UInt64.size) :
    (n + 1).toNat = n.toNat + 1 := by
  rw [UInt64.toNat_add]
  have hsmall : n.toNat + 1 < 2 ^ 64 := by
    rw [UInt64.size] at hm
    omega
  exact Nat.mod_eq_of_lt hsmall

theorem sum_record {c : EventCounts} (o : Outcome) (h : c.sum + 1 < UInt64.size) :
    (c.record o).sum = c.sum + 1 := by
  simp only [sum] at h ⊢
  cases o with
  | delivered =>
      have hgrown := toNat_add_one (n := c.delivered) (by omega) h
      simp only [record, hgrown]
      omega
  | unrouted =>
      have hgrown := toNat_add_one (n := c.unrouted) (by omega) h
      simp only [record, hgrown]
      omega
  | filtered =>
      have hgrown := toNat_add_one (n := c.filtered) (by omega) h
      simp only [record, hgrown]
      omega
  | failed =>
      have hgrown := toNat_add_one (n := c.failed) (by omega) h
      simp only [record, hgrown]
      omega

end EventCounts

/-- The kind of the event that an operation submits. -/
def Operation.submittedKind? {H : Type} : Operation H → Option EventKind
  | .submit _ x => some x.event.kind
  | _ => none

namespace Turn

variable {H : Type}

/-- The turn submits an event. -/
def submits (t : Turn H) : Bool := t.operation.submittedKind?.isSome

/-- The turn submits an event of a kind. -/
def submitsKind (kind : EventKind) (t : Turn H) : Bool := t.operation.submittedKind? == some kind

theorem submits_of_submitsKind {kind : EventKind} {t : Turn H} (h : t.submitsKind kind = true) :
    t.submits = true := by
  rw [submits, beq_iff_eq.1 h]
  rfl

/-- A turn that submits an event is a submission. -/
theorem of_submits {t : Turn H} (h : t.submits = true) :
    ∃ thread c x, t = ⟨thread, .submit c x⟩ := by
  obtain ⟨thread, operation⟩ := t
  cases operation with
  | submit c x => exact ⟨thread, c, x, rfl⟩
  | _ => cases h

end Turn

namespace Traffic

variable {H : Type}

/-- The counts of a kind. -/
def counts (s : Traffic H) (kind : EventKind) : EventCounts := s.router.metrics.counts kind

/-! ## One submission -/

/-- All that a submission does: to the code that raised the event, to the counts, to the handlers, and to
everything else. -/
structure Isolated (s : Traffic H) (thread : ThreadId) (c : Conduct H) (x : Submission)
    (outcome : Outcome) (calls : List (Invocation H)) (response : Option (Response H))
    (s' : Traffic H) : Prop where
  returns : response = some (.submitted (.ok ()) calls)
  counted : (s'.counts x.event.kind).of outcome = (s.counts x.event.kind).of outcome + 1
  not_counted : ∀ kind o, ¬(kind = x.event.kind ∧ o = outcome) →
    (s'.counts kind).of o = (s.counts kind).of o
  /-- The handlers that were called are the one that the key of the thread stands for. -/
  resolved : ∀ i ∈ calls, s.router.resolve? (s.key thread) = some i.handler
  reacted : ∀ i ∈ calls, i.reaction = c.react i.handler i.event
  delivered_iff : outcome = .delivered ↔ ∃ i, calls = [i] ∧ i.reaction = .accepted
  failed_iff : outcome = .failed ↔ ∃ i, calls = [i] ∧ i.reaction ≠ .accepted
  uncalled_iff : outcome = .unrouted ∨ outcome = .filtered ↔ calls = []
  handlers : s'.router.handlers = s.router.handlers
  fallback : s'.router.fallback = s.router.fallback
  queryThresholdMs : s'.router.queryThresholdMs = s.router.queryThresholdMs
  cacheThresholdNs : s'.router.cacheThresholdNs = s.router.cacheThresholdNs
  filter : s'.router.filter = s.router.filter
  index : s'.index = s.index
  threads : s'.threads = s.threads

/-- Counting an outcome touches one count of one kind. -/
theorem of_counts_conclude (s : Traffic H) (kind k : EventKind) (outcome o : Outcome) :
    ((s.conclude kind outcome).counts k).of o =
      if k = kind ∧ o = outcome then (s.counts k).of o + 1 else (s.counts k).of o := by
  show ((s.router.metrics.record kind outcome).counts k).of o = _
  rw [DispatchMetrics.counts_record]
  by_cases hk : k = kind
  · subst hk
    rw [if_pos rfl, EventCounts.of_record]
    simp only [true_and]
    rfl
  · rw [if_neg hk, if_neg fun h => hk h.1]
    rfl

/-- An event is offered to the handler that the key stands for. -/
theorem resolve?_of_offer {r : Router H} {index : UnitIndex} {key : Option String} {e e' : Event}
    {handler : H} (h : r.offer index key e = .deliver handler e') :
    r.resolve? key = some handler := by
  unfold Router.offer at h
  cases hr : r.resolve? key with
  | none =>
      rw [hr] at h
      cases h
  | some resolved =>
      rw [hr] at h
      dsimp only at h
      split at h
      · cases h
      · cases h
        rfl

/-- What is true of the handler and the form of an offer is true of every call that the offer leads to. -/
theorem forall_mem_invocations {react : H → Event → Reaction} {o : Offer H}
    {P : Invocation H → Prop}
    (h : ∀ handler e, o = .deliver handler e → P ⟨handler, e, react handler e⟩) :
    ∀ i ∈ o.invocations react, P i := by
  intro i hi
  cases o with
  | unrouted => simp [Offer.invocations] at hi
  | filtered => simp [Offer.invocations] at hi
  | deliver handler e =>
      rw [Offer.invocations, List.mem_singleton] at hi
      subst hi
      exact h handler e rfl

theorem isolated_submit (s : Traffic H) (thread : ThreadId) (c : Conduct H) (x : Submission) :
    ∃ outcome calls, s.Isolated thread c x outcome calls
      (operate s ⟨thread, .submit c x⟩).1 (operate s ⟨thread, .submit c x⟩).2 := by
  refine ⟨(s.offer thread x.event).outcome c.react, (s.offer thread x.event).invocations c.react, ?_⟩
  rw [operate_submit]
  exact
    { returns := rfl
      counted := by rw [of_counts_conclude, if_pos ⟨x.kind_event, rfl⟩]
      not_counted := fun kind o h => by
        rw [of_counts_conclude, if_neg fun hk => h ⟨hk.1.trans x.kind_event.symm, hk.2⟩]
      resolved := forall_mem_invocations fun _ _ ho => resolve?_of_offer ho
      reacted := forall_mem_invocations fun _ _ _ => rfl
      delivered_iff := Offer.outcome_eq_delivered_iff
      failed_iff := Offer.outcome_eq_failed_iff
      uncalled_iff := Offer.outcome_uncalled_iff
      handlers := rfl
      fallback := rfl
      queryThresholdMs := rfl
      cacheThresholdNs := rfl
      filter := rfl
      index := rfl
      threads := rfl }

/-! ## Runs -/

/-- What submits nothing counts nothing. -/
theorem metrics_operate_of_not_submits (s : Traffic H) {turn : Turn H}
    (h : turn.submits = false) : (operate s turn).2.router.metrics = s.router.metrics := by
  obtain ⟨thread, operation⟩ := turn
  cases operation with
  | register name owner handler =>
      obtain ⟨handlers, hsettle⟩ := s.settle_register name owner handler
      rw [operate, hsettle]
  | registerFallback handler =>
      obtain ⟨fallback, hsettle⟩ := s.settle_registerFallback handler
      rw [operate, hsettle]
  | tune setting => exact (s.router.tune_frame setting).2.2
  | record unit kind => rfl
  | route action => rfl
  | submit c x => cases h

/-- A turn adds one to the sum of a kind if it submits an event of that kind. -/
theorem sum_operate (s : Traffic H) (turn : Turn H) (kind : EventKind)
    (h : (s.counts kind).sum + (if turn.submitsKind kind then 1 else 0) < UInt64.size) :
    ((operate s turn).2.counts kind).sum =
      (s.counts kind).sum + if turn.submitsKind kind then 1 else 0 := by
  cases hsubmits : turn.submits with
  | false =>
      have hkind : turn.submitsKind kind = false := by
        rw [← Bool.not_eq_true]
        intro hkind
        rw [Turn.submits_of_submitsKind hkind] at hsubmits
        cases hsubmits
      rw [counts, metrics_operate_of_not_submits s hsubmits, hkind]
      rfl
  | true =>
      obtain ⟨thread, c, x, rfl⟩ := Turn.of_submits hsubmits
      have hcounts : (operate s ⟨thread, .submit c x⟩).2.counts kind =
          if kind = x.kind then
            (s.counts x.kind).record ((s.offer thread x.event).outcome c.react)
          else s.counts kind := by
        rw [operate_submit]
        exact DispatchMetrics.counts_record ..
      -- The kind that is counted is the kind under which the event was submitted, which is its own one.
      rw [hcounts]
      rw [Turn.submitsKind, Operation.submittedKind?, x.kind_event] at h ⊢
      by_cases hkind : kind = x.kind
      · subst hkind
        rw [beq_self_eq_true, if_pos rfl] at h ⊢
        exact EventCounts.sum_record _ h
      · have hne : (some x.kind == some kind) = false := by
          rw [beq_eq_false_iff_ne]
          exact fun he => hkind (Option.some.inj he).symm
        rw [if_neg hkind, hne]
        rfl

/-- A run adds to the sum of a kind the number of events of that kind. -/
theorem sum_after (s : Traffic H) (turns : List (Turn H)) (kind : EventKind)
    (h : (s.counts kind).sum + turns.countP (Turn.submitsKind kind) < UInt64.size) :
    ((operate.after s turns).counts kind).sum =
      (s.counts kind).sum + turns.countP (Turn.submitsKind kind) := by
  induction turns generalizing s with
  | nil => rfl
  | cons turn rest ih =>
      rw [List.countP_cons] at h ⊢
      have hstep := s.sum_operate turn kind (by omega)
      rw [Machine.after_cons, ih _ (by omega), hstep]
      omega

/-- **Handlers are isolated and outcomes are conserved.** In every state of the traffic a submission returns and
counts one outcome, whatever the handlers do; and in every run of a new router, short enough for its counts, the
counts of a kind sum to the number of events of that kind. -/
theorem isolated_and_conserved :
    (∀ (s : Traffic H) (thread : ThreadId) (c : Conduct H) (x : Submission),
      ∃ outcome calls, s.Isolated thread c x outcome calls
        (operate s ⟨thread, .submit c x⟩).1 (operate s ⟨thread, .submit c x⟩).2) ∧
      ∀ (index : UnitIndex) (turns : List (Turn H)), turns.countP Turn.submits < UInt64.size →
        ∀ kind, ((operate.after (initial index) turns).counts kind).sum =
          turns.countP (Turn.submitsKind kind) := by
  refine ⟨isolated_submit, ?_⟩
  intro index turns hturns kind
  have hzero : ((initial index : Traffic H).counts kind).sum = 0 := by
    cases kind <;> rfl
  have hle : turns.countP (Turn.submitsKind kind) ≤ turns.countP Turn.submits :=
    List.countP_mono_left fun _ _ h => Turn.submits_of_submitsKind h
  rw [sum_after _ turns kind (by omega), hzero, Nat.zero_add]

/-- Handlers that panic on every event, and again when they are asked for their names. -/
def panicking : Conduct Nat where
  react _ _ := .panicked .other
  name _ := .error (.text "name")

/-- One thread sends an event to such a handler, another one has no handler. -/
def hostileTurns : List (Turn Nat) :=
  [⟨0, .register "acme" none 7⟩, ⟨0, .route (.enter "acme")⟩,
    ⟨0, .submit panicking (.entry (.cacheCallStarted "com/acme/Cache.get"))⟩,
    ⟨1, .submit panicking (.whole (.cacheCallStarted "com/acme/Cache.get"))⟩]

/-- Both events are counted, the one as failed and the other one as unrouted. -/
theorem isolated_and_conserved_hostile :
    hostileTurns.countP Turn.submits < UInt64.size ∧
      ((operate.after (initial {}) hostileTurns).counts .cacheCallStarted).sum = 2 ∧
      (operate.after (initial {}) hostileTurns).counts .cacheCallStarted =
        { failed := 1, unrouted := 1 } := by
  have hfew : hostileTurns.countP Turn.submits < UInt64.size := by decide
  refine ⟨hfew, ?_, by decide +kernel⟩
  rw [isolated_and_conserved.2 {} hostileTurns hfew .cacheCallStarted]
  decide

end Traffic

end Instrumentation
