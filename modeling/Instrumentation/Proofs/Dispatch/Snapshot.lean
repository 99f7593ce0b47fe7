import Instrumentation.Proofs.Dispatch.Isolation
import Mathlib.Algebra.BigOperators.Group.List.Basic
import Mathlib.Algebra.Ring.Nat
import Mathlib.Data.List.DropRight

set_option autoImplicit false

/-!
# Snapshots of the counts of a router

Outcomes are counted kind by kind, and from time to time all counts are reset. A snapshot tells for every kind that was
seen since the last reset how often each outcome was (`DispatchSnapshot.Accounts`), and the sums over all kinds.

The counts of a history are the counts of what was recorded since its last reset (`after_history`), and each of them is
the number of records of one kind and one outcome (`of_counts_recordAll`). The main statement `snapshot_accounts` adds
that no sum that a snapshot takes leaves 64 bits: `snapshot?` takes the same sums and gives up where one would.
-/

namespace Instrumentation

/-- An outcome of an event of a kind. -/
abbrev OutcomeRecord := EventKind × Outcome

/-- What is done to the counts of a router. -/
inductive Counting where
  | record (kind : EventKind) (outcome : Outcome)
  | reset
deriving DecidableEq

/-- What is recorded, if anything is. -/
def Counting.recorded? : Counting → Option OutcomeRecord
  | record kind outcome => some (kind, outcome)
  | reset => none

/-- What a history has recorded since its last reset. -/
def sinceReset (history : List Counting) : List OutcomeRecord :=
  (history.rtakeWhile fun a => a ≠ .reset).filterMap Counting.recorded?

/-! ## Sums within 64 bits -/

/-- The sum of two numbers of 64 bits, if it has no more than 64 bits itself. -/
def boundedSum? (a b : UInt64) : Option UInt64 :=
  if a.toNat + b.toNat < UInt64.size then some (a + b) else none

theorem boundedSum?_of_lt {a b : UInt64} (h : a.toNat + b.toNat < UInt64.size) :
    boundedSum? a b = some (a + b) := if_pos h

theorem toNat_add_of_lt {a b : UInt64} (h : a.toNat + b.toNat < UInt64.size) :
    (a + b).toNat = a.toNat + b.toNat := by
  rw [UInt64.toNat_add]
  exact Nat.mod_eq_of_lt h

namespace EventCounts

/-- The number of events, if it has no more than 64 bits at any point of the addition. -/
def total? (c : EventCounts) : Option UInt64 := do
  let n ← boundedSum? c.delivered c.unrouted
  let n ← boundedSum? n c.filtered
  boundedSum? n c.failed

/-- The sum of two counts, if each of its numbers has no more than 64 bits. -/
def add? (a b : EventCounts) : Option EventCounts := do
  let delivered ← boundedSum? a.delivered b.delivered
  let unrouted ← boundedSum? a.unrouted b.unrouted
  let filtered ← boundedSum? a.filtered b.filtered
  let failed ← boundedSum? a.failed b.failed
  some { delivered, unrouted, filtered, failed }

theorem total?_of_lt {c : EventCounts} (h : c.sum < UInt64.size) :
    c.total? = some c.total ∧ c.total.toNat = c.sum := by
  unfold sum at h
  have htwo := toNat_add_of_lt (a := c.delivered) (b := c.unrouted) (by omega)
  have hthree := toNat_add_of_lt (a := c.delivered + c.unrouted) (b := c.filtered) (by omega)
  have hfour := toNat_add_of_lt (a := c.delivered + c.unrouted + c.filtered) (b := c.failed)
    (by omega)
  constructor
  · rw [total?, boundedSum?_of_lt (by omega)]
    simp only [Option.bind_eq_bind, Option.bind_some]
    rw [boundedSum?_of_lt (by omega), Option.bind_some, boundedSum?_of_lt (by omega)]
    rfl
  · rw [total, sum]
    omega

theorem add?_of_lt {a b : EventCounts}
    (h : ∀ o, (a.of o).toNat + (b.of o).toNat < UInt64.size) : a.add? b = some (a.add b) := by
  have hdelivered := boundedSum?_of_lt (h .delivered)
  have hunrouted := boundedSum?_of_lt (h .unrouted)
  have hfiltered := boundedSum?_of_lt (h .filtered)
  have hfailed := boundedSum?_of_lt (h .failed)
  simp only [of] at hdelivered hunrouted hfiltered hfailed
  rw [add?, hdelivered, hunrouted, hfiltered, hfailed]
  rfl

theorem of_add (a b : EventCounts) (o : Outcome) : (a.add b).of o = a.of o + b.of o := by
  cases o <;> rfl

theorem toNat_of_empty (o : Outcome) : (({} : EventCounts).of o).toNat = 0 := by
  cases o <;> rfl

/-- Where nothing was counted, no outcome was. -/
theorem toNat_of_eq_zero {c : EventCounts} (h : c.sum = 0) (o : Outcome) : (c.of o).toNat = 0 := by
  unfold sum at h
  cases o <;> simp only [of] <;> omega

end EventCounts

namespace DispatchMetrics

/-! ## Histories -/

/-- Does something to the counts. -/
def perform (m : DispatchMetrics) : Counting → DispatchMetrics
  | .record kind outcome => m.record kind outcome
  | .reset => zero

/-- The counts after a history. -/
def after (history : List Counting) : DispatchMetrics := history.foldl perform zero

/-- Counts one record after the other. -/
def recordAll (m : DispatchMetrics) (records : List OutcomeRecord) : DispatchMetrics :=
  records.foldl (fun m r => m.record r.1 r.2) m

/-- What was before the last reset does not matter. -/
theorem after_history (history : List Counting) :
    after history = zero.recordAll (sinceReset history) := by
  induction history using List.reverseRecOn with
  | nil => rfl
  | append_singleton front a ih =>
      rw [after, List.foldl_concat, ← after, sinceReset, List.rtakeWhile_concat]
      cases a with
      | reset => rfl
      | record kind outcome =>
          rw [if_pos (by simp), List.filterMap_append, recordAll, List.foldl_append, ← sinceReset,
            ih]
          rfl

/-- Each count grows with the records of its kind and its outcome. -/
theorem of_counts_recordAll (m : DispatchMetrics) (records : List OutcomeRecord) (kind : EventKind)
    (outcome : Outcome) :
    (((m.recordAll records).counts kind).of outcome) =
      (m.counts kind).of outcome + UInt64.ofNat (records.count (kind, outcome)) := by
  induction records generalizing m with
  | nil => simp [recordAll]
  | cons r rest ih =>
      obtain ⟨k, o⟩ := r
      rw [recordAll, List.foldl_cons, ← recordAll, ih, counts_record, List.count_cons]
      by_cases hkind : kind = k
      · subst hkind
        rw [if_pos rfl, EventCounts.of_record]
        by_cases houtcome : outcome = o
        · subst houtcome
          rw [if_pos rfl, if_pos (beq_self_eq_true _), UInt64.ofNat_add, UInt64.add_assoc,
            UInt64.add_comm 1]
          rfl
        · rw [if_neg houtcome, if_neg (by simpa using Ne.symm houtcome), Nat.add_zero]
      · rw [if_neg hkind, if_neg (by simpa using fun h : k = kind => absurd h.symm hkind), Nat.add_zero]

/-! ## Snapshots -/

/-- The kinds of a list that were seen, with their counts. -/
def seen (m : DispatchMetrics) (kinds : List EventKind) : List (EventKind × EventCounts) :=
  (kinds.map fun k => (k, m.counts k)).filter fun e => e.2.total != 0

/-- Adds a kind to a snapshot if it was seen, unless one of the sums leaves 64 bits. -/
def addKind? (m : DispatchMetrics) (s : DispatchSnapshot) (kind : EventKind) :
    Option DispatchSnapshot := do
  let n ← (m.counts kind).total?
  if n = 0 then some s
  else do
    let totals ← s.totals.add? (m.counts kind)
    some { byKind := s.byKind ++ [(kind, m.counts kind)], totals }

/-- The snapshot, unless one of the sums on the way leaves 64 bits. -/
def snapshot? (m : DispatchMetrics) : Option DispatchSnapshot :=
  EventKind.all.foldlM m.addKind? { byKind := [], totals := {} }

variable (m : DispatchMetrics)

theorem seen_cons (kind : EventKind) (rest : List EventKind) :
    m.seen (kind :: rest) =
      if (m.counts kind).total = 0 then m.seen rest else (kind, m.counts kind) :: m.seen rest := by
  rw [seen, List.map_cons, List.filter_cons, ← seen]
  by_cases h : (m.counts kind).total = 0 <;> simp [h]

theorem snapshot_eq :
    m.snapshot = ⟨m.seen EventKind.all,
      (m.seen EventKind.all).foldl (fun acc e => acc.add e.2) {}⟩ := rfl

/-- As long as the sums stay within 64 bits, they are all taken, and each of them is exact. -/
theorem foldlM_addKind? (kinds : List EventKind) (s : DispatchSnapshot)
    (hkinds : ∀ k, (m.counts k).sum < UInt64.size)
    (hsums : ∀ o, (s.totals.of o).toNat +
      ((m.seen kinds).map fun e => (e.2.of o).toNat).sum < UInt64.size) :
    kinds.foldlM m.addKind? s = some
        ⟨s.byKind ++ m.seen kinds, (m.seen kinds).foldl (fun acc e => acc.add e.2) s.totals⟩ ∧
      ∀ o, (((m.seen kinds).foldl (fun acc e => acc.add e.2) s.totals).of o).toNat =
        (s.totals.of o).toNat + ((m.seen kinds).map fun e => (e.2.of o).toNat).sum := by
  induction kinds generalizing s with
  | nil => exact ⟨by rw [seen, List.map_nil, List.filter_nil, List.append_nil]; rfl, fun o => rfl⟩
  | cons k rest ih =>
      obtain ⟨htotal, -⟩ := EventCounts.total?_of_lt (hkinds k)
      rw [List.foldlM_cons, addKind?, htotal]
      rw [seen_cons] at hsums ⊢
      by_cases hzero : (m.counts k).total = 0
      · rw [if_pos hzero] at hsums ⊢
        simp only [Option.bind_eq_bind, Option.bind_some, if_pos hzero]
        exact ih s hsums
      · rw [if_neg hzero] at hsums ⊢
        simp only [List.map_cons, List.sum_cons] at hsums ⊢
        have hfirst : ∀ o, (s.totals.of o).toNat + ((m.counts k).of o).toNat < UInt64.size :=
          fun o => by
            have := hsums o
            omega
        have hadded : ∀ o, ((s.totals.add (m.counts k)).of o).toNat =
            (s.totals.of o).toNat + ((m.counts k).of o).toNat := fun o => by
          rw [EventCounts.of_add, toNat_add_of_lt (hfirst o)]
        obtain ⟨hfold, hlater⟩ := ih ⟨s.byKind ++ [(k, m.counts k)], s.totals.add (m.counts k)⟩
          fun o => by
            have := hsums o
            simp only [hadded]
            omega
        refine ⟨?_, fun o => ?_⟩
        · simp only [Option.bind_eq_bind, Option.bind_some, if_neg hzero,
            EventCounts.add?_of_lt hfirst]
          rw [hfold, List.append_assoc, List.singleton_append, List.foldl_cons]
        · rw [List.foldl_cons, hlater, hadded, Nat.add_assoc]

end DispatchMetrics

/-! ## Records by kind and by outcome -/

/-- Every record has one outcome. -/
theorem sum_count_outcomes (records : List OutcomeRecord) (kind : EventKind) :
    records.count (kind, .delivered) + records.count (kind, .unrouted) +
        records.count (kind, .filtered) + records.count (kind, .failed) =
      records.countP fun r => r.1 == kind := by
  induction records with
  | nil => rfl
  | cons r rest ih =>
      obtain ⟨k, o⟩ := r
      simp only [List.count_cons, List.countP_cons]
      rw [← ih]
      by_cases hk : k = kind
      · cases o <;> simp [hk] <;> omega
      · simp [hk]

/-- Every record has one kind. -/
theorem sum_countP_kinds (records : List OutcomeRecord) :
    (EventKind.all.map fun k => records.countP fun r => r.1 == k).sum = records.length := by
  induction records with
  | nil => rfl
  | cons r rest ih =>
      have hone : (EventKind.all.map fun k => if (r.1 == k) = true then 1 else 0).sum = 1 := by
        cases r.1 <;> rfl
      simp only [List.countP_cons, List.sum_map_add]
      rw [ih, hone, List.length_cons]

namespace DispatchMetrics

variable {records : List OutcomeRecord}

/-- As long as there are not too many records, each count is the number of its records. -/
theorem toNat_of_counts (h : records.length < UInt64.size) (kind : EventKind) (outcome : Outcome) :
    (((zero.recordAll records).counts kind).of outcome).toNat = records.count (kind, outcome) := by
  have hzero : (zero.counts kind).of outcome = 0 := by
    cases kind <;> cases outcome <;> rfl
  have hle : records.count (kind, outcome) ≤ records.length := List.count_le_length
  rw [of_counts_recordAll, hzero, UInt64.zero_add]
  exact UInt64.toNat_ofNat_of_lt' (Nat.lt_of_le_of_lt hle h)

theorem sum_counts (h : records.length < UInt64.size) (kind : EventKind) :
    ((zero.recordAll records).counts kind).sum = records.countP fun r => r.1 == kind := by
  have hof := toNat_of_counts h kind
  rw [← sum_count_outcomes, ← hof .delivered, ← hof .unrouted, ← hof .filtered, ← hof .failed]
  rfl

/-- The kinds that were not seen add nothing to the sum of an outcome. -/
theorem sum_seen (m : DispatchMetrics) (hkinds : ∀ k, (m.counts k).sum < UInt64.size)
    (kinds : List EventKind) (outcome : Outcome) :
    ((m.seen kinds).map fun e => (e.2.of outcome).toNat).sum =
      (kinds.map fun k => ((m.counts k).of outcome).toNat).sum := by
  induction kinds with
  | nil => rfl
  | cons k rest ih =>
      rw [seen_cons, List.map_cons, List.sum_cons, ← ih]
      by_cases hzero : (m.counts k).total = 0
      · obtain ⟨-, htotal⟩ := EventCounts.total?_of_lt (hkinds k)
        rw [hzero] at htotal
        rw [if_pos hzero, EventCounts.toNat_of_eq_zero htotal.symm, Nat.zero_add]
      · rw [if_neg hzero, List.map_cons, List.sum_cons]

end DispatchMetrics

/-- What a snapshot has to tell about the records since the last reset. -/
structure DispatchSnapshot.Accounts (records : List OutcomeRecord) (s : DispatchSnapshot) : Prop where
  /-- There is an entry for a kind if and only if something was recorded of it. -/
  kinds : ∀ kind, kind ∈ s.byKind.map Prod.fst ↔ ∃ outcome, (kind, outcome) ∈ records
  /-- No two entries have the same text, so that none of them takes the place of another one. -/
  texts : (s.byKind.map fun e => e.1.text).Nodup
  exact : ∀ e ∈ s.byKind, ∀ outcome, (e.2.of outcome).toNat = records.count (e.1, outcome)
  totals : ∀ outcome, (s.totals.of outcome).toNat = (s.byKind.map fun e => (e.2.of outcome).toNat).sum
  total : s.totals.total? = some s.totals.total
  length : s.totals.total.toNat = records.length

namespace DispatchMetrics

variable {records : List OutcomeRecord}

theorem mem_seen_iff {m : DispatchMetrics} {kinds : List EventKind} {e : EventKind × EventCounts} :
    e ∈ m.seen kinds ↔ e.1 ∈ kinds ∧ e.2 = m.counts e.1 ∧ e.2.total ≠ 0 := by
  obtain ⟨k, c⟩ := e
  simp only [seen, List.mem_filter, List.mem_map, Prod.mk.injEq, bne_iff_ne]
  constructor
  · rintro ⟨⟨k', hk', rfl, rfl⟩, hc⟩
    exact ⟨hk', rfl, hc⟩
  · rintro ⟨hk, rfl, hc⟩
    exact ⟨⟨k, hk, rfl, rfl⟩, hc⟩

/-- A kind is seen if something was recorded of it. -/
theorem total_counts_ne_zero_iff (h : records.length < UInt64.size) (kind : EventKind) :
    ((zero.recordAll records).counts kind).total ≠ 0 ↔ ∃ outcome, (kind, outcome) ∈ records := by
  have hle : (records.countP fun r => r.1 == kind) ≤ records.length := List.countP_le_length
  have hsum := sum_counts h kind
  obtain ⟨-, htotal⟩ := EventCounts.total?_of_lt (c := (zero.recordAll records).counts kind)
    (by omega)
  rw [ne_eq, ← UInt64.toNat_inj, htotal, hsum, UInt64.toNat_zero, ← ne_eq, ← Nat.pos_iff_ne_zero,
    List.countP_pos_iff]
  constructor
  · rintro ⟨⟨k, o⟩, hr, hk⟩
    obtain rfl : k = kind := by simpa using hk
    exact ⟨o, hr⟩
  · rintro ⟨o, hr⟩
    exact ⟨(kind, o), hr, beq_self_eq_true kind⟩

/-- All records of one outcome. -/
theorem sum_seen_recordAll (h : records.length < UInt64.size) (outcome : Outcome) :
    (((zero.recordAll records).seen EventKind.all).map fun e => (e.2.of outcome).toNat).sum =
      (EventKind.all.map fun k => records.count (k, outcome)).sum := by
  rw [sum_seen _ fun k => by
    rw [sum_counts h]
    exact Nat.lt_of_le_of_lt List.countP_le_length h]
  simp only [toNat_of_counts h]

/-- The records of all kinds and all outcomes are all records. -/
theorem sum_outcomes (records : List OutcomeRecord) :
    (EventKind.all.map fun k => records.count (k, .delivered)).sum +
        (EventKind.all.map fun k => records.count (k, .unrouted)).sum +
        (EventKind.all.map fun k => records.count (k, .filtered)).sum +
        (EventKind.all.map fun k => records.count (k, .failed)).sum = records.length := by
  rw [← List.sum_map_add, ← List.sum_map_add, ← List.sum_map_add, ← sum_countP_kinds records]
  simp only [sum_count_outcomes]

/-- No two entries of a snapshot have the same text, since no two kinds have. -/
theorem nodup_texts (m : DispatchMetrics) : (m.snapshot.byKind.map fun e => e.1.text).Nodup := by
  have hsub : (m.snapshot.byKind.map fun e => e.1.text).Sublist (EventKind.all.map EventKind.text) := by
    have hkept : (m.seen EventKind.all).Sublist (EventKind.all.map fun k => (k, m.counts k)) :=
      List.filter_sublist
    have htexts := hkept.map fun e => e.1.text
    rwa [List.map_map] at htexts
  exact hsub.nodup (by decide)

/-- The snapshot of some records takes all of its sums, and the totals are the sums of its entries. -/
theorem snapshot?_recordAll (h : records.length < UInt64.size) :
    (zero.recordAll records).snapshot? = some (zero.recordAll records).snapshot ∧
      ∀ outcome, ((zero.recordAll records).snapshot.totals.of outcome).toNat =
        (((zero.recordAll records).seen EventKind.all).map fun e => (e.2.of outcome).toNat).sum := by
  have hall := sum_outcomes records
  obtain ⟨hfold, htotals⟩ := (zero.recordAll records).foldlM_addKind? EventKind.all ⟨[], {}⟩
    (fun k => by
      rw [sum_counts h]
      exact Nat.lt_of_le_of_lt List.countP_le_length h)
    (fun o => by
      rw [EventCounts.toNat_of_empty, sum_seen_recordAll h]
      cases o <;> omega)
  refine ⟨hfold, fun outcome => ?_⟩
  have htotal := htotals outcome
  rwa [EventCounts.toNat_of_empty, Nat.zero_add] at htotal

/-- The snapshot of some records tells about all of them. -/
theorem accounts_recordAll (h : records.length < UInt64.size) :
    (zero.recordAll records).snapshot.Accounts records := by
  obtain ⟨-, htotals⟩ := snapshot?_recordAll h
  have hsum : (zero.recordAll records).snapshot.totals.sum = records.length := by
    rw [← sum_outcomes, ← sum_seen_recordAll h, ← sum_seen_recordAll h, ← sum_seen_recordAll h,
      ← sum_seen_recordAll h, ← htotals, ← htotals, ← htotals, ← htotals]
    rfl
  obtain ⟨htotal, hlength⟩ := EventCounts.total?_of_lt (by rw [hsum]; exact h)
  refine ⟨fun kind => ?_, nodup_texts _, fun e he outcome => ?_, htotals, htotal,
    hlength.trans hsum⟩
  · rw [← total_counts_ne_zero_iff h, snapshot_eq, List.mem_map]
    constructor
    · rintro ⟨e, he, rfl⟩
      obtain ⟨-, hc, htot⟩ := mem_seen_iff.1 he
      rwa [← hc]
    · intro htot
      exact ⟨(kind, _), mem_seen_iff.2 ⟨EventKind.mem_all kind, rfl, htot⟩, rfl⟩
  · obtain ⟨-, hc, -⟩ := mem_seen_iff.1 he
    rw [hc, toNat_of_counts h]

/-- **A snapshot accounts for everything that was recorded since the last reset.** In every history of the counts, short
enough for 64 bits since its last reset, the snapshot has an entry for exactly the kinds that something was recorded of,
each entry tells how often each outcome was recorded, the totals are the sums of the entries and altogether the number
of records, and none of the sums on the way leaves 64 bits. To record an outcome of one kind never changes the counts of
another one. -/
theorem snapshot_accounts (history : List Counting)
    (h : (sinceReset history).length < UInt64.size) :
    (after history).snapshot.Accounts (sinceReset history) ∧
      (after history).snapshot? = some (after history).snapshot ∧
      ∀ (m : DispatchMetrics) (kind other : EventKind) (outcome : Outcome), other ≠ kind →
        (m.record kind outcome).counts other = m.counts other := by
  rw [after_history]
  refine ⟨accounts_recordAll h, (snapshot?_recordAll h).1, fun m kind other outcome hne => ?_⟩
  rw [counts_record, if_neg hne]

/-- A kind that is only seen before a reset, and one that is seen again after it. -/
def interruptedHistory : List Counting :=
  [.record .cacheCallStarted .delivered, .record .exceptionThrown .failed, .reset,
    .record .exceptionThrown .filtered, .record .methodStarted .unrouted,
    .record .exceptionThrown .filtered]

/-- After the reset there are three records of two kinds. -/
theorem snapshot_accounts_interrupted :
    (sinceReset interruptedHistory).length < UInt64.size ∧
      (after interruptedHistory).snapshot? = some
        { byKind := [(.methodStarted, { unrouted := 1 }), (.exceptionThrown, { filtered := 2 })]
          totals := { unrouted := 1, filtered := 2 } } ∧
      (after interruptedHistory).snapshot.totals.total.toNat = 3 := by
  have hfew : (sinceReset interruptedHistory).length < UInt64.size := by decide
  obtain ⟨haccounts, hsnapshot, -⟩ := snapshot_accounts interruptedHistory hfew
  refine ⟨hfew, hsnapshot.trans ?_, haccounts.length.trans ?_⟩
  · rfl
  · decide

end DispatchMetrics

end Instrumentation
