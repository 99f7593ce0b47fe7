import Instrumentation.Proofs.Agent.Verdict
import Instrumentation.Proofs.Registry.Call
import Instrumentation.Proofs.Table

set_option autoImplicit false

/-!
# The counts of a registry over a run

A registry counts its decisions: one for every unit that is matched, one for every rule that a configuration refuses,
and one for every discovery that succeeds. `decisions` reads the decisions of a call off the registry before the call,
and `metrics_serve` says that these are all that is counted.

So after a run each count is the tally of its decision over the calls of the run (`of_metrics_after`), and the main
statement `accounted_after` compares the counts with what the calls answered. A count of 64 bits cannot wrap around in
as many calls, except for the refused rules, of which one call may have any number.
-/

namespace Instrumentation

/-- The count of a decision. -/
def RegistryMetrics.of (m : RegistryMetrics) : RegistryDecision → UInt64
  | .claimedExact => m.claimedExact
  | .matchedPattern => m.matchedPattern
  | .discoveredExecutor => m.discoveredExecutors
  | .missed => m.missed
  | .droppedExcluded => m.droppedExcluded

theorem RegistryMetrics.of_record (m : RegistryMetrics) (d d' : RegistryDecision) :
    (m.record d').of d = m.of d + if d' = d then 1 else 0 := by
  cases d <;> cases d' <;> first | rfl | exact (UInt64.add_zero _).symm

/-- Each count grows with the decisions of its kind. -/
theorem RegistryMetrics.of_foldl_record (ds : List RegistryDecision) (m : RegistryMetrics)
    (d : RegistryDecision) :
    (ds.foldl RegistryMetrics.record m).of d = m.of d + UInt64.ofNat (ds.count d) := by
  induction ds generalizing m with
  | nil => exact (UInt64.add_zero _).symm
  | cons d' rest ih =>
      rw [List.foldl_cons, ih, of_record, List.count_cons, UInt64.ofNat_add, UInt64.add_assoc,
        UInt64.add_comm (UInt64.ofNat _)]
      by_cases h : d' = d <;> simp [h]

namespace Registry

/-! ## What a call answers -/

/-- The call matches a unit. -/
def Call.isMatch : Call → Bool
  | .matchUnit _ => true
  | _ => false

/-- The rules that a call brings along and that are refused because their names are excluded. -/
def refusedRules (r : Registry) : Call → List Rule
  | .configure rules beginnings _ => rules.filter (r.addExclusions beginnings).dropsRule
  | _ => []

/-- The number of plans that a call gives to the unit that it matches. -/
def matchedPlans (r : Registry) : Call → Nat
  | .matchUnit unit => (r.matchUnit unit).1.toList.length
  | _ => 0

/-- The number of plans that a call gives to the unit that it discovers. -/
def discoveredPlans (r : Registry) : Call → Nat
  | .discover introspect unit => (r.discoverExecutor introspect unit).1.toList.length
  | _ => 0

/-! ## What a call counts -/

/-- What the rules decide about a unit. -/
def matchVerdict (r : Registry) (unit : String) : Verdict :=
  match r.pending.find? unit with
  | some rule => .exact rule
  | none => r.patternVerdict unit

/-- The decisions that a call counts. -/
def decisions (r : Registry) : Call → List RegistryDecision
  | .configure rules beginnings selection =>
      .replicate (r.refusedRules (.configure rules beginnings selection)).length .droppedExcluded
  | .matchUnit unit => (r.matchVerdict unit).decisions
  | .discover introspect unit =>
      .replicate (r.discoveredPlans (.discover introspect unit)) .discoveredExecutor

variable (r : Registry)

/-- Matching answers with the plan of its verdict and concludes it. -/
theorem matchUnit_eq (unit : String) :
    r.matchUnit unit =
      ((r.matchVerdict unit).plan? unit r.debugMode, r.conclude unit (r.matchVerdict unit)) := by
  rw [matchVerdict]
  cases hp : r.pending.find? unit with
  | some rule => exact matchUnit_of_pending hp
  | none => exact (matchUnit_of_not_pending hp).trans (r.matchPattern_eq unit)

/-- The rules never come to the verdict of a discovery. -/
theorem matchVerdict_cases (unit : String) :
    (∃ rule, r.matchVerdict unit = .exact rule) ∨ (∃ rule, r.matchVerdict unit = .pattern rule) ∨
      r.matchVerdict unit = .dropped ∨ r.matchVerdict unit = .missed := by
  unfold matchVerdict patternVerdict
  split
  · exact .inl ⟨_, rfl⟩
  · split
    · exact .inr (.inr (.inr rfl))
    · split
      · exact .inr (.inr (.inl rfl))
      · exact .inr (.inl ⟨_, rfl⟩)

@[simp] theorem insert_metrics (rule : Rule) : (r.insert rule).metrics = r.metrics := by
  obtain h | ⟨t, h⟩ | ⟨t, h⟩ := r.insert_cases rule <;> rw [h]

/-- Of the rules of a configuration the refused ones are counted. -/
theorem metrics_addRules (rules : List Rule) :
    (rules.foldl addRule r).metrics =
      (List.replicate (rules.filter r.dropsRule).length .droppedExcluded).foldl
        RegistryMetrics.record r.metrics := by
  induction rules generalizing r with
  | nil => rfl
  | cons rule rest ih =>
      have hdrops : (r.addRule rule).dropsRule = r.dropsRule :=
        funext (dropsRule_congr (r.addRule_excluded rule))
      rw [List.foldl_cons, ih, hdrops, List.filter_cons]
      cases hdrop : r.dropsRule rule with
      | true =>
          rw [addRule, if_pos hdrop]
          rfl
      | false =>
          rw [addRule, hdrop, if_neg Bool.false_ne_true, insert_metrics]
          rfl

theorem metrics_configure (rules : List Rule) (beginnings : List String)
    (selection : BuiltInSelection) :
    (r.configure rules beginnings selection).metrics =
      (r.decisions (.configure rules beginnings selection)).foldl RegistryMetrics.record r.metrics := by
  have hexcluded : ((r.addExclusions beginnings).prune.install selection).excluded =
      (r.addExclusions beginnings).excluded := by
    rw [install_excluded, prune_excluded]
  have hmetrics : ((r.addExclusions beginnings).prune.install selection).metrics = r.metrics :=
    foldl_frame _ metrics insert_metrics _
  have hdrops : ((r.addExclusions beginnings).prune.install selection).dropsRule =
      (r.addExclusions beginnings).dropsRule := funext (dropsRule_congr hexcluded)
  rw [configure, metrics_addRules, hmetrics, hdrops]
  rfl

/-- **The decisions of a call are all that it counts.** -/
theorem metrics_serve (call : Call) :
    (serve r call).2.metrics = (r.decisions call).foldl RegistryMetrics.record r.metrics := by
  cases call with
  | configure rules beginnings selection => exact r.metrics_configure rules beginnings selection
  | matchUnit unit =>
      show (r.matchUnit unit).2.metrics = _
      rw [matchUnit_eq, conclude_metrics]
      rfl
  | discover introspect unit =>
      show (r.discoverExecutor introspect unit).2.metrics = _
      rw [decisions, discoveredPlans, discoverExecutor_eq]
      split <;> rfl

/-! ## The decisions of a call and its answer -/

theorem count_answered (call : Call) :
    (r.decisions call).count .claimedExact + (r.decisions call).count .matchedPattern =
      r.matchedPlans call := by
  cases call with
  | configure rules beginnings selection => simp [decisions, matchedPlans, List.count_replicate]
  | matchUnit unit =>
      rw [decisions, matchedPlans, matchUnit_eq]
      obtain ⟨rule, h⟩ | ⟨rule, h⟩ | h | h := r.matchVerdict_cases unit <;> rw [h] <;> rfl
  | discover introspect unit => simp [decisions, matchedPlans, List.count_replicate]

theorem count_discovered (call : Call) :
    (r.decisions call).count .discoveredExecutor = r.discoveredPlans call := by
  cases call with
  | configure rules beginnings selection => simp [decisions, discoveredPlans, List.count_replicate]
  | matchUnit unit =>
      rw [decisions]
      show _ = 0
      obtain ⟨rule, h⟩ | ⟨rule, h⟩ | h | h := r.matchVerdict_cases unit <;> rw [h] <;> rfl
  | discover introspect unit => simp [decisions]

/-- Every unit that is matched and every rule that is refused is counted once. -/
theorem count_balance (call : Call) :
    (r.decisions call).count .claimedExact + (r.decisions call).count .matchedPattern +
        (r.decisions call).count .missed + (r.decisions call).count .droppedExcluded =
      (if call.isMatch then 1 else 0) + (r.refusedRules call).length := by
  cases call with
  | configure rules beginnings selection => simp [decisions, Call.isMatch, List.count_replicate]
  | matchUnit unit =>
      rw [decisions]
      obtain ⟨rule, h⟩ | ⟨rule, h⟩ | h | h := r.matchVerdict_cases unit <;> rw [h] <;> rfl
  | discover introspect unit =>
      simp [decisions, Call.isMatch, refusedRules, List.count_replicate]

/-- What is no refusal is decided at most once by a call. -/
theorem count_decisions_le_one (call : Call) {d : RegistryDecision} (h : d ≠ .droppedExcluded) :
    (r.decisions call).count d ≤ 1 := by
  cases call with
  | configure rules beginnings selection => simp [decisions, List.count_replicate, h.symm]
  | matchUnit unit =>
      rw [decisions]
      refine Nat.le_trans List.count_le_length ?_
      obtain ⟨rule, hv⟩ | ⟨rule, hv⟩ | hv | hv := r.matchVerdict_cases unit <;> rw [hv] <;>
        exact Nat.le_refl 1
  | discover introspect unit =>
      rw [decisions]
      refine Nat.le_trans List.count_le_length ?_
      rw [List.length_replicate]
      exact Option.length_toList_le

/-- The index gets at most one more name for each plan. -/
theorem size_index_serve_le (call : Call) :
    (serve r call).2.index.size ≤ r.index.size + (r.matchedPlans call + r.discoveredPlans call) := by
  have hrecord : ∀ (unit : String) (kind : UnitKind),
      (r.index.record unit kind).size ≤ r.index.size + 1 :=
    fun unit kind => Table.size_insert_le ..
  cases call with
  | configure rules beginnings selection =>
      show (r.configure rules beginnings selection).index.size ≤ _
      rw [configure_index]
      exact Nat.le_add_right ..
  | matchUnit unit =>
      show (r.matchUnit unit).2.index.size ≤ _
      rw [matchedPlans, matchUnit_eq]
      obtain ⟨rule, h⟩ | ⟨rule, h⟩ | h | h := r.matchVerdict_cases unit <;> rw [h]
      · exact hrecord rule.name rule.kind
      · exact hrecord unit rule.kind
      · exact Nat.le_refl _
      · exact Nat.le_refl _
  | discover introspect unit =>
      show (r.discoverExecutor introspect unit).2.index.size ≤ _
      rw [discoveredPlans, discoverExecutor_eq]
      split
      · exact hrecord unit .threadPool
      · exact Nat.le_refl _

/-! ## The counts after a run -/

/-- How often the calls of a run take a decision. -/
def taken (d : RegistryDecision) (calls : List Call) : Nat :=
  serve.tally (fun r call => (r.decisions call).count d) initial calls

/-- How many rules the calls of a run refuse. -/
def refusals (calls : List Call) : Nat :=
  serve.tally (fun r call => (r.refusedRules call).length) initial calls

/-- **After a run, each count is the tally of its decision.** -/
theorem of_metrics_after (calls : List Call) (d : RegistryDecision) :
    (serve.after initial calls).metrics.of d = UInt64.ofNat (taken d calls) := by
  have hzero : initial.metrics.of d = 0 := by
    cases d <;> rfl
  have hcount := serve.count_after (fun r => r.metrics.of d)
    (fun r call => (r.decisions call).count d)
    (fun r call => by rw [metrics_serve, RegistryMetrics.of_foldl_record]) initial calls
  rwa [hzero, UInt64.zero_add] at hcount

/-- A decision that no call takes twice cannot wrap around in a run that has not too many calls. -/
theorem toNat_of_metrics_after {calls : List Call} (h : calls.length < UInt64.size)
    {d : RegistryDecision} (hd : d ≠ .droppedExcluded) :
    ((serve.after initial calls).metrics.of d).toNat = taken d calls := by
  have hle : taken d calls ≤ calls.length :=
    serve.tally_le_length (fun r call => r.count_decisions_le_one call hd) initial calls
  rw [of_metrics_after]
  exact UInt64.toNat_ofNat_of_lt' (Nat.lt_of_le_of_lt hle h)

theorem taken_answered (calls : List Call) :
    taken .claimedExact calls + taken .matchedPattern calls =
      serve.tally matchedPlans initial calls := by
  rw [taken, taken, ← serve.tally_add]
  simp only [count_answered]

theorem taken_discovered (calls : List Call) :
    taken .discoveredExecutor calls = serve.tally discoveredPlans initial calls := by
  simp only [taken, count_discovered]

theorem taken_balance (calls : List Call) :
    taken .claimedExact calls + taken .matchedPattern calls + taken .missed calls +
        taken .droppedExcluded calls =
      calls.countP Call.isMatch + refusals calls := by
  rw [taken, taken, taken, taken, refusals, ← serve.tally_add, ← serve.tally_add,
    ← serve.tally_add, ← serve.tally_countP Call.isMatch initial, ← serve.tally_add]
  simp only [count_balance]

/-- What the counts of a registry tell about the calls since it was new. -/
structure Accounted (calls : List Call) (r : Registry) : Prop where
  /-- Every unit that is matched and every rule that is refused is in one of four counts, in their own
  arithmetic. -/
  balance : r.metrics.claimedExact + r.metrics.matchedPattern + r.metrics.missed +
      r.metrics.droppedExcluded = UInt64.ofNat (calls.countP Call.isMatch + refusals calls)
  /-- So it is for numbers without a limit, unless a single call refuses more rules than can be counted. -/
  balance_toNat : calls.countP Call.isMatch + refusals calls < UInt64.size →
    r.metrics.claimedExact.toNat + r.metrics.matchedPattern.toNat + r.metrics.missed.toNat +
      r.metrics.droppedExcluded.toNat = calls.countP Call.isMatch + refusals calls
  matched : r.metrics.claimedExact.toNat + r.metrics.matchedPattern.toNat =
    serve.tally matchedPlans initial calls
  discovered : r.metrics.discoveredExecutors.toNat = serve.tally discoveredPlans initial calls
  index : r.index.size ≤ r.metrics.claimedExact.toNat + r.metrics.matchedPattern.toNat +
    r.metrics.discoveredExecutors.toNat

/-- **The counts of a registry account for every decision.** After every run of calls on a new registry, short enough
for the counts, the units that were matched and the rules that were refused are the claimed, the matched, the missed
and the dropped ones together; the claimed and the matched ones are the matches that were answered with a plan, the
discovered ones the discoveries that were, and the index knows no more units than there were plans. -/
theorem accounted_after (calls : List Call) (h : calls.length < UInt64.size) :
    Accounted calls (serve.after initial calls) := by
  have hclaimed : (serve.after initial calls).metrics.claimedExact.toNat =
      taken .claimedExact calls := toNat_of_metrics_after (d := .claimedExact) h (by decide)
  have hmatched : (serve.after initial calls).metrics.matchedPattern.toNat =
      taken .matchedPattern calls := toNat_of_metrics_after (d := .matchedPattern) h (by decide)
  have hmissed : (serve.after initial calls).metrics.missed.toNat = taken .missed calls :=
    toNat_of_metrics_after (d := .missed) h (by decide)
  have hdiscovered : (serve.after initial calls).metrics.discoveredExecutors.toNat =
      taken .discoveredExecutor calls := toNat_of_metrics_after (d := .discoveredExecutor) h (by decide)
  have hof := of_metrics_after calls
  refine ⟨?_, fun hfew => ?_, ?_, ?_, ?_⟩
  · rw [← taken_balance, UInt64.ofNat_add, UInt64.ofNat_add, UInt64.ofNat_add, ← hof, ← hof, ← hof,
      ← hof]
    rfl
  · have hbalance := taken_balance calls
    have hdropped : (serve.after initial calls).metrics.droppedExcluded.toNat =
        taken .droppedExcluded calls := by
      rw [← UInt64.toNat_ofNat_of_lt' (n := taken .droppedExcluded calls) (by omega), ← hof]
      rfl
    omega
  · rw [hclaimed, hmatched, taken_answered]
  · rw [hdiscovered, taken_discovered]
  · have hsize := serve.measure_after_le (fun r => r.index.size)
      (fun r call => r.matchedPlans call + r.discoveredPlans call) size_index_serve_le initial calls
    rw [serve.tally_add, ← taken_answered, ← taken_discovered] at hsize
    have hempty : initial.index.size = 0 := rfl
    omega

/-- A rule of two units. -/
def reportRule : Rule :=
  (Rule.pattern "com/acme/(Daily|Monthly)Report" .other).toOption.getD (.exact "" .other)

/-- One of three rules is refused; of four matches one claims a unit, one finds a pattern, one finds a pattern that may
not be used, and one comes too late; a discovery succeeds. -/
def mixedCalls : List Call :=
  [.configure [.exact "com/acme/Job" .other, reportRule, .exact "com/acme/internal/Job" .other]
      ["com/acme/internal/", "com/acme/Monthly"] .none,
    .matchUnit "com/acme/Job", .matchUnit "com/acme/DailyReport",
    .matchUnit "com/acme/MonthlyReport", .matchUnit "com/acme/Job",
    .discover (fun unit => .described { name := unit, isExecutor := true }) "com/acme/Pool"]

/-- Four matches and one refusal are counted, and the index knows three units. -/
theorem accounted_after_mixed :
    mixedCalls.length < UInt64.size ∧
      (serve.after initial mixedCalls).metrics.claimedExact.toNat +
        (serve.after initial mixedCalls).metrics.matchedPattern.toNat +
        (serve.after initial mixedCalls).metrics.missed.toNat +
        (serve.after initial mixedCalls).metrics.droppedExcluded.toNat = 4 + 1 ∧
      (serve.after initial mixedCalls).metrics =
        { claimedExact := 1, matchedPattern := 1, discoveredExecutors := 1, missed := 1
          droppedExcluded := 2 } ∧
      (serve.after initial mixedCalls).index.size = 3 := by
  have hfew : mixedCalls.length < UInt64.size := by decide
  have hrefused : mixedCalls.countP Call.isMatch + refusals mixedCalls = 4 + 1 := by
    decide +kernel
  refine ⟨hfew, ?_, by decide +kernel, by decide +kernel⟩
  rw [(accounted_after mixedCalls hfew).balance_toNat (by rw [hrefused]; decide), hrefused]

end Registry

end Instrumentation
