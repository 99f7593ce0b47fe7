import Instrumentation.Proofs.Agent.Call

set_option autoImplicit false

/-!
# What a probe decides

A probe comes to one of five verdicts about its unit. `verdict` reads the verdict off the rules, the exclusions and
the claimed units, without carrying the probe out, and `conclude` says what each verdict leaves behind in the
registry. `probe_eq` says that this is all of a probe: it answers with the plan of the verdict and concludes it.

A verdict rests on what the agent knows about the one unit (`AgreeOn.verdict_eq`), and concluding it changes what the
agent knows about this unit only (`agreeOn_probe`). After a probe the pattern rules alone are left to decide about the
unit, so that every later verdict is theirs (`verdict_probe`).
-/

namespace Instrumentation

/-- What a probe decides about a unit. -/
inductive Verdict where
  /-- The exact rule that waits for the unit is claimed. -/
  | exact (rule : Rule)
  /-- The pattern rule of the package accepts the unit. -/
  | pattern (rule : Rule)
  /-- The pattern rule accepts the unit, but the unit is excluded. -/
  | dropped
  /-- No rule applies, and the unit is discovered to be an executor. -/
  | discovered
  /-- No rule applies. -/
  | missed

namespace Verdict

/-- The plan that comes with a verdict. -/
def plan? (unit : String) (debugMode : Bool) : Verdict → Option Plan
  | exact rule => some (.ofRule rule debugMode)
  | pattern rule => some (.ofRule (rule.forUnit unit) debugMode)
  | dropped => none
  | discovered => some (.ofRule (threadPoolRule unit) debugMode)
  | missed => none

/-- The rule that waits for the unit is taken with the verdict. -/
def takesRule : Verdict → Bool
  | exact _ => true
  | _ => false

/-- The unit is claimed with the verdict. -/
def claims : Verdict → Bool
  | exact _ => true
  | discovered => true
  | _ => false

/-- The kind that is noted for the unit. -/
def kind? : Verdict → Option UnitKind
  | exact rule => some rule.kind
  | pattern rule => some rule.kind
  | discovered => some .threadPool
  | dropped => none
  | missed => none

/-- The decisions that are counted. The rules miss a unit before it is discovered. -/
def decisions : Verdict → List RegistryDecision
  | exact _ => [.claimedExact]
  | pattern _ => [.matchedPattern]
  | dropped => [.droppedExcluded]
  | discovered => [.missed, .discoveredExecutor]
  | missed => [.missed]

/-- An exact rule that is claimed is the rule of the unit. -/
def IsFor (unit : String) (v : Verdict) : Prop := ∀ rule, v = exact rule → rule.name = unit

end Verdict

namespace Registry

variable (r : Registry)

/-- What the pattern rules decide about a unit. -/
def patternVerdict (unit : String) : Verdict :=
  match r.patternFor? unit with
  | none => .missed
  | some rule =>
      if rule.origin == .configured && r.isExcluded unit then .dropped else .pattern rule

/-- The registry after a verdict about a unit. -/
def conclude (unit : String) : Verdict → Registry
  | .exact rule => r.afterClaim unit rule
  | .pattern rule => ((r.count .matchedPattern).givePlan (rule.forUnit unit)).2
  | .dropped => r.count .droppedExcluded
  | .discovered => (r.count .missed).afterDiscovery unit
  | .missed => r.count .missed

/-- The pattern rules answer with the plan of their verdict and conclude it. -/
theorem matchPattern_eq (unit : String) :
    r.matchPattern unit =
      ((r.patternVerdict unit).plan? unit r.debugMode, r.conclude unit (r.patternVerdict unit)) := by
  rw [matchPattern, patternVerdict]
  cases r.patternFor? unit with
  | none => rfl
  | some rule =>
      dsimp only
      split
      · rfl
      · rfl

theorem patternFor?_congr {r s : Registry} (h : r.patterns = s.patterns) (unit : String) :
    r.patternFor? unit = s.patternFor? unit := by
  rw [patternFor?, patternFor?, h]

theorem patternVerdict_congr {r s : Registry} (hpatterns : r.patterns = s.patterns)
    (hexcluded : r.excluded = s.excluded) (unit : String) :
    r.patternVerdict unit = s.patternVerdict unit := by
  rw [patternVerdict, patternVerdict, patternFor?_congr hpatterns,
    isExcluded_congr hexcluded]

/-! ## What a verdict leaves behind -/

section Conclude

variable (unit : String) (v : Verdict)

@[simp] theorem conclude_patterns : (r.conclude unit v).patterns = r.patterns := by
  cases v <;> rfl

@[simp] theorem conclude_excluded : (r.conclude unit v).excluded = r.excluded := by
  cases v <;> rfl

@[simp] theorem conclude_builtInEnabled :
    (r.conclude unit v).builtInEnabled = r.builtInEnabled := by
  cases v <;> rfl

@[simp] theorem conclude_debugMode : (r.conclude unit v).debugMode = r.debugMode := by
  cases v <;> rfl

/-- The decisions of the verdict are counted. -/
theorem conclude_metrics :
    (r.conclude unit v).metrics = v.decisions.foldl RegistryMetrics.record r.metrics := by
  cases v <;> rfl

/-- A rule is taken from the unit at most. -/
theorem find?_pending_conclude (u : String) :
    (r.conclude unit v).pending.find? u =
      if v.takesRule = true ∧ u = unit then none else r.pending.find? u := by
  cases v with
  | exact rule =>
      rw [conclude, find?_pending_afterClaim]
      simp [Verdict.takesRule]
  | pattern rule => rfl
  | dropped => rfl
  | discovered => rfl
  | missed => rfl

/-- The unit is claimed at most. -/
theorem claimed_conclude (u : String) :
    (r.conclude unit v).claimed.contains u =
      (v.claims && u == unit || r.claimed.contains u) := by
  cases v with
  | exact rule => exact r.claimed_afterClaim unit u rule
  | pattern rule => rfl
  | dropped => rfl
  | discovered => exact claimed_afterDiscovery _ unit u
  | missed => rfl

variable {unit v}

/-- A kind is noted for the unit at most. -/
theorem kindOf?_conclude (h : v.IsFor unit) (u : String) :
    (r.conclude unit v).index.kindOf? u =
      if u = unit then v.kind?.or (r.index.kindOf? u) else r.index.kindOf? u := by
  have hrecord : ∀ kind, (r.index.record unit kind).kindOf? u =
      if u = unit then some kind else r.index.kindOf? u :=
    fun kind => UnitIndex.kindOf?_record ..
  cases v with
  | exact rule =>
      have hname : rule.name = unit := h rule rfl
      show (r.index.record rule.name rule.kind).kindOf? u = _
      rw [hname, hrecord]
      rfl
  | pattern rule => exact hrecord rule.kind
  | dropped => exact (ite_self _).symm
  | discovered => exact hrecord .threadPool
  | missed => exact (ite_self _).symm

end Conclude

end Registry

namespace Agent

variable {H : Type}

/-- Discovery gives the unit a plan: no pattern rule accepts it, and it is an executor that is neither claimed nor
excluded. -/
def discovers (a : Agent H) (introspect : Introspector) (unit : String) : Bool :=
  a.executorDiscovery && (a.registry.patternFor? unit).isNone && (introspect unit).reportsExecutor &&
    !a.registry.claimed.contains unit && !a.registry.isExcluded unit

/-- What a probe of a unit decides. -/
def verdict (a : Agent H) (introspect : Introspector) (unit : String) : Verdict :=
  match a.registry.pending.find? unit with
  | some rule => .exact rule
  | none => if a.discovers introspect unit then .discovered else a.registry.patternVerdict unit

/-- The agent after a verdict about a unit. -/
def conclude (a : Agent H) (unit : String) (v : Verdict) : Agent H :=
  { a with registry := a.registry.conclude unit v }

theorem verdict_of_pending {a : Agent H} {unit : String} {rule : Rule}
    (introspect : Introspector) (h : a.registry.pending.find? unit = some rule) :
    a.verdict introspect unit = .exact rule := by
  rw [verdict, h]

theorem verdict_of_not_pending {a : Agent H} {unit : String} (introspect : Introspector)
    (h : a.registry.pending.find? unit = none) :
    a.verdict introspect unit =
      if a.discovers introspect unit then .discovered else a.registry.patternVerdict unit := by
  rw [verdict, h]

/-- Without a plan of the rules, discovery decides about a unit as `discovers` says, if no pattern rule accepts the
unit. -/
theorem probe_of_missed {a : Agent H} {unit : String} (introspect : Introspector)
    (hmatch : a.registry.matchUnit unit = (none, a.registry.count .missed))
    (hrule : a.registry.patternFor? unit = none) :
    a.probe introspect unit =
      if a.discovers introspect unit then
        (some (.ofRule (threadPoolRule unit) a.registry.debugMode), a.conclude unit .discovered)
      else (none, a.conclude unit .missed) := by
  rw [probe_of_none introspect (by rw [hmatch]), hmatch]
  by_cases hon : a.executorDiscovery = true
  · rw [if_pos hon, Registry.discoverExecutor_eq]
    have hexcluded : (a.registry.count .missed).isExcluded unit = a.registry.isExcluded unit :=
      Registry.isExcluded_congr rfl unit
    by_cases hdiscovers : a.discovers introspect unit = true
    · rw [if_pos hdiscovers, if_pos]
      · rfl
      · simpa [discovers, hon, hrule, hexcluded, and_assoc] using hdiscovers
    · rw [if_neg hdiscovers, if_neg]
      · rfl
      · simpa [discovers, hon, hrule, hexcluded, and_assoc] using hdiscovers
  · have hquiet : ¬ a.discovers introspect unit = true := by simp [discovers, hon]
    rw [if_neg hon, if_neg hquiet]
    rfl

/-- An excluded unit that its pattern rule accepts gets no plan, and discovery is no way around that. -/
theorem probe_of_dropped {a : Agent H} {unit : String} (introspect : Introspector)
    (hmatch : a.registry.matchUnit unit = (none, a.registry.count .droppedExcluded))
    (hexcluded : a.registry.isExcluded unit = true) :
    a.probe introspect unit = (none, a.conclude unit .dropped) := by
  have hstill : (a.registry.count .droppedExcluded).isExcluded unit = true := hexcluded
  have hquiet : (a.registry.count .droppedExcluded).discoverExecutor introspect unit =
      (none, a.registry.count .droppedExcluded) := by
    rw [Registry.discoverExecutor_eq, if_neg (by rw [hstill]; simp)]
  rw [probe_of_none introspect (by rw [hmatch]), hmatch, hquiet]
  exact ite_self _

/-- **A probe answers with the plan of its verdict and concludes it.** -/
theorem probe_eq (a : Agent H) (introspect : Introspector) (unit : String) :
    a.probe introspect unit =
      ((a.verdict introspect unit).plan? unit a.registry.debugMode,
        a.conclude unit (a.verdict introspect unit)) := by
  cases hp : a.registry.pending.find? unit with
  | some rule =>
      have hmatch := Registry.matchUnit_of_pending hp
      rw [probe_of_some introspect (by rw [hmatch]), hmatch, verdict_of_pending introspect hp]
      rfl
  | none =>
      have hmatch := (Registry.matchUnit_of_not_pending hp).trans (a.registry.matchPattern_eq unit)
      rw [verdict_of_not_pending introspect hp]
      cases hrule : a.registry.patternFor? unit with
      | none =>
          have hmissed : a.registry.patternVerdict unit = .missed := by
            rw [Registry.patternVerdict, hrule]
          rw [hmissed] at hmatch ⊢
          rw [probe_of_missed introspect hmatch hrule]
          split
          · rfl
          · rfl
      | some rule =>
          have hquiet : ¬ a.discovers introspect unit = true := by simp [discovers, hrule]
          rw [if_neg hquiet]
          by_cases hdrop : (rule.origin == .configured && a.registry.isExcluded unit) = true
          · have hdropped : a.registry.patternVerdict unit = .dropped := by
              rw [Registry.patternVerdict, hrule]
              exact if_pos hdrop
            rw [hdropped] at hmatch ⊢
            exact probe_of_dropped introspect hmatch (Bool.and_eq_true_iff.1 hdrop).2
          · have hpattern : a.registry.patternVerdict unit = .pattern rule := by
              rw [Registry.patternVerdict, hrule]
              exact if_neg hdrop
            rw [hpattern] at hmatch ⊢
            rw [probe_of_some introspect (by rw [hmatch]; rfl), hmatch]
            rfl

/-! ## What verdicts rest on -/

/-- Two agents know the same about a unit, as far as verdicts rest on it. -/
structure AgreeOn (unit : String) (a b : Agent H) : Prop where
  pending : a.registry.pending.find? unit = b.registry.pending.find? unit
  patterns : a.registry.patterns = b.registry.patterns
  excluded : a.registry.excluded = b.registry.excluded
  claimed : a.registry.claimed.contains unit = b.registry.claimed.contains unit
  debugMode : a.registry.debugMode = b.registry.debugMode
  executorDiscovery : a.executorDiscovery = b.executorDiscovery

theorem AgreeOn.verdict_eq {unit : String} {a b : Agent H} (h : a.AgreeOn unit b)
    (introspect : Introspector) : a.verdict introspect unit = b.verdict introspect unit := by
  have hdiscovers : a.discovers introspect unit = b.discovers introspect unit := by
    rw [discovers, discovers, h.executorDiscovery, Registry.patternFor?_congr h.patterns, h.claimed,
      Registry.isExcluded_congr h.excluded]
  rw [verdict, verdict, h.pending, hdiscovers,
    Registry.patternVerdict_congr h.patterns h.excluded]

/-- Agents that know the same about a unit answer a probe of it alike. -/
theorem AgreeOn.probe_fst_eq {unit : String} {a b : Agent H} (h : a.AgreeOn unit b)
    (introspect : Introspector) : (a.probe introspect unit).1 = (b.probe introspect unit).1 := by
  rw [probe_eq, probe_eq, h.verdict_eq introspect, h.debugMode]

/-- A probe of one unit changes nothing that an agent knows about another one. -/
theorem agreeOn_probe (a : Agent H) (introspect : Introspector) {probed unit : String}
    (h : unit ≠ probed) : (a.probe introspect probed).2.AgreeOn unit a := by
  rw [probe_eq]
  refine ⟨?_, Registry.conclude_patterns .., Registry.conclude_excluded .., ?_,
    Registry.conclude_debugMode .., rfl⟩
  · show (a.registry.conclude _ _).pending.find? unit = _
    rw [Registry.find?_pending_conclude, if_neg fun hset => h hset.2]
  · show (a.registry.conclude _ _).claimed.contains unit = _
    rw [Registry.claimed_conclude, beq_eq_false_iff_ne.2 h, Bool.and_false, Bool.false_or]

/-- After a verdict discovery can give the unit a plan only if it could before and the unit was not claimed. -/
theorem discovers_of_conclude {a : Agent H} {introspect : Introspector} {unit : String} {v : Verdict}
    (h : (a.conclude unit v).discovers introspect unit = true) :
    v.claims = false ∧ a.discovers introspect unit = true := by
  have hexcluded : (a.registry.conclude unit v).isExcluded unit = a.registry.isExcluded unit :=
    Registry.isExcluded_congr (Registry.conclude_excluded ..) unit
  have hrule : (a.registry.conclude unit v).patternFor? unit = a.registry.patternFor? unit :=
    Registry.patternFor?_congr (Registry.conclude_patterns ..) unit
  have hclaimed : (a.registry.conclude unit v).claimed.contains unit =
      (v.claims || a.registry.claimed.contains unit) := by
    rw [Registry.claimed_conclude, beq_self_eq_true, Bool.and_true]
  simp only [discovers, conclude, hexcluded, hrule, hclaimed] at h ⊢
  simp_all

/-- **A later probe is decided by the pattern rules alone.** The first probe left no exact rule for the unit, and if
it did not claim the unit, then discovery did not give it a plan and will not do so later. -/
theorem verdict_probe (a : Agent H) (introspect : Introspector) (unit : String) :
    (a.probe introspect unit).2.verdict introspect unit = a.registry.patternVerdict unit := by
  rw [probe_eq]
  show (a.conclude unit (a.verdict introspect unit)).verdict introspect unit = _
  have hpending : (a.conclude unit (a.verdict introspect unit)).registry.pending.find? unit =
      none := by
    show (a.registry.conclude unit (a.verdict introspect unit)).pending.find? unit = none
    rw [Registry.find?_pending_conclude]
    cases hp : a.registry.pending.find? unit with
    | some rule =>
        rw [verdict_of_pending introspect hp]
        exact if_pos ⟨rfl, rfl⟩
    | none => exact ite_self none
  have hquiet : ¬ (a.conclude unit (a.verdict introspect unit)).discovers introspect unit =
      true := by
    intro h
    obtain ⟨hclaims, hdiscovers⟩ := discovers_of_conclude h
    -- Discovery would have given the plan the first time, and the unit would be claimed.
    cases hp : a.registry.pending.find? unit with
    | some rule =>
        rw [verdict_of_pending introspect hp] at hclaims
        cases hclaims
    | none =>
        rw [verdict_of_not_pending introspect hp, if_pos hdiscovers] at hclaims
        cases hclaims
  rw [verdict_of_not_pending introspect hpending, if_neg hquiet]
  exact Registry.patternVerdict_congr (Registry.conclude_patterns ..)
    (Registry.conclude_excluded ..) unit

end Agent

end Instrumentation
