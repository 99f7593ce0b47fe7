import Instrumentation.Proofs.Agent.Attribution
import Instrumentation.Proofs.Agent.Verdict
import Mathlib.Algebra.Ring.Int.Defs

set_option autoImplicit false

/-!
# Thresholds

A router has a threshold of slow queries and one of cache calls. Threads and configurations set them at any time, to
numbers of 64 bits with a sign and in different units. They are stored as numbers of 64 bits without a sign.

`Setting.number?` says among all integers what a threshold is set to. `Router.threshold_tune` finds the same number in the
router after one setting, and `Session.threshold_after` after any steps of a session: of the settings that the steps come
to (`Step.settings`), the latest one of a threshold counts. `thresholds_exact` adds that larger numbers never give smaller
thresholds, that the two units of cache calls agree, and that no setting of one threshold touches the other.
-/

namespace Instrumentation

/-! ## Numbers -/

/-- The number of a threshold is not changed, unless it is below zero. -/
theorem toNat_clampThreshold (t : Int64) : ((clampThreshold t).toNat : Int) = max t.toInt 0 := by
  have hlt : t.toInt < 2 ^ 63 := t.toInt_lt
  have hfits : t.toInt.toNat < UInt64.size := by
    rw [UInt64.size]
    omega
  rw [clampThreshold, UInt64.toNat_ofNat_of_lt' hfits]
  exact Int.ofNat_toNat t.toInt

/-- Nanoseconds that do not fit into 64 bits become the greatest number that does. -/
theorem toNat_millisToNanos (ms : UInt64) :
    ((millisToNanos ms).toNat : Int) = min ((ms.toNat : Int) * 1000000) (2 ^ 64 - 1) := by
  have hfits : min (ms.toNat * nanosPerMilli) (UInt64.size - 1) < UInt64.size := by
    rw [UInt64.size]
    omega
  rw [millisToNanos, UInt64.toNat_ofNat_of_lt' hfits, nanosPerMilli, UInt64.size]
  omega

/-- As long as a number of milliseconds still has 64 bits in nanoseconds, the two units give one threshold. -/
theorem millisToNanos_clampThreshold {t : Int64} (hlow : Int64.minValue.toInt ≤ t.toInt * 1000000)
    (hhigh : t.toInt * 1000000 ≤ Int64.maxValue.toInt) :
    millisToNanos (clampThreshold t) = clampThreshold (t * 1000000) := by
  rw [Int64.toInt_minValue] at hlow
  rw [Int64.toInt_maxValue] at hhigh
  have hproduct : (t * 1000000).toInt = t.toInt * 1000000 := by
    have hmillion : (1000000 : Int64).toInt = 1000000 := rfl
    rw [Int64.toInt_mul, hmillion]
    exact Int.bmod_eq_of_le (by omega) (by omega)
  -- Both are the product, or zero if it is negative: the greatest number without a sign is out of reach.
  have hmillis := toNat_millisToNanos (clampThreshold t)
  have hnanos := toNat_clampThreshold (t * 1000000)
  rw [toNat_clampThreshold] at hmillis
  rw [hproduct] at hnanos
  rw [← UInt64.toNat_inj]
  omega

/-! ## Settings -/

/-- The thresholds of a router. -/
inductive Threshold where
  /-- Of slow queries, in milliseconds. -/
  | query
  /-- Of cache calls, in nanoseconds. -/
  | cache
deriving DecidableEq

/-- The exact number that a setting sets a threshold to, if it sets it. A number below zero counts as zero, and
milliseconds of cache calls count as nanoseconds, up to the greatest number of 64 bits. -/
def Setting.number? : Setting → Threshold → Option Int
  | .queryThresholdMs t, .query => some (max t.toInt 0)
  | .cacheThresholdMs t, .cache => some (min (max t.toInt 0 * 1000000) (2 ^ 64 - 1))
  | .cacheThresholdNs t, .cache => some (max t.toInt 0)
  | _, _ => none

/-- A setting sets one threshold at most. -/
theorem Setting.number?_eq_none_of_ne {a : Setting} {th other : Threshold} (ha : a.number? th ≠ none)
    (hne : other ≠ th) : a.number? other = none := by
  cases a <;> cases th <;> cases other <;> simp_all [number?]

/-- The number that the latest of some settings of a threshold sets it to. -/
def latestNumber? (settings : List Setting) (th : Threshold) : Option Int :=
  (settings.filterMap fun a => a.number? th).getLast?

theorem latestNumber?_singleton (a : Setting) (th : Threshold) :
    latestNumber? [a] th = a.number? th := by
  cases ha : a.number? th <;> simp [latestNumber?, ha]

theorem latestNumber?_append (before later : List Setting) (th : Threshold) :
    latestNumber? (before ++ later) th = (latestNumber? later th).or (latestNumber? before th) := by
  rw [latestNumber?, List.filterMap_append, List.getLast?_append]
  rfl

/-- Two settings of the same threshold in the same unit, the second one not to a smaller number. -/
inductive Setting.Below : Setting → Setting → Prop where
  | queryThresholdMs {t t' : Int64} (h : t ≤ t') : Below (.queryThresholdMs t) (.queryThresholdMs t')
  | cacheThresholdMs {t t' : Int64} (h : t ≤ t') : Below (.cacheThresholdMs t) (.cacheThresholdMs t')
  | cacheThresholdNs {t t' : Int64} (h : t ≤ t') : Below (.cacheThresholdNs t) (.cacheThresholdNs t')

/-- Settings do not reverse the order of the numbers that they are given. -/
theorem Setting.Below.number?_le {a b : Setting} (h : a.Below b) {th : Threshold} {m : Int}
    (ha : a.number? th = some m) : ∃ n, b.number? th = some n ∧ m ≤ n := by
  cases h with
  | queryThresholdMs hle | cacheThresholdMs hle | cacheThresholdNs hle =>
      rw [Int64.le_iff_toInt_le] at hle
      cases th <;> cases ha
      exact ⟨_, rfl, by omega⟩

namespace Router

variable {H : Type}

/-- A threshold of a router. -/
def threshold (r : Router H) : Threshold → UInt64
  | .query => r.queryThresholdMs
  | .cache => r.cacheThresholdNs

/-- The threshold of slow queries does not depend on that of cache calls. -/
theorem threshold_query_of_cache (r : Router H) (n : UInt64) :
    ({ r with cacheThresholdNs := n } : Router H).threshold .query = r.threshold .query := rfl

/-- A setting sets a threshold to its exact number, and leaves a threshold that it does not set. -/
theorem threshold_tune (r : Router H) (a : Setting) (th : Threshold) :
    (((r.tune a).threshold th).toNat : Int) = (a.number? th).getD (r.threshold th).toNat := by
  cases a with
  | queryThresholdMs t =>
      cases th with
      | query => exact toNat_clampThreshold t
      | cache => rfl
  | cacheThresholdMs t =>
      cases th with
      | query =>
          -- The routers are not compared as they are, which would compute the nanoseconds.
          rw [tune, setCacheThresholdMs, threshold_query_of_cache]
          rfl
      | cache =>
          show ((millisToNanos (clampThreshold t)).toNat : Int) = _
          rw [toNat_millisToNanos, toNat_clampThreshold]
          rfl
  | cacheThresholdNs t =>
      cases th with
      | query => rfl
      | cache => exact toNat_clampThreshold t
  | filter f => cases th <;> rfl

/-- Of several settings of a threshold the latest one counts. -/
theorem threshold_tuneAll (r : Router H) (settings : List Setting) (th : Threshold) :
    (((settings.foldl tune r).threshold th).toNat : Int) =
      (latestNumber? settings th).getD (r.threshold th).toNat := by
  induction settings generalizing r with
  | nil => rfl
  | cons a rest ih =>
      rw [List.foldl_cons, ih, ← List.singleton_append, latestNumber?_append, Option.getD_or,
        latestNumber?_singleton, threshold_tune]

/-- The two units of cache calls do the same to a router. -/
theorem setCacheThresholdMs_eq (r : Router H) {t : Int64}
    (hlow : Int64.minValue.toInt ≤ t.toInt * 1000000)
    (hhigh : t.toInt * 1000000 ≤ Int64.maxValue.toInt) :
    r.setCacheThresholdMs t = r.setCacheThresholdNs (t * 1000000) := by
  rw [setCacheThresholdMs, setCacheThresholdNs, millisToNanos_clampThreshold hlow hhigh]

end Router

/-- The settings of a configuration. -/
def AgentConfig.settings (c : AgentConfig) : List Setting :=
  [.queryThresholdMs c.builtIn.sqlMaxQueryThresholdMs, .cacheThresholdMs c.builtIn.cacheThresholdMs,
    .filter c.builtIn.exceptionFilter]

namespace Agent

variable {H : Type}

/-- A configuration sets what threads can set as well, in the same way. -/
theorem router_applyRules (a : Agent H) (c : AgentConfig) (rules : List Rule) :
    (a.applyRules c rules).router = c.settings.foldl Router.tune a.router := rfl

theorem router_probe (a : Agent H) (introspect : Introspector) (unit : String) :
    (a.probe introspect unit).2.router = a.router := by
  rw [probe_eq]
  rfl

theorem threshold_dispatch (a : Agent H) (key : Option String) (react : H → Event → Reaction)
    (e : Event) (th : Threshold) :
    (a.dispatch key react e).2.router.threshold th = a.router.threshold th := by
  show (a.router.dispatch a.registry.index key react e).2.threshold th = _
  rw [Router.dispatch]
  cases a.router.offer a.registry.index key e <;> cases th <;> rfl

end Agent

/-! ## Sessions -/

namespace Session

variable {H : Type}

/-- A threshold as it is read in a session. -/
def threshold (s : Session H) (th : Threshold) : UInt64 := s.agent.router.threshold th

/-- The settings that a step comes to. A configuration that is refused sets nothing. -/
def Step.settings : Step H → List Setting
  | .turn ⟨_, .tune a⟩ => [a]
  | .call (.reconfigure c) =>
      match c.rules with
      | .ok _ => c.settings
      | .error _ => []
  | _ => []

/-- A step comes to no setting, to a single one, or to those of a configuration. -/
theorem Step.settings_cases (step : Step H) :
    step.settings = [] ∨ (∃ a, step.settings = [a]) ∨ ∃ c : AgentConfig, step.settings = c.settings := by
  unfold settings
  split
  · exact .inr (.inl ⟨_, rfl⟩)
  · split
    · exact .inr (.inr ⟨_, rfl⟩)
    · exact .inl rfl
  · exact .inl rfl

/-- No step has more than one setting of a threshold, so each of its settings is the latest one. -/
theorem latestNumber?_settings {step : Step H} {a : Setting} (hmem : a ∈ step.settings)
    {th : Threshold} {n : Int} (ha : a.number? th = some n) :
    latestNumber? step.settings th = some n := by
  rcases step.settings_cases with hsettings | ⟨b, hsettings⟩ | ⟨c, hsettings⟩
  · rw [hsettings] at hmem
    cases hmem
  · rw [hsettings, List.mem_singleton] at hmem
    subst hmem
    rw [hsettings, latestNumber?_singleton, ha]
  · rw [hsettings] at hmem ⊢
    -- A configuration sets each threshold once, and the filter has no number.
    simp only [AgentConfig.settings, List.mem_cons, List.not_mem_nil, or_false] at hmem
    rcases hmem with rfl | rfl | rfl <;> cases th <;> cases ha <;> rfl

theorem threshold_serve (a : Agent H) (c : Agent.Call H) (th : Threshold) :
    (((Agent.serve a c).2.router.threshold th).toNat : Int) =
      (latestNumber? (Step.call c).settings th).getD (a.router.threshold th).toNat := by
  cases c with
  | reconfigure c =>
      show (((a.reconfigured c).router.threshold th).toNat : Int) = _
      rw [Agent.reconfigured_eq, Step.settings]
      cases c.rules with
      | error e => rfl
      | ok rules =>
          dsimp only
          rw [Agent.router_applyRules, Router.threshold_tuneAll]
  | probe introspect unit =>
      show (((a.probe introspect unit).2.router.threshold th).toNat : Int) = _
      rw [Agent.router_probe]
      rfl
  | dispatch key react e =>
      show (((a.dispatch key react e).2.router.threshold th).toNat : Int) = _
      rw [Agent.threshold_dispatch]
      rfl

theorem threshold_operate (s : Traffic H) (t : Turn H) (th : Threshold) :
    (((Traffic.operate s t).2.router.threshold th).toNat : Int) =
      (latestNumber? (Step.turn t).settings th).getD (s.router.threshold th).toNat := by
  obtain ⟨thread, operation⟩ := t
  cases operation with
  | tune setting => exact s.router.threshold_tuneAll [setting] th
  | register name owner handler =>
      obtain ⟨handlers, hsettle⟩ := s.settle_register name owner handler
      rw [Traffic.operate, hsettle]
      cases th <;> rfl
  | registerFallback handler =>
      obtain ⟨fallback, hsettle⟩ := s.settle_registerFallback handler
      rw [Traffic.operate, hsettle]
      cases th <;> rfl
  | record unit kind => rfl
  | route action => rfl
  | submit c x =>
      rw [Traffic.operate_submit]
      cases th <;> rfl

/-- After a step, a threshold is what the settings of the step set it to, or what it was. -/
theorem threshold_perform (s : Session H) (step : Step H) (th : Threshold) :
    (((perform s step).2.threshold th).toNat : Int) =
      (latestNumber? step.settings th).getD (s.threshold th).toNat := by
  cases step with
  | call c => exact threshold_serve s.agent c th
  | turn t => exact threshold_operate s.traffic t th

/-- After any steps, a threshold is what the latest setting of it sets it to. -/
theorem threshold_after (s : Session H) (steps : List (Step H)) (th : Threshold) :
    (((perform.after s steps).threshold th).toNat : Int) =
      (latestNumber? (steps.flatMap Step.settings) th).getD (s.threshold th).toNat := by
  induction steps generalizing s with
  | nil => rfl
  | cons step rest ih =>
      rw [Machine.after_cons, ih, threshold_perform, List.flatMap_cons, latestNumber?_append,
        Option.getD_or]

/-- The value that a setting of a step leaves behind. -/
theorem threshold_perform_of_mem (s : Session H) {step : Step H} {a : Setting}
    (hmem : a ∈ step.settings) {th : Threshold} {n : Int} (ha : a.number? th = some n) :
    (((perform s step).2.threshold th).toNat : Int) = n := by
  rw [threshold_perform, latestNumber?_settings hmem ha, Option.getD_some]

/-- **Thresholds are exact.** In every session, whoever sets thresholds in whatever order, a threshold is the exact number
of the latest setting of it: numbers below zero count as zero, and milliseconds of cache calls as nanoseconds, up to the
greatest number of 64 bits. No setting sets a smaller threshold than the same setting of a smaller number. A threshold of
cache calls may be given in either unit, as long as its nanoseconds have 64 bits with their sign. A setting of one
threshold leaves the other one as it was. -/
theorem thresholds_exact (s : Session H) :
    (∀ steps th, (((perform.after s steps).threshold th).toNat : Int) =
        (latestNumber? (steps.flatMap Step.settings) th).getD (s.threshold th).toNat) ∧
      (∀ (s' : Session H) (step step' : Step H) (a b : Setting) th, a.Below b → a.number? th ≠ none →
        a ∈ step.settings → b ∈ step'.settings →
          (perform s step).2.threshold th ≤ (perform s' step').2.threshold th) ∧
      (∀ thread t, Int64.minValue.toInt ≤ t.toInt * 1000000 →
        t.toInt * 1000000 ≤ Int64.maxValue.toInt →
          perform s (.turn ⟨thread, .tune (.cacheThresholdMs t)⟩) =
            perform s (.turn ⟨thread, .tune (.cacheThresholdNs (t * 1000000))⟩)) ∧
      ∀ thread (a : Setting) th other, a.number? th ≠ none → other ≠ th →
        (perform s (.turn ⟨thread, .tune a⟩)).2.threshold other = s.threshold other := by
  refine ⟨s.threshold_after, ?_, ?_, ?_⟩
  · intro s' step step' a b th hbelow hsets ha hb
    -- What was set before the two steps is gone, so only the numbers of the two settings are left to compare.
    obtain ⟨m, hm⟩ := Option.ne_none_iff_exists'.1 hsets
    obtain ⟨n, hn, hle⟩ := hbelow.number?_le hm
    have hfirst := s.threshold_perform_of_mem ha hm
    have hsecond := s'.threshold_perform_of_mem hb hn
    rw [UInt64.le_iff_toNat_le]
    omega
  · intro thread t hlow hhigh
    show (none, s.withTraffic { s.traffic with router := s.agent.router.setCacheThresholdMs t }) = _
    rw [s.agent.router.setCacheThresholdMs_eq hlow hhigh]
    rfl
  · intro thread a th other hsets hne
    have hother := s.threshold_perform (.turn ⟨thread, .tune a⟩) other
    rw [Step.settings, latestNumber?_singleton, Setting.number?_eq_none_of_ne hsets hne] at hother
    rw [← UInt64.toNat_inj]
    exact Int.ofNat_inj.1 hother

/-- A configuration with the extreme numbers for both thresholds. -/
def extremeConfig : AgentConfig where
  builtIn :=
    { sqlMaxQueryThresholdMs := Int64.minValue, cacheThresholdMs := Int64.maxValue }

/-- The extreme numbers are set after others, and a refused configuration and a probe follow them. -/
def extremeSteps : List (Step Unit) :=
  [.turn ⟨1, .tune (.queryThresholdMs 150)⟩, .turn ⟨2, .tune (.cacheThresholdNs (-250))⟩,
    .call (.reconfigure extremeConfig),
    .call (.reconfigure { requestedTargets := [.exact ""] }),
    .call (.probe (fun _ => .panicked) "com/acme/Job")]

/-- A negative number of milliseconds. -/
def negativeStep : Step Unit := .turn ⟨1, .tune (.cacheThresholdMs (-1))⟩

/-- The greatest number of milliseconds that has 64 bits in nanoseconds. -/
def greatestInBothUnits : Int64 := 9223372036854

/-- The product of the greatest number of milliseconds does not wrap, and the configuration with it sets no smaller
threshold than a thread with a negative number. -/
theorem thresholds_exact_extreme :
    (((perform.after initial extremeSteps).threshold .query).toNat : Int) = 0 ∧
      (((perform.after initial extremeSteps).threshold .cache).toNat : Int) = 2 ^ 64 - 1 ∧
      (Setting.Below (.cacheThresholdMs (-1)) (.cacheThresholdMs Int64.maxValue) ∧
        (perform initial negativeStep).2.threshold .cache ≤
          (perform (initial : Session Unit) (.call (.reconfigure extremeConfig))).2.threshold .cache) ∧
      (Int64.minValue.toInt ≤ greatestInBothUnits.toInt * 1000000 ∧
        greatestInBothUnits.toInt * 1000000 ≤ Int64.maxValue.toInt ∧
        perform (initial : Session Unit) (.turn ⟨1, .tune (.cacheThresholdMs greatestInBothUnits)⟩) =
          perform initial (.turn ⟨1, .tune (.cacheThresholdNs (greatestInBothUnits * 1000000))⟩)) ∧
      (perform initial negativeStep).2.threshold .query = (initial : Session Unit).threshold .query := by
  obtain ⟨hlatest, hmonotone, hunits, hother⟩ := thresholds_exact (initial : Session Unit)
  have hbelow : Setting.Below (.cacheThresholdMs (-1)) (.cacheThresholdMs Int64.maxValue) :=
    .cacheThresholdMs (by decide)
  have hlow : Int64.minValue.toInt ≤ greatestInBothUnits.toInt * 1000000 := by decide
  have hhigh : greatestInBothUnits.toInt * 1000000 ≤ Int64.maxValue.toInt := by decide
  have hquery : latestNumber? (extremeSteps.flatMap Step.settings) .query = some 0 := by decide +kernel
  have hcache : latestNumber? (extremeSteps.flatMap Step.settings) .cache = some (2 ^ 64 - 1) := by
    decide +kernel
  refine ⟨?_, ?_, ⟨hbelow, ?_⟩, ⟨hlow, hhigh, hunits 1 _ hlow hhigh⟩, ?_⟩
  · rw [hlatest, hquery, Option.getD_some]
  · rw [hlatest, hcache, Option.getD_some]
  · exact hmonotone initial negativeStep (.call (.reconfigure extremeConfig)) _ _ .cache hbelow
      (by decide) List.mem_cons_self (List.mem_cons_of_mem _ List.mem_cons_self)
  · exact hother 1 (.cacheThresholdMs (-1)) .cache .query (by decide) (by decide)

end Session

end Instrumentation
