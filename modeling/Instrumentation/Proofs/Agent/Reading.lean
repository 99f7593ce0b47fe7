import Instrumentation.Proofs.Agent.Call
import Instrumentation.Proofs.Config.Rules
import Instrumentation.Proofs.Registry.LastRule

set_option autoImplicit false

/-!
# The reading of a configuration

What a configuration says about a unit, without any registry: `AgentConfig.planFor?` goes through the lists of
rules and takes the last one that applies. A new agent answers its first probe exactly so.

The order of the reading is that of a probe, not that of a configuration: configured exact rules come before
built-in ones, because they are added later, and pattern rules come after both, because a unit is matched
exactly first.
-/

namespace Instrumentation

namespace AgentConfig

/-- A configuration excludes the names that begin with a default beginning or one of its own, unless they are
marked as thread pools. -/
def Excludes (c : AgentConfig) (name : String) : Prop :=
  ¬ threadPoolMark.toList <:+: name.toList ∧
    ∃ b ∈ defaultExclusions ++ c.excludedPrefixes, b.toList <+: name.toList

instance (c : AgentConfig) (name : String) : Decidable (c.Excludes name) :=
  inferInstanceAs (Decidable (_ ∧ _))

/-- The exact rule of a unit: the last one, and none for an excluded unit. -/
def exactRule? (c : AgentConfig) (rules : List Rule) (unit : String) : Option Rule :=
  if c.Excludes unit then none else lastExact? rules unit

/-- The built-in rule of a unit, excluded or not. -/
def builtInRule? (c : AgentConfig) (unit : String) : Option Rule :=
  (builtInRules c.builtIn.selection).find? fun rule => rule.name == unit

/-- The pattern rule of a unit: the last one of its package whose own name is not excluded, if that one accepts
the simple name. -/
def patternRule? (c : AgentConfig) (rules : List Rule) (unit : String) : Option Rule := do
  let (package, simple) ← splitUnitName unit
  let rule ← lastPattern? (rules.filter fun rule => !decide (c.Excludes rule.name)) package
  if rule.accepts simple then some rule else none

/-- The plan of a unit under a configuration whose rules are `rules`. -/
def planFor? (c : AgentConfig) (rules : List Rule) (introspect : Introspector) (unit : String) :
    Option Plan :=
  match c.exactRule? rules unit with
  | some rule => some (.ofRule rule c.debugMode)
  | none =>
      match c.builtInRule? unit with
      | some rule => some (.ofRule rule c.debugMode)
      | none =>
          if c.Excludes unit then none
          else
            match c.patternRule? rules unit with
            | some rule => some (.ofRule (rule.forUnit unit) c.debugMode)
            | none =>
                if c.builtIn.executorDiscovery && (introspect unit).reportsExecutor then
                  some (.ofRule (threadPoolRule unit) c.debugMode)
                else none

/-! ## The registry of a new agent -/

/-- The registry of a new agent before the rules of its configuration are added. -/
def installed (c : AgentConfig) : Registry :=
  ((Registry.initial.setDebugMode c.debugMode).addExclusions c.excludedPrefixes).prune.install
    c.builtIn.selection

/-- The registry of a new agent. -/
def registry (c : AgentConfig) (rules : List Rule) : Registry :=
  (Registry.initial.setDebugMode c.debugMode).configure rules c.excludedPrefixes
    c.builtIn.selection

theorem registry_eq (c : AgentConfig) (rules : List Rule) :
    c.registry rules = rules.foldl Registry.addRule c.installed := rfl

section Installed

variable (c : AgentConfig)

theorem excluded_installed :
    c.installed.excluded = (NameSet.ofList defaultExclusions).insertAll c.excludedPrefixes :=
  Registry.install_excluded ..

theorem claimed_installed (unit : String) : c.installed.claimed.contains unit = false := by
  rw [installed, Registry.install_claimed]
  rfl

theorem isExcluded_of_excluded {r : Registry} (h : r.excluded = c.installed.excluded)
    (name : String) : r.isExcluded name = decide (c.Excludes name) := by
  rw [Bool.eq_iff_iff, decide_eq_true_iff, Registry.isExcluded, Registry.excludes_iff, h,
    excluded_installed, Excludes]
  refine and_congr_right fun _ => exists_congr fun b => and_congr_left fun _ => ?_
  rw [NameSet.ofList, NameSet.mem_insertAll, NameSet.mem_insertAll, List.mem_append]
  constructor
  · rintro (hb | hb | hb)
    · exact Or.inr hb
    · exact Or.inl hb
    · cases hb
  · rintro (hb | hb)
    · exact Or.inr (Or.inl hb)
    · exact Or.inl hb

/-- Only built-in rules wait before the rules of the configuration are added. -/
theorem pending_installed (unit : String) :
    c.installed.pending.find? unit = c.builtInRule? unit := by
  -- Nothing waits in a registry without rules, and at most one built-in rule names a unit.
  have hnone : ((Registry.initial.setDebugMode c.debugMode).addExclusions
      c.excludedPrefixes).prune.pending.find? unit = none := rfl
  have hwaits := Registry.find?_pending_install (s := c.builtIn.selection) rfl
    fun there hthere => absurd (hnone.symm.trans hthere) (Option.some_ne_none there).symm
  rw [installed, hwaits, hnone, lastExact?_builtInRules, builtInRule?, Option.or_none]

/-- No pattern rule is built in. -/
theorem patterns_installed (package : String) : c.installed.patterns.find? package = none := by
  rw [installed, Registry.find?_patterns_install]
  rfl

end Installed

section Registry

variable {c : AgentConfig} {rules : List Rule}

theorem excluded_registry : (c.registry rules).excluded = c.installed.excluded :=
  (Registry.configure_excluded ..).trans c.excluded_installed.symm

theorem debugMode_registry : (c.registry rules).debugMode = c.debugMode :=
  Registry.configure_debugMode ..

theorem claimed_registry (unit : String) : (c.registry rules).claimed.contains unit = false := by
  rw [registry, Registry.configure_claimed]
  rfl

variable (hrules : ∀ rule ∈ rules, rule.origin = .configured)

include hrules

/-- What waits for a unit is its configured exact rule, or else its built-in rule. -/
theorem pending_registry (unit : String) :
    (c.registry rules).pending.find? unit =
      (c.exactRule? rules unit).or (c.builtInRule? unit) := by
  rw [registry_eq, Registry.find?_pending_addRules hrules (c.claimed_installed unit),
    isExcluded_of_excluded c rfl, pending_installed, exactRule?]
  by_cases hexcluded : c.Excludes unit
  · rw [if_pos (decide_eq_true hexcluded), if_pos hexcluded]
    rfl
  · rw [if_neg (by simpa using hexcluded), if_neg hexcluded]

/-- The pattern rule of a unit is the last one of its package. -/
theorem patternFor?_registry (unit : String) :
    (c.registry rules).patternFor? unit = c.patternRule? rules unit := by
  have hlast : ∀ package, (c.registry rules).patterns.find? package =
      lastPattern? (rules.filter fun rule => !decide (c.Excludes rule.name)) package := by
    intro package
    rw [registry_eq, Registry.find?_patterns_addRules hrules, patterns_installed, Option.or_none]
    simp only [isExcluded_of_excluded c rfl]
  simp only [Registry.patternFor?, patternRule?, hlast]

omit hrules in
theorem mem_of_patternRule? {unit : String} {rule : Rule}
    (h : c.patternRule? rules unit = some rule) : rule ∈ rules := by
  unfold patternRule? at h
  obtain ⟨⟨package, simple⟩, -, h⟩ := Option.bind_eq_some_iff.1 h
  obtain ⟨last, hlast, h⟩ := Option.bind_eq_some_iff.1 h
  split at h
  · cases h
    have hmem := List.mem_of_getLast? hlast
    exact (List.mem_filter.1 (List.mem_filter.1 hmem).1).1
  · cases h

/-- Pattern rules are configured, so they give nothing to an excluded unit. -/
theorem matchPattern_registry (unit : String) :
    ((c.registry rules).matchPattern unit).1 =
      if c.Excludes unit then none
      else (c.patternRule? rules unit).map fun rule => .ofRule (rule.forUnit unit) c.debugMode := by
  rw [Registry.matchPattern_fst, patternFor?_registry hrules, debugMode_registry,
    isExcluded_of_excluded c excluded_registry]
  cases hrule : c.patternRule? rules unit with
  | none => simp
  | some rule =>
      -- The rule is one of the configured ones, so the exclusion of the unit counts.
      have hconfigured := hrules rule (mem_of_patternRule? hrule)
      by_cases hexcluded : c.Excludes unit
      · simp [hconfigured, hexcluded]
      · simp [hexcluded]

end Registry

end AgentConfig

/-! ## The first probe -/

namespace Agent

variable {H : Type} {c : AgentConfig} {rules : List Rule} {unit : String}

/-- A rule that waits decides. -/
theorem probe_applyRules_of_pending {rule : Rule} (introspect : Introspector)
    (h : (c.registry rules).pending.find? unit = some rule) :
    ((initial.applyRules c rules : Agent H).probe introspect unit).1 =
      some (.ofRule rule c.debugMode) := by
  have hmatch := Registry.matchUnit_of_pending h
  rw [c.debugMode_registry] at hmatch
  rw [probe_of_some introspect (congrArg Prod.fst hmatch)]

/-- Without a rule that waits, the pattern rules decide, and discovery after them. -/
theorem probe_applyRules_of_not_pending (hrules : ∀ rule ∈ rules, rule.origin = .configured)
    (introspect : Introspector) (h : (c.registry rules).pending.find? unit = none) :
    ((initial.applyRules c rules : Agent H).probe introspect unit).1 =
      if c.Excludes unit then none
      else
        match c.patternRule? rules unit with
        | some rule => some (.ofRule (rule.forUnit unit) c.debugMode)
        | none =>
            if c.builtIn.executorDiscovery && (introspect unit).reportsExecutor then
              some (.ofRule (threadPoolRule unit) c.debugMode)
            else none := by
  have hregistry : (initial.applyRules c rules : Agent H).registry = c.registry rules := rfl
  have hdiscovery : (initial.applyRules c rules : Agent H).executorDiscovery =
      c.builtIn.executorDiscovery := rfl
  obtain ⟨-, -, hexcluded, hclaimed⟩ := (c.registry rules).matchPattern_frame unit
  -- Matching a pattern changes neither the claimed units nor the exclusions, so discovery meets them as they
  -- were configured.
  rw [probe_fst, hregistry, hdiscovery, Registry.matchUnit_of_not_pending h,
    c.matchPattern_registry hrules, Registry.discoverExecutor_eq, hclaimed, c.claimed_registry,
    c.isExcluded_of_excluded (hexcluded.trans c.excluded_registry),
    Registry.matchPattern_debugMode, c.debugMode_registry]
  by_cases hexcluded : c.Excludes unit
  · simp [hexcluded]
  · cases c.patternRule? rules unit with
    | some rule => simp [hexcluded]
    | none =>
        cases c.builtIn.executorDiscovery <;> cases (introspect unit).reportsExecutor <;>
          simp [hexcluded]

/-- **The reading of a configuration.** A configuration whose rules are accepted makes an agent, and that agent
answers its first probe, whatever the unit and the loader, with the plan that the configuration says. -/
theorem probe_ofConfig (h : c.rules = .ok rules) (introspect : Introspector) (unit : String) :
    ∃ a : Agent H, ofConfig c = .ok a ∧
      (a.probe introspect unit).1 = c.planFor? rules introspect unit := by
  have hrules := AgentConfig.origin_of_rules h
  have hpending := c.pending_registry hrules unit
  refine ⟨initial.applyRules c rules, ?made, ?answer⟩
  case made =>
    rw [ofConfig, reconfigure, h]
    rfl
  case answer =>
    rw [AgentConfig.planFor?]
    cases hexact : c.exactRule? rules unit with
    | some rule =>
        rw [hexact, Option.some_or] at hpending
        exact probe_applyRules_of_pending introspect hpending
    | none =>
        rw [hexact, Option.none_or] at hpending
        cases hbuilt : c.builtInRule? unit with
        | some rule => exact probe_applyRules_of_pending introspect (hpending.trans hbuilt)
        | none =>
            exact probe_applyRules_of_not_pending hrules introspect (hpending.trans hbuilt)

/-- Two rules for one unit, of which the later one is for web requests. -/
def twiceConfigured : AgentConfig :=
  { requestedTargets :=
      [.exact "com/acme/Job", { TargetConfig.exact "com/acme/Job" with kind := .http }] }

/-- The agent of that configuration takes the unit for one that makes web requests. -/
theorem probe_ofConfig_twiceConfigured :
    ∃ a : Agent Unit, ofConfig twiceConfigured = .ok a ∧
      (a.probe (fun _ => .panicked) "com/acme/Job").1.map Plan.kind = some .http := by
  obtain ⟨a, hmade, hplan⟩ := probe_ofConfig (H := Unit) (c := twiceConfigured) rfl
    (fun _ => .panicked) "com/acme/Job"
  refine ⟨a, hmade, ?_⟩
  rw [hplan]
  decide +kernel

end Agent

end Instrumentation
