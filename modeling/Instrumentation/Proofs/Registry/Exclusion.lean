import Instrumentation.Proofs.Registry.BuiltIn
import Instrumentation.Proofs.Registry.Call

set_option autoImplicit false

/-!
# Excluded units

An excluded unit gets no plan from a configured rule and none from discovery, whenever the exclusion came: the
only plan it can get is the one of a built-in rule that waits for it. And an excluded unit stays excluded.

Matching an exact rule does not look at the exclusions. What makes it safe is the invariant `Guarded`: a rule
that waits is built in, or its name is not excluded. New beginnings break it until the excluded rules are
removed (`guarded_prune`), and every later addition keeps it.
-/

namespace Instrumentation

namespace Registry

/-- A call of the list installs the rule as one of the built-in rules that it selects. -/
def Installs (calls : List Call) (rule : Rule) : Prop :=
  ∃ rules beginnings selection,
    Call.configure rules beginnings selection ∈ calls ∧ rule ∈ builtInRules selection

/-- Exclusions are respected: a rule that waits for a unit is built in, and then one of the `installed` ones, or
it is configured and the unit is not excluded. Pattern rules are configured. -/
structure Guarded (installed : Rule → Prop) (r : Registry) : Prop where
  pending : ∀ unit rule, r.pending.find? unit = some rule →
    (rule.origin = .builtIn ∧ installed rule) ∨
      (rule.origin = .configured ∧ r.isExcluded unit = false)
  patterns : ∀ package rule, r.patterns.find? package = some rule → rule.origin = .configured

section Guarded

variable {installed : Rule → Prop} {r : Registry}

theorem guarded_initial : Guarded installed initial where
  pending unit rule h := by cases h
  patterns package rule h := by cases h

theorem Guarded.of_eq {s : Registry} (h : Guarded installed r) (hpending : s.pending = r.pending)
    (hpatterns : s.patterns = r.patterns) (hexcluded : s.excluded = r.excluded) :
    Guarded installed s where
  pending unit rule hp := by
    rw [hpending] at hp
    rw [isExcluded_congr hexcluded]
    exact h.pending unit rule hp
  patterns := hpatterns ▸ h.patterns

/-- Removing the excluded rules makes up for new beginnings. -/
theorem guarded_prune (h : Guarded installed r) (hkeyed : r.Keyed) (beginnings : List String) :
    Guarded installed (r.addExclusions beginnings).prune where
  pending unit rule hp := by
    rw [find?_pending_prune, Option.filter_eq_some_iff] at hp
    obtain ⟨hp, hkept⟩ := hp
    rcases h.pending unit rule hp with hbuilt | ⟨hconfigured, -⟩
    · exact Or.inl hbuilt
    · refine Or.inr ⟨hconfigured, ?_⟩
      rw [dropsRule_of_configured _ hconfigured, (hkeyed.pending unit rule hp).2,
        Bool.not_eq_true'] at hkept
      exact hkept
  patterns package rule hp := by
    rw [find?_patterns_prune, Option.filter_eq_some_iff] at hp
    exact h.patterns package rule hp.1

theorem Guarded.insert_builtIn (h : Guarded installed r) {rule : Rule}
    (horigin : rule.origin = .builtIn) (hexact : rule.isPattern = false)
    (hinstalled : installed rule) : Guarded installed (r.insert rule) where
  pending unit waiting hp := by
    rw [isExcluded_congr (r.insert_excluded rule)]
    rcases r.pending_insert_mem hp with hp | ⟨rfl, -, -⟩
    · exact h.pending unit waiting hp
    · exact Or.inl ⟨horigin, hinstalled⟩
  patterns package standing hp := by
    rcases r.patterns_insert_mem hp with hp | ⟨rfl, -, hpattern⟩
    · exact h.patterns package standing hp
    · rw [hexact] at hpattern
      cases hpattern

theorem Guarded.addRule_configured (h : Guarded installed r) {rule : Rule}
    (horigin : rule.origin = .configured) : Guarded installed (r.addRule rule) := by
  unfold addRule
  cases hdrop : r.dropsRule rule with
  | true => exact h.of_eq rfl rfl rfl
  | false =>
      rw [dropsRule_of_configured r horigin] at hdrop
      refine ⟨fun unit waiting hp => ?_, fun package standing hp => ?_⟩
      · rw [if_neg Bool.false_ne_true] at hp ⊢
        rw [isExcluded_congr (r.insert_excluded rule)]
        rcases r.pending_insert_mem hp with hp | ⟨rfl, rfl, -⟩
        · exact h.pending unit waiting hp
        · exact Or.inr ⟨horigin, hdrop⟩
      · rcases r.patterns_insert_mem hp with hp | ⟨rfl, -, -⟩
        · exact h.patterns package standing hp
        · exact horigin

theorem Guarded.configure (h : Guarded installed r) (hkeyed : r.Keyed) {rules : List Rule}
    (beginnings : List String) {selection : BuiltInSelection}
    (hrules : ∀ rule ∈ rules, rule.origin = .configured)
    (hbuilt : ∀ rule ∈ builtInRules selection, installed rule) :
    Guarded installed (r.configure rules beginnings selection) := by
  -- The invariant does not hold right after the new beginnings, only once the rules are pruned.
  have hpruned : Guarded installed (r.addExclusions beginnings).prune :=
    guarded_prune h hkeyed beginnings
  have hinstalled : Guarded installed ((r.addExclusions beginnings).prune.install selection) := by
    refine List.foldlRecOn _ _ (hpruned.of_eq rfl rfl rfl) ?_
    intro s hs rule hrule
    obtain ⟨horigin, hexact⟩ := BuiltIn.origin_of_mem hrule
    exact hs.insert_builtIn horigin hexact (hbuilt rule hrule)
  exact List.foldlRecOn rules _ hinstalled
    fun s hs rule hrule => hs.addRule_configured (hrules rule hrule)

theorem Guarded.matchUnit (h : Guarded installed r) (unit : String) :
    Guarded installed (r.matchUnit unit).2 := by
  cases hp : r.pending.find? unit with
  | some rule =>
      rw [matchUnit_of_pending hp]
      refine ⟨fun u waiting hw => ?_, h.patterns⟩
      rw [find?_pending_afterClaim] at hw
      split at hw
      · cases hw
      · exact h.pending u waiting hw
  | none =>
      obtain ⟨hpending, hpatterns, hexcluded, -⟩ := r.matchPattern_frame unit
      rw [matchUnit_of_not_pending hp]
      exact h.of_eq hpending hpatterns hexcluded

theorem Guarded.discover (h : Guarded installed r) (introspect : Introspector) (unit : String) :
    Guarded installed (r.discoverExecutor introspect unit).2 := by
  rw [discoverExecutor_eq]
  split
  · exact h.of_eq rfl rfl rfl
  · exact h

end Guarded

/-- Every run of calls whose rules come from configurations respects the exclusions. -/
theorem guarded_serve {calls : List Call} (hcalls : ∀ call ∈ calls, call.FromConfiguration) :
    Guarded (Installs calls) (serve.after initial calls) := by
  have hrun : Guarded (Installs calls) (serve.after initial calls) ∧
      (serve.after initial calls).Keyed := by
    -- Removing rules goes by their names, so the invariant needs rules to wait under their names.
    refine Machine.invariant_run_of_mem serve
      (I := fun r => Guarded (Installs calls) r ∧ r.Keyed) ?_ ⟨guarded_initial, keyed_initial⟩
    intro r call hcall hr
    refine ⟨?_, serve_invariant keyed_act r call hr.2⟩
    cases call with
    | configure rules beginnings selection =>
        exact hr.1.configure hr.2 beginnings (hcalls _ hcall)
          fun rule hrule => ⟨rules, beginnings, selection, hcall, hrule⟩
    | matchUnit unit => exact hr.1.matchUnit unit
    | discover introspect unit => exact hr.1.discover introspect unit
  exact hrun.1

/-- An excluded unit gets no plan from a registry that respects the exclusions, unless a built-in rule waits
for it. -/
theorem Guarded.matchUnit_of_excluded {installed : Rule → Prop} {r : Registry}
    (h : Guarded installed r) {unit : String} (hu : r.isExcluded unit = true) {plan : Plan}
    (hplan : (r.matchUnit unit).1 = some plan) :
    ∃ rule, r.pending.find? unit = some rule ∧ rule.origin = .builtIn ∧ installed rule ∧
      plan = .ofRule rule r.debugMode := by
  cases hp : r.pending.find? unit with
  | some rule =>
      rw [matchUnit_of_pending hp] at hplan
      cases hplan
      rcases h.pending unit rule hp with ⟨horigin, hinstalled⟩ | ⟨-, hfree⟩
      · exact ⟨rule, rfl, horigin, hinstalled, rfl⟩
      · rw [hu] at hfree
        cases hfree
  | none =>
      -- A pattern rule is configured, and configured rules do not apply to an excluded unit.
      rw [matchUnit_of_not_pending hp, matchPattern_fst, Option.map_eq_some_iff] at hplan
      obtain ⟨rule, hrule, -⟩ := hplan
      obtain ⟨hrule, hkept⟩ := Option.filter_eq_some_iff.1 hrule
      obtain ⟨package, simple, -, hstands⟩ : ∃ package simple,
          splitUnitName unit = some (package, simple) ∧
            r.patterns.find? package = some rule := by
        unfold patternFor? at hrule
        simp only [Option.bind_eq_bind, Option.bind_eq_some_iff] at hrule
        obtain ⟨⟨package, simple⟩, hsplit, found, hfound, hif⟩ := hrule
        split at hif
        · cases hif
          exact ⟨package, simple, hsplit, hfound⟩
        · cases hif
      rw [h.patterns package rule hstands, hu] at hkept
      cases hkept

/-- **Excluded units.** Whenever a unit is excluded, in any run of calls whose rules come from configurations,
discovery gives it no plan, the only rule that can still give it a plan is a built-in rule that the run
installed, and it stays excluded whatever calls follow. -/
theorem excluded_unit_gets_built_in_rules_only (calls : List Call)
    (hcalls : ∀ call ∈ calls, call.FromConfiguration) (unit : String)
    (hu : (serve.after initial calls).isExcluded unit = true) :
    (∀ introspect, ((serve.after initial calls).discoverExecutor introspect unit).1 = none) ∧
      (∀ plan, ((serve.after initial calls).matchUnit unit).1 = some plan →
        ∃ rule, (serve.after initial calls).pending.find? unit = some rule ∧
          rule.origin = .builtIn ∧ Installs calls rule ∧
          plan = .ofRule rule (serve.after initial calls).debugMode) ∧
      ∀ later, (serve.after initial (calls ++ later)).isExcluded unit = true := by
  refine ⟨?_, ?_, ?_⟩
  · intro introspect
    rw [discoverExecutor_eq, hu]
    simp
  · intro plan hplan
    exact (guarded_serve hcalls).matchUnit_of_excluded hu hplan
  · intro later
    rw [Machine.after_append]
    exact isExcluded_after _ later hu

/-- All built-in rules are installed, and after a match the names of one of them are excluded. -/
def exclusionRun : List Call :=
  [.configure [.exact "com/acme/Job" .other] [] .all, .matchUnit "com/acme/Job",
    .configure [.exact "okhttp3/Cache" .other] ["okhttp3/"] .none]

/-- At the end of that run the built-in rule still gives its plan to the excluded unit, and it is the only one
that can. -/
theorem excluded_realCall_gets_built_in_rule :
    (∀ call ∈ exclusionRun, call.FromConfiguration) ∧
      (serve.after initial exclusionRun).isExcluded "okhttp3/RealCall" = true ∧
      (∀ introspect, ((serve.after initial exclusionRun).discoverExecutor introspect
        "okhttp3/RealCall").1 = none) ∧
      ∃ rule, ((serve.after initial exclusionRun).matchUnit "okhttp3/RealCall").1 =
          some (.ofRule rule false) ∧
        rule.kind = .http ∧ rule.origin = .builtIn ∧ Installs exclusionRun rule := by
  have hcalls : ∀ call ∈ exclusionRun, call.FromConfiguration := by
    intro call hcall
    simp only [exclusionRun, List.mem_cons, List.not_mem_nil, or_false] at hcall
    rcases hcall with rfl | rfl | rfl
    · exact fun rule hrule => by rw [List.mem_singleton.1 hrule]; rfl
    · exact trivial
    · exact fun rule hrule => by rw [List.mem_singleton.1 hrule]; rfl
  have hu : (serve.after initial exclusionRun).isExcluded "okhttp3/RealCall" = true := by decide
  obtain ⟨hdiscover, hmatch, -⟩ :=
    excluded_unit_gets_built_in_rules_only exclusionRun hcalls "okhttp3/RealCall" hu
  obtain ⟨plan, hplan, hkind⟩ := Option.map_eq_some_iff.1
    (show ((serve.after initial exclusionRun).matchUnit "okhttp3/RealCall").1.map Plan.kind =
      some .http by decide +kernel)
  obtain ⟨rule, -, horigin, hinstalls, rfl⟩ := hmatch plan hplan
  exact ⟨hcalls, hu, hdiscover, rule, hplan, hkind, horigin, hinstalls⟩

end Registry

end Instrumentation
