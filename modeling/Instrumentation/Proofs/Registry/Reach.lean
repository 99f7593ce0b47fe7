import Instrumentation.Proofs.Registry.Action

set_option autoImplicit false

/-!
# How far patterns reach

A unit name is split after its last separator. The same split decides under which package a pattern rule stands and in
which package a unit is looked for, so that a pattern rule reaches the units of one package: not those of a package
inside or around it, and no unit without package. `Rule.Reaches` says which units these are, without the split, and
`patternFor?_eq_some_iff` that matching finds the rule of a unit exactly if a standing rule reaches it.
-/

namespace Instrumentation

namespace Rule

/-- A pattern rule reaches the units of its package whose simple names its pattern accepts. -/
inductive Reaches (rule : Rule) : String → Prop where
  | intro {package simple : String} {p : SimpleNamePattern} (hmatcher : rule.matcher = .pattern package p)
      (hpackage : IsPackage package) (hsimple : IsSimpleName simple) (haccepts : p.accepts simple = true) :
      Reaches rule (package ++ simple)

variable {rule : Rule}

/-- A rule that accepts a simple name is a pattern rule. -/
theorem accepts_eq_true_iff {simple : String} :
    rule.accepts simple = true ↔
      ∃ p, rule.matcher = .pattern rule.key p ∧ p.accepts simple = true := by
  obtain ⟨name, matcher, kind, caught, timing, hooks, origin⟩ := rule
  cases matcher with
  | exact => simp [accepts]
  | pattern package p => simp [accepts, key]

/-- The package of a unit that a rule reaches is the one under which the rule stands. -/
theorem reaches_iff {package simple : String} (hpackage : IsPackage package)
    (hsimple : IsSimpleName simple) :
    rule.Reaches (package ++ simple) ↔ rule.key = package ∧ rule.accepts simple = true := by
  rw [accepts_eq_true_iff]
  constructor
  · generalize hunit : package ++ simple = unit
    rintro ⟨hmatcher, hpackage', hsimple', haccepts⟩
    -- A name is split in one way, so both ways to write it are the same.
    have hsplit := splitUnitName_eq_some_iff.2 ⟨rfl, hpackage', hsimple'⟩
    rw [splitUnitName_eq_some_iff.2 ⟨hunit.symm, hpackage, hsimple⟩] at hsplit
    cases hsplit
    have hkey : rule.key = package := by rw [key, hmatcher]
    exact ⟨hkey, _, hkey ▸ hmatcher, haccepts⟩
  · rintro ⟨rfl, p, hmatcher, haccepts⟩
    exact .intro hmatcher hpackage hsimple haccepts

/-- No rule reaches a unit without package. -/
theorem not_reaches_of_isSimpleName {unit : String} (h : IsSimpleName unit) : ¬ rule.Reaches unit := by
  rintro ⟨hmatcher, hpackage, hsimple, haccepts⟩
  rw [← splitUnitName_eq_none_iff, splitUnitName_eq_some_iff.2 ⟨rfl, hpackage, hsimple⟩] at h
  cases h

/-- The matcher of a rule is made of the two parts of its name. -/
theorem matcher_of_pattern {name package simple : String} {kind : UnitKind}
    (h : Rule.pattern name kind = .ok rule) (hparts : (splitUnitName name).getD ("", name) = (package, simple)) :
    ∃ p, SimpleNamePattern.ofText? simple = some p ∧ rule.matcher = .pattern package p := by
  rw [Rule.pattern, hparts] at h
  dsimp only at h
  split at h
  · cases h
  · cases hp : SimpleNamePattern.ofText? simple with
    | none =>
        rw [hp] at h
        cases h
    | some p =>
        rw [hp] at h
        cases h
        exact ⟨p, rfl, rfl⟩

end Rule

namespace Registry

variable {r : Registry} {unit : String} {rule : Rule}

theorem patternFor?_of_split {package simple : String} (h : splitUnitName unit = some (package, simple)) :
    r.patternFor? unit = (r.patterns.find? package).filter fun rule => rule.accepts simple := by
  simp only [patternFor?, h, Option.bind_eq_bind, Option.bind_some]
  cases r.patterns.find? package <;> rfl

/-- A unit finds a pattern rule that reaches it, and no other. -/
theorem patternFor?_eq_some_iff (hkeyed : r.Keyed) :
    r.patternFor? unit = some rule ↔ r.patterns.find? rule.key = some rule ∧ rule.Reaches unit := by
  cases hsplit : splitUnitName unit with
  | none =>
      have hsimple := splitUnitName_eq_none_iff.1 hsplit
      rw [patternFor?, hsplit]
      exact ⟨nofun, fun h => absurd h.2 (Rule.not_reaches_of_isSimpleName hsimple)⟩
  | some parts =>
      obtain ⟨package, simple⟩ := parts
      obtain ⟨rfl, hpackage, hsimple⟩ := splitUnitName_eq_some_iff.1 hsplit
      rw [patternFor?_of_split hsplit, Option.filter_eq_some_iff, Rule.reaches_iff hpackage hsimple]
      constructor
      · rintro ⟨hstands, haccepts⟩
        have hkey := (hkeyed.patterns package rule hstands).2
        exact ⟨hkey ▸ hstands, hkey, haccepts⟩
      · rintro ⟨hstands, rfl, haccepts⟩
        exact ⟨hstands, haccepts⟩

/-- The plan of a pattern rule is given out to a unit that finds the rule. -/
theorem Effect.of_patternRule {s : Registry} {g : Grant} (h : r.Effect (some g) s)
    (hsource : g.source = .patternRule) :
    ∃ rule, r.patternFor? g.unit = some rule ∧ g.plan = .ofRule (rule.forUnit g.unit) r.debugMode := by
  cases h with
  | claimed waits => cases hsource
  | matched waits stands same => exact ⟨_, stands, rfl⟩
  | discovered free => cases hsource

theorem unit_of_matchGrant {g : Grant} (h : r.matchGrant unit = some g) : g.unit = unit := by
  obtain ⟨plan, -, rfl⟩ := Option.map_eq_some_iff.1 h
  rfl

/-- Where no exact rule waits and no exclusion applies, a pattern rule that a unit finds gives it a plan. -/
theorem matchUnit_of_patternFor? (hpending : r.hasPending unit = false)
    (hincluded : r.isExcluded unit = false) (hfound : r.patternFor? unit = some rule) :
    (r.matchUnit unit).1 = some (.ofRule (rule.forUnit unit) r.debugMode) := by
  rw [matchUnit_of_not_pending (hasPending_eq_false_iff.1 hpending), matchPattern_fst, hfound, hincluded]
  simp

/-- Rules stand under their keys in every state that a registry can get into. -/
theorem keyed_after (actions : List Action) : (act.after initial actions).Keyed :=
  Machine.invariant_run act keyed_act keyed_initial actions

/-- **A pattern rule reaches the units of one package.** Names are split after the last separator. After any actions of
any threads, the plan of a pattern rule goes to a unit of the package under which the rule stands, and to a simple name
that its pattern accepts. So no rule reaches a unit of another package or one without package, and a rule that is
written without separator reaches none at all. A unit that finds a rule in its package gets a plan under its own name,
unless an exact rule waits for it or it is excluded. -/
theorem patterns_reach_one_package (actions : List Action) :
    let r := act.after initial actions
    (∀ name, (splitUnitName name = none ↔ IsSimpleName name) ∧
      ∀ package simple, splitUnitName name = some (package, simple) ↔
        name = package ++ simple ∧ IsPackage package ∧ IsSimpleName simple) ∧
    (∀ unit g, r.matchGrant unit = some g → g.source = .patternRule →
      ∃ package simple rule p, unit = package ++ simple ∧ IsPackage package ∧ IsSimpleName simple ∧
        r.patterns.find? package = some rule ∧ rule.matcher = .pattern package p ∧
        p.accepts simple = true ∧ g.plan = .ofRule (rule.forUnit unit) r.debugMode) ∧
    (∀ unit rule, r.patternFor? unit = some rule →
      ¬ IsSimpleName unit ∧ ∀ package simple, IsPackage package → IsSimpleName simple →
        unit = package ++ simple → rule.key = package) ∧
    (∀ name kind rule, Rule.pattern name kind = .ok rule →
      (∀ package simple, splitUnitName name = some (package, simple) →
        ∃ p, SimpleNamePattern.ofText? simple = some p ∧ rule.matcher = .pattern package p) ∧
      (IsSimpleName name → ∀ unit other, r.patternFor? unit = some other →
        other.matcher ≠ rule.matcher)) ∧
    ∀ unit package simple rule, r.hasPending unit = false → r.isExcluded unit = false →
      splitUnitName unit = some (package, simple) → r.patterns.find? package = some rule →
      rule.accepts simple = true →
        ∃ plan, (r.matchUnit unit).1 = some plan ∧ plan.unit = unit := by
  intro r
  have hkeyed : r.Keyed := keyed_after actions
  refine ⟨fun name => ⟨splitUnitName_eq_none_iff, fun _ _ => splitUnitName_eq_some_iff⟩, ?_, ?_, ?_, ?_⟩
  · intro unit g hg hsource
    have heffect := r.effect_matchUnit unit
    rw [hg] at heffect
    obtain ⟨rule, hfound, hplan⟩ := heffect.of_patternRule hsource
    rw [unit_of_matchGrant hg] at hfound hplan
    obtain ⟨hstands, hmatcher, hpackage, hsimple, haccepts⟩ := (patternFor?_eq_some_iff hkeyed).1 hfound
    rw [Rule.key, hmatcher] at hstands
    exact ⟨_, _, rule, _, rfl, hpackage, hsimple, hstands, hmatcher, haccepts, hplan⟩
  · intro unit rule hfound
    have hreaches := ((patternFor?_eq_some_iff hkeyed).1 hfound).2
    refine ⟨fun hsimple => Rule.not_reaches_of_isSimpleName hsimple hreaches, ?_⟩
    rintro package simple hpackage hsimple rfl
    exact ((Rule.reaches_iff hpackage hsimple).1 hreaches).1
  · intro name kind rule hrule
    refine ⟨?_, ?_⟩
    · intro package simple hsplit
      have hparts : (splitUnitName name).getD ("", name) = (package, simple) := by rw [hsplit]; rfl
      exact Rule.matcher_of_pattern hrule hparts
    · intro hname unit other hfound hsame
      have hparts : (splitUnitName name).getD ("", name) = ("", name) := by
        rw [splitUnitName_eq_none_iff.2 hname]
        rfl
      obtain ⟨p, -, hmatcher⟩ := Rule.matcher_of_pattern hrule hparts
      -- The rule would stand under the empty text, which does not end in a separator.
      obtain ⟨-, hother, hpackage, -, -⟩ := (patternFor?_eq_some_iff hkeyed).1 hfound
      rw [hsame, hmatcher] at hother
      cases hother
      obtain ⟨front, hfront⟩ := isPackage_iff.1 hpackage
      simp at hfront
  · intro unit package simple rule hpending hincluded hsplit hstands haccepts
    have hfound : r.patternFor? unit = some rule := by
      rw [patternFor?_of_split hsplit, hstands, Option.filter_some, if_pos haccepts]
    exact ⟨_, matchUnit_of_patternFor? hpending hincluded hfound, rfl⟩

/-- The pattern rule of the data access objects of a package, as it is read. -/
def daoRule : Rule :=
  (Rule.pattern "com/acme/(User|Order)Dao" .jdbcStatement).toOption.getD (.exact "" .other)

theorem pattern_daoRule : Rule.pattern "com/acme/(User|Order)Dao" .jdbcStatement = .ok daoRule := by
  have hread : (Rule.pattern "com/acme/(User|Order)Dao" .jdbcStatement).toBool = true := by
    decide +kernel
  cases hrule : Rule.pattern "com/acme/(User|Order)Dao" .jdbcStatement with
  | error e =>
      rw [hrule] at hread
      cases hread
  | ok rule =>
      rw [daoRule, hrule]
      rfl

/-- The rule is added after an excluded beginning and after one of its units has claimed an exact rule. -/
def daoActions : List Action :=
  [.exclude "com/acme/Old", .insert (.exact "com/acme/UserDao" .other), .matchUnit "com/acme/UserDao",
    .insert daoRule]

/-- The claimed unit gets a second plan, of the pattern rule; a unit of a package inside does not find the rule,
whatever rule it finds. -/
theorem patterns_reach_one_package_dao :
    let r := act.after initial daoActions
    Rule.pattern "com/acme/(User|Order)Dao" .jdbcStatement = .ok daoRule ∧
      (∃ p, SimpleNamePattern.ofText? "(User|Order)Dao" = some p ∧
        daoRule.matcher = .pattern "com/acme/" p) ∧
      (∃ plan, (r.matchUnit "com/acme/UserDao").1 = some plan ∧ plan.unit = "com/acme/UserDao") ∧
      ∀ rule, r.patternFor? "com/acme/v2/UserDao" = some rule → rule.key = "com/acme/v2/" := by
  intro r
  obtain ⟨hsplit, -, hreaches, hwritten, hgiven⟩ := patterns_reach_one_package daoActions
  have hparts : splitUnitName "com/acme/UserDao" = some ("com/acme/", "UserDao") := by decide +kernel
  refine ⟨pattern_daoRule, ?_, ?_, ?_⟩
  · exact (hwritten _ _ _ pattern_daoRule).1 "com/acme/" "(User|Order)Dao" (by decide +kernel)
  · have hstands : r.patterns.find? "com/acme/" = some daoRule := by
      show (Registry.insert _ daoRule).patterns.find? "com/acme/" = some daoRule
      rw [find?_patterns_insert, if_pos (by decide +kernel)]
    exact hgiven "com/acme/UserDao" "com/acme/" "UserDao" daoRule (by decide +kernel)
      (by decide +kernel) hparts hstands (by decide +kernel)
  · intro rule hfound
    have hinside : splitUnitName "com/acme/v2/UserDao" = some ("com/acme/v2/", "UserDao") := by
      decide +kernel
    obtain ⟨hname, hpackage, hsimple⟩ := (hsplit _).2 _ _ |>.1 hinside
    exact (hreaches _ rule hfound).2 _ _ hpackage hsimple hname

end Registry

end Instrumentation
