import Instrumentation.Config.Rules

set_option autoImplicit false

/-!
# The rules of a configuration

`toRule_eq` takes the conversion of a configured rule apart. `toRule_eq_ok_iff` says which configured rules become
rules and what these are. `origin_of_rules` says of all rules of a configuration that a registry knows them for
configured.
-/

namespace Instrumentation

namespace TargetConfig

variable {t : TargetConfig} {rule bare : Rule}

/-- The rule with the settings and the hooks of a configured one. -/
def settle (t : TargetConfig) (bare : Rule) : Rule :=
  { bare with
    reportCaughtExceptions := t.reportCaughtExceptions
    reportExecutionTime := t.reportExecutionTime
    hooks := HookTable.addAll [] (t.methods.map MethodConfig.hook) }

/-- The three stages of the conversion. -/
theorem toRule_eq :
    t.toRule =
      if t.name = "" then .error .emptyTargetName
      else
        match t.bareRule with
        | .error e => .error e
        | .ok bare =>
            if (t.methods.any fun m => m.name == "") = true then .error (.emptyMethodName t.name)
            else .ok (t.settle bare) := by
  unfold toRule
  by_cases hname : t.name = ""
  · rw [if_pos hname, if_pos hname]
    rfl
  · rw [if_neg hname, if_neg hname]
    cases t.bareRule <;> rfl

/-- A configured rule becomes a rule if it has a name, if its pattern is accepted and if all its methods have
names. -/
theorem toRule_eq_ok_iff :
    t.toRule = .ok rule ↔
      t.name ≠ "" ∧ (∀ m ∈ t.methods, m.name ≠ "") ∧
        ∃ bare, t.bareRule = .ok bare ∧ rule = t.settle bare := by
  have hnames : (t.methods.any fun m => m.name == "") = false ↔ ∀ m ∈ t.methods, m.name ≠ "" := by
    simp
  rw [toRule_eq, ← hnames]
  by_cases hname : t.name = ""
  · simp [hname]
  · cases t.bareRule with
    | error e => simp [hname]
    | ok bare =>
        cases t.methods.any fun m => m.name == "" with
        | true => simp [hname]
        | false => simp [hname, eq_comm]

theorem origin_of_bareRule (h : t.bareRule = .ok bare) : bare.origin = .configured := by
  unfold bareRule Rule.pattern at h
  split at h
  · dsimp only at h
    split at h
    · cases h
    · split at h
      · cases h
      · cases h
        rfl
  · cases h
    rfl

theorem origin_of_toRule (h : t.toRule = .ok rule) : rule.origin = .configured := by
  obtain ⟨-, -, bare, hbare, rfl⟩ := toRule_eq_ok_iff.1 h
  show bare.origin = .configured
  exact origin_of_bareRule hbare

end TargetConfig

/-- What is converted one by one comes from one of the given elements. -/
theorem mem_mapM_ok {α β ε : Type} {f : α → Except ε β} {as : List α} {bs : List β}
    (h : as.mapM f = .ok bs) : ∀ b ∈ bs, ∃ a ∈ as, f a = .ok b := by
  induction as generalizing bs with
  | nil =>
      cases h
      exact fun b hb => nomatch hb
  | cons a rest ih =>
      rw [List.mapM_cons] at h
      cases hfirst : f a with
      | error e =>
          rw [hfirst] at h
          cases h
      | ok first =>
          cases hlater : rest.mapM f with
          | error e =>
              rw [hfirst, hlater] at h
              cases h
          | ok later =>
              rw [hfirst, hlater] at h
              cases h
              refine List.forall_mem_cons.2 ⟨⟨a, List.mem_cons_self, hfirst⟩, fun b hb => ?_⟩
              obtain ⟨a', ha', hconv⟩ := ih hlater b hb
              exact ⟨a', List.mem_cons_of_mem a ha', hconv⟩

theorem AgentConfig.origin_of_rules {c : AgentConfig} {rules : List Rule}
    (h : c.rules = .ok rules) : ∀ rule ∈ rules, rule.origin = .configured := by
  intro rule hrule
  obtain ⟨t, -, ht⟩ := mem_mapM_ok h rule hrule
  exact TargetConfig.origin_of_toRule ht

end Instrumentation
