import Mathlib.Data.List.Induction
import Mathlib.Data.List.Nodup
import Instrumentation.Plan
import Instrumentation.Proofs.Config.Rules

set_option autoImplicit false

/-!
# Hook tables by the hooks that were added

A hook that is added under a key that the table holds takes the place of the earlier hook, so the order of a table
is the order in which its keys came up first, and its contents are what was added last. `HookTable.Collects` states
this for a whole list of additions; `Collects.add` is the step and `collects_addAll` the run. A lookup goes by the
first key that matches, and `Collects.find?_eq` reads it off the list of additions. The main result,
`collects_and_instrument_of_equipped`, says which hook a plan uses for a method when the hooks of its rule were added
one by one, whether the plan is for the unit of the rule or for a unit that its pattern describes.
-/

namespace Instrumentation

/-- The names of a list at their first occurrences: one more at the end counts if it is new. -/
theorem eraseDups_concat {α : Type} [BEq α] [LawfulBEq α] [DecidableEq α] (l : List α) (a : α) :
    (l ++ [a]).eraseDups = if a ∈ l then l.eraseDups else l.eraseDups ++ [a] := by
  rw [List.eraseDups_append]
  by_cases ha : a ∈ l
  · simp [ha, List.removeAll]
  · simp [ha, List.removeAll, List.eraseDups_cons]

/-- Repetitions never decide which element is the first of its kind. -/
theorem find?_eraseDups {α : Type} [BEq α] [LawfulBEq α] [DecidableEq α] (p : α → Bool) (l : List α) :
    l.eraseDups.find? p = l.find? p := by
  -- From the end, where a repetition is dropped.
  induction l using List.reverseRecOn with
  | nil => rfl
  | append_singleton l a ih =>
      rw [eraseDups_concat]
      by_cases ha : a ∈ l
      · rw [if_pos ha, ih, List.find?_append]
        cases hfirst : l.find? p with
        | some first => rfl
        | none => simp [List.find?_eq_none.1 hfirst a ha]
      · rw [if_neg ha, List.find?_append, List.find?_append, ih]

namespace Hook

/-- A key applies to a method as the hooks under it do. -/
def keyMatches (method signature : String) (key : String × String) : Bool :=
  key.1 == method && (key.2 == "" || key.2 == signature)

/-- A method is matched under its own key or under the key of all its overloads. -/
theorem key_of_matchesMethod {h : Hook} {method signature : String}
    (hmatch : h.matchesMethod method signature = true) :
    h.key = (method, signature) ∨ h.key = (method, "") := by
  rw [matchesMethod, Bool.and_eq_true, Bool.or_eq_true, beq_iff_eq, beq_iff_eq, beq_iff_eq] at hmatch
  obtain ⟨hmethod, hany | hsignature⟩ := hmatch
  · exact .inr (by rw [key, hmethod, hany])
  · exact .inl (by rw [key, hmethod, hsignature])

end Hook

namespace HookTable

variable {additions : List Hook} {t : HookTable}

/-- The hook that was added last under a key. -/
def lastAdded? (additions : List Hook) (key : String × String) : Option Hook :=
  (additions.filter fun h => h.key == key).getLast?

theorem lastAdded?_concat (additions : List Hook) (hook : Hook) (key : String × String) :
    lastAdded? (additions ++ [hook]) key = if hook.key = key then some hook else lastAdded? additions key := by
  rw [lastAdded?, List.filter_append]
  by_cases hkey : hook.key = key
  · simp [hkey]
  · simp [hkey, lastAdded?]

/-- A table holds one hook for each key, in the order in which the keys were first added, and under each key the
hook that was added last. -/
structure Collects (additions : List Hook) (t : HookTable) : Prop where
  nodup : (t.map Hook.key).Nodup
  keys : t.map Hook.key = (additions.map Hook.key).eraseDups
  last : ∀ h ∈ t, lastAdded? additions h.key = some h

theorem add_cons (hook h : Hook) (hs : HookTable) :
    add hook (h :: hs) = if h.key = hook.key then hook :: hs else h :: add hook hs := rfl

/-- The keys of a table stay in their places, and a new key goes to the end. -/
theorem keys_add (hook : Hook) (t : HookTable) :
    (add hook t).map Hook.key =
      if hook.key ∈ t.map Hook.key then t.map Hook.key else t.map Hook.key ++ [hook.key] := by
  induction t with
  | nil => rfl
  | cons h hs ih =>
      rw [add_cons]
      by_cases hkey : h.key = hook.key
      · simp [hkey]
      · rw [if_neg hkey, List.map_cons, ih, List.map_cons]
        have hmem : hook.key ∈ h.key :: hs.map Hook.key ↔ hook.key ∈ hs.map Hook.key := by
          rw [List.mem_cons, or_iff_right (Ne.symm hkey)]
        by_cases hlater : hook.key ∈ hs.map Hook.key
        · rw [if_pos hlater, if_pos (hmem.2 hlater)]
        · rw [if_neg hlater, if_neg (mt hmem.1 hlater), List.cons_append]

/-- The hook that is added is the only one under its key; the hooks under other keys stay. -/
theorem eq_or_mem_of_mem_add {hook h : Hook} (hnodup : (t.map Hook.key).Nodup) (hmem : h ∈ add hook t) :
    h = hook ∨ (h ∈ t ∧ hook.key ≠ h.key) := by
  induction t with
  | nil => exact .inl (List.mem_singleton.1 hmem)
  | cons first hs ih =>
      obtain ⟨hfirst, hlater⟩ := List.nodup_cons.1 hnodup
      rw [add_cons] at hmem
      by_cases hkey : first.key = hook.key
      · rw [if_pos hkey] at hmem
        refine (List.mem_cons.1 hmem).imp id fun hin => ⟨List.mem_cons_of_mem _ hin, fun heq => ?_⟩
        exact hfirst (hkey.trans heq ▸ List.mem_map_of_mem hin)
      · rw [if_neg hkey] at hmem
        rcases List.mem_cons.1 hmem with rfl | hin
        · exact .inr ⟨List.mem_cons_self, Ne.symm hkey⟩
        · exact (ih hlater hin).imp id fun ⟨hold, hne⟩ => ⟨List.mem_cons_of_mem _ hold, hne⟩

/-- One more addition is collected. -/
theorem Collects.add (h : Collects additions t) (hook : Hook) :
    Collects (additions ++ [hook]) (HookTable.add hook t) := by
  have hkeys := keys_add hook t
  have hmem : hook.key ∈ t.map Hook.key ↔ hook.key ∈ additions.map Hook.key := by
    rw [h.keys, List.mem_eraseDups]
  refine ⟨?_, ?_, fun x hx => ?_⟩
  · rw [hkeys]
    by_cases hold : hook.key ∈ t.map Hook.key
    · rw [if_pos hold]
      exact h.nodup
    · rw [if_neg hold, ← List.concat_eq_append]
      exact h.nodup.concat hold
  · rw [hkeys, List.map_append, List.map_singleton, eraseDups_concat, ← h.keys]
    by_cases hold : hook.key ∈ t.map Hook.key
    · rw [if_pos hold, if_pos (hmem.1 hold)]
    · rw [if_neg hold, if_neg (mt hmem.2 hold)]
  -- Nothing else in the table has the key of the new hook, so what was added last under the other keys stays.
  · rw [lastAdded?_concat]
    rcases eq_or_mem_of_mem_add h.nodup hx with rfl | ⟨hold, hne⟩
    · exact if_pos rfl
    · rw [if_neg hne]
      exact h.last x hold

/-- More additions are collected one after the other. -/
theorem Collects.addAll (h : Collects additions t) (hooks : List Hook) :
    Collects (additions ++ hooks) (HookTable.addAll t hooks) := by
  induction hooks generalizing additions t with
  | nil => simpa [HookTable.addAll] using h
  | cons hook later ih =>
      have hlater := ih (h.add hook)
      rwa [List.append_assoc, List.singleton_append] at hlater

/-- A table that was empty at first collects all that was added to it. -/
theorem collects_addAll (hooks : List Hook) : Collects hooks (addAll [] hooks) := by
  have hempty : Collects [] [] := ⟨List.nodup_nil, rfl, fun _ h => nomatch h⟩
  exact hempty.addAll hooks

namespace Collects

variable {method signature : String}

/-- The key that a lookup finds is the first one added that matches. -/
theorem key_find? (h : Collects additions t) (method signature : String) :
    (t.find? method signature).map Hook.key =
      (additions.find? fun x => x.matchesMethod method signature).map Hook.key := by
  have hkeys : ∀ hooks : List Hook,
      (hooks.find? fun x => x.matchesMethod method signature).map Hook.key =
        (hooks.map Hook.key).find? (Hook.keyMatches method signature) := by
    intro hooks
    rw [List.find?_map]
    rfl
  rw [HookTable.find?, hkeys, hkeys, h.keys, find?_eraseDups]

/-- A lookup finds the hook that was added last under the first key that matches. -/
theorem find?_eq_some (h : Collects additions t) {first : Hook}
    (hfirst : additions.find? (fun x => x.matchesMethod method signature) = some first) :
    ∃ last, lastAdded? additions first.key = some last ∧ t.find? method signature = some last := by
  have hkey := h.key_find? method signature
  rw [hfirst, Option.map_some] at hkey
  obtain ⟨last, hfound, hsame⟩ := Option.map_eq_some_iff.1 hkey
  exact ⟨last, hsame ▸ h.last last (List.mem_of_find?_eq_some hfound), hfound⟩

/-- A lookup finds a hook if one that was added matches. -/
theorem isSome_find? (h : Collects additions t) :
    (t.find? method signature).isSome = true ↔ ∃ x ∈ additions, x.matchesMethod method signature = true := by
  rw [← Option.isSome_map, h.key_find?, Option.isSome_map, List.find?_isSome]

end Collects

end HookTable

namespace Rule

/-- A rule that is new, for one unit or for the names of a pattern, or made of a configured one, to which hooks were
added one after the other while its other settings were chosen at will. -/
inductive Equipped : List Hook → Rule → Prop where
  | exact (name : String) (kind : UnitKind) : Equipped [] (.exact name kind)
  | pattern {name : String} {kind : UnitKind} {rule : Rule} (h : Rule.pattern name kind = .ok rule) :
      Equipped [] rule
  | configured {t : TargetConfig} {rule : Rule} (h : t.toRule = .ok rule) :
      Equipped (t.methods.map MethodConfig.hook) rule
  | settled {additions : List Hook} {rule : Rule} (caught time : Bool) (origin : Origin)
      (h : Equipped additions rule) :
      Equipped additions
        { rule with reportCaughtExceptions := caught, reportExecutionTime := time, origin := origin }
  | added {additions : List Hook} {rule : Rule} (hook : Hook) (h : Equipped additions rule) :
      Equipped (additions ++ [hook]) (rule.addHook hook)

/-- The plans that a rule gives: for the unit that it names, and for a unit of its own copy. -/
inductive GivesPlan (rule : Rule) : String → Plan → Prop where
  | named (debugMode : Bool) : GivesPlan rule rule.name (.ofRule rule debugMode)
  | copied (unit : String) (debugMode : Bool) : GivesPlan rule unit (.ofRule (rule.forUnit unit) debugMode)

variable {additions : List Hook} {rule : Rule} {unit : String} {plan : Plan}

theorem hooks_of_pattern {name : String} {kind : UnitKind} (h : Rule.pattern name kind = .ok rule) :
    rule.hooks = [] := by
  unfold Rule.pattern at h
  dsimp only at h
  split at h
  · cases h
  · split at h
    · cases h
    · cases h
      rfl

/-- The table of a rule collects the hooks that were added to the rule. -/
theorem Equipped.collects (h : Equipped additions rule) : rule.hooks.Collects additions := by
  induction h with
  | exact name kind => exact HookTable.collects_addAll []
  | pattern hpattern =>
      rw [hooks_of_pattern hpattern]
      exact HookTable.collects_addAll []
  | configured htarget =>
      obtain ⟨-, -, bare, -, rfl⟩ := TargetConfig.toRule_eq_ok_iff.1 htarget
      exact HookTable.collects_addAll _
  | settled caught time origin _ ih => exact ih
  | added hook _ ih => exact ih.add hook

/-- A plan has the hooks and the flag of the rule that gives it, and names its own unit. -/
theorem GivesPlan.contents (h : rule.GivesPlan unit plan) :
    plan.unit = unit ∧ plan.hooks = rule.hooks ∧ plan.reportCaughtExceptions = rule.reportCaughtExceptions := by
  cases h with
  | named debugMode => exact ⟨rfl, rfl, rfl⟩
  | copied unit debugMode => exact ⟨rfl, rfl, rfl⟩

/-- **Which hook a plan uses.** The table of a rule holds one hook per key, the keys in the order of their first
additions and under each key the last addition. Every plan that the rule gives therefore instruments a method if one
of the hooks that were added matches it, at most under two keys: that of the method and that of all its overloads.
The instrumentation is then made by the hook that was added last under the key of the first addition that matches,
for the unit of the plan, and reports caught exceptions also where only the rule asks for it. -/
theorem collects_and_instrument_of_equipped (hequipped : Equipped additions rule) :
    rule.hooks.Collects additions ∧
      ∀ unit plan, rule.GivesPlan unit plan → ∀ (method signature : String) (access : UInt32),
        ((plan.instrument method signature access).isSome = true ↔
          ∃ h ∈ additions, h.matchesMethod method signature = true) ∧
        (∀ h ∈ additions, h.matchesMethod method signature = true →
          h.key = (method, signature) ∨ h.key = (method, "")) ∧
        ∀ first, additions.find? (fun h => h.matchesMethod method signature) = some first →
          ∃ last, HookTable.lastAdded? additions first.key = some last ∧
            plan.instrument method signature access =
              some { last.instrument { owner := unit, method, signature, access } with
                reportCaughtExceptions :=
                  (last.instrument { owner := unit, method, signature, access }).reportCaughtExceptions ||
                    rule.reportCaughtExceptions } := by
  have hcollects := hequipped.collects
  refine ⟨hcollects, fun unit plan hplan method signature access => ?_⟩
  obtain ⟨rfl, hhooks, hcaught⟩ := hplan.contents
  refine ⟨?_, fun h _ hmatch => Hook.key_of_matchesMethod hmatch, fun first hfirst => ?_⟩
  · rw [Plan.instrument, Option.isSome_map, hhooks]
    exact hcollects.isSome_find?
  · obtain ⟨last, hlast, hfound⟩ := hcollects.find?_eq_some hfirst
    refine ⟨last, hlast, ?_⟩
    rw [Plan.instrument, hhooks, hfound, hcaught]
    rfl

/-- A configured rule that times all overloads of a method and singles one out for its statements. -/
def overloadedTarget : TargetConfig :=
  { name := "com/acme/Repo"
    reportCaughtExceptions := true
    methods := [{ name := "get" }, { name := "get", signature := "(I)V", action := .sqlStatement }] }

/-- A later choice for all overloads. -/
def overloadsCached : Hook := { Hook.ofAction "get" "" .cacheCall with minDurationNanos := 5 }

/-- The rule of the configured one before anything is added. -/
def overloadedRule : Rule := overloadedTarget.settle (.exact "com/acme/Repo" .other)

/-- The hook for all overloads came first, so it hides the one that singles out an overload, and it acts as it was
added last. -/
theorem collects_and_instrument_of_equipped_overloaded :
    Equipped (overloadedTarget.methods.map MethodConfig.hook ++ [overloadsCached])
        (overloadedRule.addHook overloadsCached) ∧
      (Plan.ofRule ((overloadedRule.addHook overloadsCached).forUnit "com/acme/UserRepo") false).instrument
          "get" "(I)V" 1 =
        some
          { qualifiedName := "com/acme/UserRepo.get"
            signature := "(I)V"
            action := .cacheCall
            reportOnEntry := true
            reportCaughtExceptions := true
            minDurationNanos := 5 } := by
  have hequipped : Equipped (overloadedTarget.methods.map MethodConfig.hook ++ [overloadsCached])
      (overloadedRule.addHook overloadsCached) :=
    .added overloadsCached (.configured (by rfl))
  refine ⟨hequipped, ?_⟩
  obtain ⟨-, hplans⟩ := collects_and_instrument_of_equipped hequipped
  have hplan := hplans _ _ (.copied "com/acme/UserRepo" false) "get" "(I)V" 1
  obtain ⟨last, hlast, hmade⟩ := hplan.2.2 (MethodConfig.hook { name := "get" }) (by rfl)
  have hcached : some overloadsCached = some last := hlast
  rw [hmade, ← Option.some.inj hcached]
  rfl

end Rule

end Instrumentation
