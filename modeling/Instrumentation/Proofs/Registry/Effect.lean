import Instrumentation.Proofs.UnitName
import Instrumentation.Registry.Configure
import Instrumentation.Registry.Discover
import Instrumentation.Registry.Match

set_option autoImplicit false

/-!
# What the operations of a registry do

For each operation, what it does to the rules that wait (`pending.find?`), to the pattern rules
(`patterns.find?`), to the excluded beginnings and to the claimed units. Later proofs use these statements and
do not open the operations.

`find?_pending_insert` and `find?_patterns_insert` say what adding a rule does, `matchUnit_of_pending` and
`matchUnit_of_not_pending` split a match into the claim of an exact rule and the use of a pattern rule, and
`concludeDiscovery_eq` says when the loader's answer leads to a plan.
-/

namespace Instrumentation

theorem NameSet.mem_insertAll {s : NameSet} {names : List String} {k : String} :
    k ∈ (s.insertAll names).names ↔ k ∈ names ∨ k ∈ s.names := by
  have h := contains_insertAll s names k
  rw [Bool.eq_iff_iff] at h
  simpa [contains] using h

namespace Registry

variable (r : Registry)

/-! ## Exclusion -/

/-- An excluded name lacks the mark of thread pools and begins with an excluded beginning. -/
theorem excludes_iff {beginnings : NameSet} {name : String} :
    excludes beginnings name = true ↔
      ¬ threadPoolMark.toList <:+: name.toList ∧
        ∃ b ∈ beginnings.names, b.toList <+: name.toList := by
  rw [excludes, Bool.and_eq_true, Bool.not_eq_true', ← Bool.not_eq_true, occursIn_iff,
    List.any_eq_true]
  simp only [beginsWith_iff]

/-- More beginnings exclude more names. -/
theorem isExcluded_mono {r s : Registry}
    (h : ∀ b ∈ r.excluded.names, b ∈ s.excluded.names) {unit : String}
    (hu : r.isExcluded unit = true) : s.isExcluded unit = true := by
  obtain ⟨hmark, b, hb, hbegins⟩ := excludes_iff.1 hu
  exact excludes_iff.2 ⟨hmark, b, h b hb, hbegins⟩

theorem isExcluded_congr {r s : Registry} (h : s.excluded = r.excluded) (unit : String) :
    s.isExcluded unit = r.isExcluded unit := by
  rw [isExcluded, isExcluded, h]

theorem dropsRule_congr {r s : Registry} (h : s.excluded = r.excluded) (rule : Rule) :
    s.dropsRule rule = r.dropsRule rule := by
  rw [dropsRule, dropsRule, isExcluded_congr h]

/-- A configured rule is dropped for its name alone. -/
theorem dropsRule_of_configured {rule : Rule} (h : rule.origin = .configured) :
    r.dropsRule rule = r.isExcluded rule.name := by
  simp [dropsRule, h]

/-! ## Waiting rules -/

variable {r} in
theorem hasPending_eq_false_iff {unit : String} :
    r.hasPending unit = false ↔ r.pending.find? unit = none := by
  rw [hasPending, Table.contains, Option.isSome_eq_false_iff, Option.isNone_iff_eq_none]

variable {r} in
theorem hasPending_iff {unit : String} :
    r.hasPending unit = true ↔ ∃ rule, r.pending.find? unit = some rule := by
  rw [hasPending, Table.contains, Option.isSome_iff_exists]

/-! ## Counting and giving plans -/

@[simp] theorem count_pending (d : RegistryDecision) : (r.count d).pending = r.pending := rfl
@[simp] theorem count_patterns (d : RegistryDecision) : (r.count d).patterns = r.patterns := rfl
@[simp] theorem count_excluded (d : RegistryDecision) : (r.count d).excluded = r.excluded := rfl
@[simp] theorem count_claimed (d : RegistryDecision) : (r.count d).claimed = r.claimed := rfl
@[simp] theorem count_debugMode (d : RegistryDecision) :
    (r.count d).debugMode = r.debugMode := rfl

@[simp] theorem givePlan_fst (rule : Rule) :
    (r.givePlan rule).1 = .ofRule rule r.debugMode := rfl

/-! ## Adding a rule -/

/-- The exact rule that waits for the unit of `rule` once `rule` is added. -/
def settled (rule : Rule) : Option Rule :=
  match r.pending.find? rule.name with
  | some there =>
      if rule.origin == .builtIn && there.origin == .configured then some there else some rule
  | none => if r.claimed.contains rule.name then none else some rule

/-- Adding a rule sets one pattern rule, sets one exact rule, or does nothing. -/
theorem insert_cases (rule : Rule) :
    r.insert rule = r ∨ (∃ t, r.insert rule = { r with patterns := t }) ∨
      ∃ t, r.insert rule = { r with pending := t } := by
  unfold insert
  split
  · exact Or.inr (Or.inl ⟨_, rfl⟩)
  · split
    · split
      · exact Or.inl rfl
      · exact Or.inr (Or.inr ⟨_, rfl⟩)
    · split
      · exact Or.inl rfl
      · exact Or.inr (Or.inr ⟨_, rfl⟩)

@[simp] theorem insert_excluded (rule : Rule) : (r.insert rule).excluded = r.excluded := by
  obtain h | ⟨t, h⟩ | ⟨t, h⟩ := r.insert_cases rule <;> rw [h]

@[simp] theorem insert_claimed (rule : Rule) : (r.insert rule).claimed = r.claimed := by
  obtain h | ⟨t, h⟩ | ⟨t, h⟩ := r.insert_cases rule <;> rw [h]

@[simp] theorem insert_debugMode (rule : Rule) : (r.insert rule).debugMode = r.debugMode := by
  obtain h | ⟨t, h⟩ | ⟨t, h⟩ := r.insert_cases rule <;> rw [h]

@[simp] theorem insert_index (rule : Rule) : (r.insert rule).index = r.index := by
  obtain h | ⟨t, h⟩ | ⟨t, h⟩ := r.insert_cases rule <;> rw [h]

@[simp] theorem insert_builtInEnabled (rule : Rule) :
    (r.insert rule).builtInEnabled = r.builtInEnabled := by
  obtain h | ⟨t, h⟩ | ⟨t, h⟩ := r.insert_cases rule <;> rw [h]

/-- Adding a rule touches the exact rule of its own unit only, and a pattern rule touches none. -/
theorem find?_pending_insert (rule : Rule) (unit : String) :
    (r.insert rule).pending.find? unit =
      if rule.isPattern = false ∧ unit = rule.name then r.settled rule
      else r.pending.find? unit := by
  cases hpattern : rule.isPattern with
  | true => simp [insert, hpattern]
  | false =>
      by_cases hunit : unit = rule.name
      · subst hunit
        simp only [insert, hpattern, Bool.false_eq_true, if_false, true_and, if_true, settled]
        cases hp : r.pending.find? rule.name with
        | some there =>
            dsimp only
            split
            · exact hp
            · simp [Table.find?_insert]
        | none =>
            dsimp only
            split
            · exact hp
            · simp [Table.find?_insert]
      · simp only [insert, hpattern, Bool.false_eq_true, if_false, hunit, and_false]
        cases hp : r.pending.find? rule.name with
        | some there =>
            dsimp only
            split
            · rfl
            · simp [Table.find?_insert, hunit]
        | none =>
            dsimp only
            split
            · rfl
            · simp [Table.find?_insert, hunit]

/-- Adding a pattern rule sets the pattern of its package, and an exact rule touches none. -/
theorem find?_patterns_insert (rule : Rule) (package : String) :
    (r.insert rule).patterns.find? package =
      if rule.isPattern = true ∧ package = rule.key then some rule
      else r.patterns.find? package := by
  cases hpattern : rule.isPattern with
  | true => simp [insert, hpattern, Table.find?_insert]
  | false =>
      simp only [insert, hpattern, Bool.false_eq_true, if_false, false_and]
      split <;> split <;> rfl

/-- A rule that waits after an addition waited before or is the added one. -/
theorem pending_insert_mem {rule waiting : Rule} {unit : String}
    (h : (r.insert rule).pending.find? unit = some waiting) :
    r.pending.find? unit = some waiting ∨
      (waiting = rule ∧ unit = rule.name ∧ rule.isPattern = false) := by
  rw [find?_pending_insert] at h
  split at h
  · next hset =>
    obtain ⟨hexact, rfl⟩ := hset
    unfold settled at h
    split at h
    · next there hp =>
      split at h
      · exact Or.inl (hp.trans h)
      · exact Or.inr ⟨(Option.some.inj h).symm, rfl, hexact⟩
    · split at h
      · cases h
      · exact Or.inr ⟨(Option.some.inj h).symm, rfl, hexact⟩
  · exact Or.inl h

/-- A pattern rule that stands after an addition stood before or is the added one. -/
theorem patterns_insert_mem {rule standing : Rule} {package : String}
    (h : (r.insert rule).patterns.find? package = some standing) :
    r.patterns.find? package = some standing ∨
      (standing = rule ∧ package = rule.key ∧ rule.isPattern = true) := by
  rw [find?_patterns_insert] at h
  split at h
  · next hset => exact Or.inr ⟨(Option.some.inj h).symm, hset.2, hset.1⟩
  · exact Or.inl h

/-- No rule is added for a claimed unit that no rule waits for. -/
theorem find?_pending_insert_of_claimed {rule : Rule} {unit : String}
    (hc : r.claimed.contains unit = true) (hp : r.pending.find? unit = none) :
    (r.insert rule).pending.find? unit = none := by
  rw [find?_pending_insert]
  split
  · next hset =>
    obtain ⟨-, rfl⟩ := hset
    simp [settled, hp, hc]
  · exact hp

/-! ## Configuring -/

@[simp] theorem addExclusions_claimed (bs : List String) :
    (r.addExclusions bs).claimed = r.claimed := rfl

@[simp] theorem prune_claimed : r.prune.claimed = r.claimed := rfl
@[simp] theorem prune_excluded : r.prune.excluded = r.excluded := rfl

theorem find?_pending_prune (unit : String) :
    r.prune.pending.find? unit = (r.pending.find? unit).filter fun rule => !r.dropsRule rule :=
  Table.find?_filter ..

theorem find?_patterns_prune (package : String) :
    r.prune.patterns.find? package =
      (r.patterns.find? package).filter fun rule => !r.dropsRule rule :=
  Table.find?_filter ..

@[simp] theorem addRule_excluded (rule : Rule) : (r.addRule rule).excluded = r.excluded := by
  unfold addRule
  split <;> simp

@[simp] theorem addRule_claimed (rule : Rule) : (r.addRule rule).claimed = r.claimed := by
  unfold addRule
  split <;> simp

@[simp] theorem addRule_debugMode (rule : Rule) : (r.addRule rule).debugMode = r.debugMode := by
  unfold addRule
  split <;> simp

@[simp] theorem addRule_index (rule : Rule) : (r.addRule rule).index = r.index := by
  unfold addRule
  split
  · rfl
  · exact r.insert_index rule

@[simp] theorem addRule_builtInEnabled (rule : Rule) :
    (r.addRule rule).builtInEnabled = r.builtInEnabled := by
  unfold addRule
  split
  · rfl
  · exact r.insert_builtInEnabled rule

/-- What no single addition changes, no list of additions changes. -/
theorem foldl_frame {α : Type} {add : Registry → Rule → Registry} (field : Registry → α)
    (h : ∀ r rule, field (add r rule) = field r) (rules : List Rule) :
    field (rules.foldl add r) = field r :=
  List.foldlRecOn (motive := fun s => field s = field r) rules add rfl
    fun s hs rule _ => (h s rule).trans hs

@[simp] theorem install_excluded (s : BuiltInSelection) : (r.install s).excluded = r.excluded :=
  foldl_frame _ excluded insert_excluded _

@[simp] theorem install_claimed (s : BuiltInSelection) : (r.install s).claimed = r.claimed :=
  foldl_frame _ claimed insert_claimed _

@[simp] theorem install_debugMode (s : BuiltInSelection) : (r.install s).debugMode = r.debugMode :=
  foldl_frame _ debugMode insert_debugMode _

@[simp] theorem install_index (s : BuiltInSelection) : (r.install s).index = r.index :=
  foldl_frame _ index insert_index _

section Configure

variable (rules : List Rule) (bs : List String) (s : BuiltInSelection)

/-- Configuring adds the given beginnings to the excluded ones. -/
@[simp] theorem configure_excluded :
    (r.configure rules bs s).excluded = r.excluded.insertAll bs := by
  rw [configure, foldl_frame _ excluded addRule_excluded, install_excluded, prune_excluded]
  rfl

@[simp] theorem configure_claimed : (r.configure rules bs s).claimed = r.claimed := by
  rw [configure, foldl_frame _ claimed addRule_claimed, install_claimed, prune_claimed,
    addExclusions_claimed]

@[simp] theorem configure_debugMode : (r.configure rules bs s).debugMode = r.debugMode := by
  rw [configure, foldl_frame _ debugMode addRule_debugMode, install_debugMode]
  rfl

@[simp] theorem configure_index : (r.configure rules bs s).index = r.index := by
  rw [configure, foldl_frame _ index addRule_index, install_index]
  rfl

/-- Built-in rules are on if the last configuration selects any. -/
@[simp] theorem configure_builtInEnabled : (r.configure rules bs s).builtInEnabled = s.enabled := by
  rw [configure, foldl_frame _ builtInEnabled addRule_builtInEnabled, install,
    foldl_frame _ builtInEnabled insert_builtInEnabled]

end Configure

/-! ## Matching -/

/-- The registry after the exact rule that waits for a unit is claimed. -/
def afterClaim (unit : String) (rule : Rule) : Registry :=
  (Registry.givePlan
    ({ r with
      pending := r.pending.erase unit
      claimed := r.claimed.insert unit }.count .claimedExact) rule).2

variable {r}

theorem claim?_of_pending {unit : String} {rule : Rule} (h : r.pending.find? unit = some rule) :
    r.claim? unit = some (.ofRule rule r.debugMode, r.afterClaim unit rule) := by
  rw [claim?, h]
  rfl

theorem claim?_of_not_pending {unit : String} (h : r.pending.find? unit = none) :
    r.claim? unit = none := by
  rw [claim?, h]
  rfl

/-- A unit that an exact rule waits for gets the plan of that rule and is claimed. -/
theorem matchUnit_of_pending {unit : String} {rule : Rule}
    (h : r.pending.find? unit = some rule) :
    r.matchUnit unit = (some (.ofRule rule r.debugMode), r.afterClaim unit rule) := by
  rw [matchUnit, claim?_of_pending h]

/-- Without an exact rule, the pattern rules decide. -/
theorem matchUnit_of_not_pending {unit : String} (h : r.pending.find? unit = none) :
    r.matchUnit unit = r.matchPattern unit := by
  rw [matchUnit, claim?_of_not_pending h]

variable (r)

@[simp] theorem afterClaim_excluded (unit : String) (rule : Rule) :
    (r.afterClaim unit rule).excluded = r.excluded := rfl

theorem find?_pending_afterClaim (unit u : String) (rule : Rule) :
    (r.afterClaim unit rule).pending.find? u = if u = unit then none else r.pending.find? u :=
  Table.find?_erase ..

theorem claimed_afterClaim (unit u : String) (rule : Rule) :
    (r.afterClaim unit rule).claimed.contains u = (u == unit || r.claimed.contains u) :=
  NameSet.contains_insert ..

/-- Patterns are used without any change to the rules, the exclusions and the claimed units. -/
theorem matchPattern_frame (unit : String) :
    (r.matchPattern unit).2.pending = r.pending ∧
      (r.matchPattern unit).2.patterns = r.patterns ∧
      (r.matchPattern unit).2.excluded = r.excluded ∧
      (r.matchPattern unit).2.claimed = r.claimed := by
  unfold matchPattern
  split
  · exact ⟨rfl, rfl, rfl, rfl⟩
  · split
    · exact ⟨rfl, rfl, rfl, rfl⟩
    · exact ⟨rfl, rfl, rfl, rfl⟩

@[simp] theorem matchPattern_debugMode (unit : String) :
    (r.matchPattern unit).2.debugMode = r.debugMode := by
  unfold matchPattern
  split
  · rfl
  · split <;> rfl

/-- The plan that the pattern rules give to a unit. -/
theorem matchPattern_fst (unit : String) :
    (r.matchPattern unit).1 =
      ((r.patternFor? unit).filter fun rule =>
        !(rule.origin == .configured && r.isExcluded unit)).map
          fun rule => .ofRule (rule.forUnit unit) r.debugMode := by
  unfold matchPattern
  cases hrule : r.patternFor? unit with
  | none => rfl
  | some rule =>
      cases hdrop : (rule.origin == .configured && r.isExcluded unit) with
      | true => simp only [if_true, Option.filter_some, hdrop]; rfl
      | false => simp only [Bool.false_eq_true, if_false, Option.filter_some, hdrop]; rfl

@[simp] theorem matchUnit_excluded (unit : String) :
    (r.matchUnit unit).2.excluded = r.excluded := by
  cases hp : r.pending.find? unit with
  | some rule => rw [matchUnit_of_pending hp, afterClaim_excluded]
  | none => rw [matchUnit_of_not_pending hp, (r.matchPattern_frame unit).2.2.1]

/-! ## Discovery -/

end Registry

/-- The loader describes an executor of which there can be instances. -/
def Introspection.reportsExecutor : Introspection → Bool
  | .described d => d.isConcreteExecutor
  | .failed _ => false
  | .panicked => false

namespace Registry

variable (r : Registry)

/-- The registry after a unit is discovered to be an executor. -/
def afterDiscovery (unit : String) : Registry :=
  (Registry.givePlan
    ({ r with claimed := r.claimed.insert unit }.count .discoveredExecutor)
    (threadPoolRule unit)).2

/-- Only the report of a concrete executor, about a unit that is not claimed, leads to a plan. Otherwise
nothing changes. -/
theorem concludeDiscovery_eq (unit : String) (answer : Introspection) :
    r.concludeDiscovery unit answer =
      if answer.reportsExecutor = true ∧ r.claimed.contains unit = false then
        (some (.ofRule (threadPoolRule unit) r.debugMode), r.afterDiscovery unit)
      else (none, r) := by
  cases answer with
  | described d =>
      cases hd : d.isConcreteExecutor <;> cases hc : r.claimed.contains unit <;>
        simp [concludeDiscovery, Introspection.reportsExecutor, hd, hc, afterDiscovery]
  | failed f => simp [concludeDiscovery, Introspection.reportsExecutor]
  | panicked => simp [concludeDiscovery, Introspection.reportsExecutor]

/-- Discovery gives a plan to a unit that is neither claimed nor excluded and that the loader reports as a
concrete executor. Otherwise nothing changes. -/
theorem discoverExecutor_eq (introspect : Introspector) (unit : String) :
    r.discoverExecutor introspect unit =
      if (introspect unit).reportsExecutor = true ∧ r.claimed.contains unit = false ∧
          r.isExcluded unit = false then
        (some (.ofRule (threadPoolRule unit) r.debugMode), r.afterDiscovery unit)
      else (none, r) := by
  rw [discoverExecutor, mayDiscover, concludeDiscovery_eq]
  cases hc : r.claimed.contains unit <;> cases he : r.isExcluded unit <;> simp

@[simp] theorem afterDiscovery_pending (unit : String) :
    (r.afterDiscovery unit).pending = r.pending := rfl

theorem claimed_afterDiscovery (unit u : String) :
    (r.afterDiscovery unit).claimed.contains u = (u == unit || r.claimed.contains u) :=
  NameSet.contains_insert ..

@[simp] theorem discoverExecutor_excluded (introspect : Introspector) (unit : String) :
    (r.discoverExecutor introspect unit).2.excluded = r.excluded := by
  rw [discoverExecutor_eq]
  split <;> rfl

end Registry

end Instrumentation
