import Instrumentation.Proofs.Agent.Verdict
import Instrumentation.Proofs.Table

set_option autoImplicit false

/-!
# The order of probes

Probes of different units do not get in each other's way. The answers about one unit are the answer to its first probe
and then, for every further probe, the plan that the pattern rules give it (`answersAbout_eq`): other units have no part
in that, and a pattern rule is not used up. Probes in another order leave the same content behind (`sameContent_perm`),
because a probe respects content and two probes of different units commute up to content.

The index of units is the one place where this needs that rules stand under their keys, as they do in every state that
is reached: a rule that waited under the name of another unit would note its kind there.
-/

namespace Instrumentation

namespace Registry

/-- Two registries with the same content. Tables and sets may list it in another order. -/
structure SameContent (r s : Registry) : Prop where
  pending : r.pending.entries.Perm s.pending.entries
  patterns : r.patterns = s.patterns
  excluded : r.excluded = s.excluded
  claimed : r.claimed.names.Perm s.claimed.names
  builtInEnabled : r.builtInEnabled = s.builtInEnabled
  debugMode : r.debugMode = s.debugMode
  index : r.index.kinds.entries.Perm s.index.kinds.entries
  metrics : r.metrics = s.metrics

namespace SameContent

variable {r s t : Registry}

theorem refl (r : Registry) : r.SameContent r :=
  ⟨.refl _, rfl, rfl, .refl _, rfl, rfl, .refl _, rfl⟩

theorem trans (h : r.SameContent s) (h' : s.SameContent t) : r.SameContent t :=
  ⟨h.pending.trans h'.pending, h.patterns.trans h'.patterns, h.excluded.trans h'.excluded,
    h.claimed.trans h'.claimed, h.builtInEnabled.trans h'.builtInEnabled,
    h.debugMode.trans h'.debugMode, h.index.trans h'.index, h.metrics.trans h'.metrics⟩

theorem find?_pending (h : r.SameContent s) (unit : String) :
    r.pending.find? unit = s.pending.find? unit :=
  Table.perm_entries_iff.1 h.pending unit

theorem contains_claimed (h : r.SameContent s) (unit : String) :
    r.claimed.contains unit = s.claimed.contains unit :=
  NameSet.perm_names_iff.1 h.claimed unit

theorem kindOf?_index (h : r.SameContent s) (unit : String) :
    r.index.kindOf? unit = s.index.kindOf? unit :=
  Table.perm_entries_iff.1 h.index unit

/-- The same verdict about the same unit leaves the same content behind. -/
theorem conclude (h : r.SameContent s) {unit : String} {v : Verdict} (hv : v.IsFor unit) :
    (r.conclude unit v).SameContent (s.conclude unit v) where
  pending := Table.perm_entries_iff.2 fun u => by
    rw [find?_pending_conclude, find?_pending_conclude, h.find?_pending]
  patterns := by rw [conclude_patterns, conclude_patterns, h.patterns]
  excluded := by rw [conclude_excluded, conclude_excluded, h.excluded]
  claimed := NameSet.perm_names_iff.2 fun u => by
    rw [claimed_conclude, claimed_conclude, h.contains_claimed]
  builtInEnabled := by rw [conclude_builtInEnabled, conclude_builtInEnabled, h.builtInEnabled]
  debugMode := by rw [conclude_debugMode, conclude_debugMode, h.debugMode]
  index := Table.perm_entries_iff.2 fun u => by
    show (r.conclude unit v).index.kindOf? u = (s.conclude unit v).index.kindOf? u
    rw [kindOf?_conclude _ hv, kindOf?_conclude _ hv, h.kindOf?_index]
  metrics := by rw [conclude_metrics, conclude_metrics, h.metrics]

end SameContent

/-- Decisions are counted in any order. -/
theorem record_comm (m : RegistryMetrics) (d e : RegistryDecision) :
    (m.record d).record e = (m.record e).record d := by
  cases d <;> cases e <;> rfl

theorem foldl_record_comm (m : RegistryMetrics) (ds es : List RegistryDecision) :
    es.foldl RegistryMetrics.record (ds.foldl RegistryMetrics.record m) =
      ds.foldl RegistryMetrics.record (es.foldl RegistryMetrics.record m) := by
  rw [← List.foldl_append, ← List.foldl_append]
  exact List.perm_append_comm.foldl_eq' (fun d _ e _ m => record_comm m d e) m

/-- Verdicts about different units are concluded in any order. -/
theorem conclude_comm (r : Registry) {unit unit' : String} {v v' : Verdict} (hne : unit ≠ unit')
    (hv : v.IsFor unit) (hv' : v'.IsFor unit') :
    ((r.conclude unit v).conclude unit' v').SameContent
      ((r.conclude unit' v').conclude unit v) where
  pending := Table.perm_entries_iff.2 fun u => by
    simp only [find?_pending_conclude]
    split <;> split <;> rfl
  patterns := by simp only [conclude_patterns]
  excluded := by simp only [conclude_excluded]
  claimed := NameSet.perm_names_iff.2 fun u => by
    simp only [claimed_conclude]
    exact Bool.or_left_comm _ _ _
  builtInEnabled := by simp only [conclude_builtInEnabled]
  debugMode := by simp only [conclude_debugMode]
  index := Table.perm_entries_iff.2 fun u => by
    show ((r.conclude unit v).conclude unit' v').index.kindOf? u =
      ((r.conclude unit' v').conclude unit v).index.kindOf? u
    rw [kindOf?_conclude _ hv', kindOf?_conclude _ hv, kindOf?_conclude _ hv,
      kindOf?_conclude _ hv']
    by_cases hu : u = unit
    · subst hu
      rw [if_neg hne, if_neg hne]
    · rw [if_neg hu, if_neg hu]
  metrics := by
    simp only [conclude_metrics]
    exact foldl_record_comm ..

end Registry

/-- Some value and then, as often as is left, another one. -/
def firstThen {α : Type} (first later : α) : Nat → List α
  | 0 => []
  | n + 1 => first :: List.replicate n later

theorem firstThen_self {α : Type} (x : α) (n : Nat) : firstThen x x n = List.replicate n x := by
  cases n with
  | zero => rfl
  | succ n => rfl

namespace Agent

variable {H : Type} (introspect : Introspector)

/-- An agent is asked about a unit. It answers with a plan or with none. -/
def answer : Machine (Agent H) String (String × Option Plan)
  | a, unit => (some (unit, (a.probe introspect unit).1), (a.probe introspect unit).2)

/-- The answers about one unit, when an agent is asked about some units in order. -/
def answersAbout (a : Agent H) (units : List String) (unit : String) : List (Option Plan) :=
  (((answer introspect).given a units).filter fun reply => reply.1 == unit).map Prod.snd

variable {introspect} in
theorem answersAbout_cons_self (a : Agent H) (rest : List String) (unit : String) :
    a.answersAbout introspect (unit :: rest) unit =
      (a.probe introspect unit).1 ::
        (a.probe introspect unit).2.answersAbout introspect rest unit := by
  rw [answersAbout, Machine.given_cons, answer]
  simp [answersAbout]

variable {introspect} in
theorem answersAbout_cons_of_ne (a : Agent H) {probed unit : String} (h : probed ≠ unit)
    (rest : List String) :
    a.answersAbout introspect (probed :: rest) unit =
      (a.probe introspect probed).2.answersAbout introspect rest unit := by
  rw [answersAbout, Machine.given_cons, answer]
  simp [answersAbout, h]

/-! ## Single probes -/

theorem keyed_probe {a : Agent H} (unit : String) (h : a.registry.Keyed) :
    (a.probe introspect unit).2.registry.Keyed :=
  serve_invariant Registry.keyed_act a (.probe introspect unit) h

/-- The exact rule that a probe claims is the rule of the unit. -/
theorem isFor_verdict {a : Agent H} (unit : String) (h : a.registry.Keyed) :
    (a.verdict introspect unit).IsFor unit := by
  intro rule hrule
  cases hp : a.registry.pending.find? unit with
  | some waiting =>
      rw [verdict_of_pending introspect hp, Verdict.exact.injEq] at hrule
      rw [← hrule]
      exact (h.pending unit waiting hp).2
  | none =>
      rw [verdict_of_not_pending introspect hp, Registry.patternVerdict] at hrule
      split at hrule
      · cases hrule
      · split at hrule
        · cases hrule
        · split at hrule
          · cases hrule
          · cases hrule

/-- What the pattern rules say is not changed by a probe. -/
theorem matchPattern_probe (a : Agent H) (probed unit : String) :
    ((a.probe introspect probed).2.registry.matchPattern unit).1 =
      (a.registry.matchPattern unit).1 := by
  rw [Registry.matchPattern_eq, Registry.matchPattern_eq, probe_eq]
  show (Registry.patternVerdict (a.registry.conclude _ _) unit).plan? unit
    (a.registry.conclude _ _).debugMode = _
  rw [Registry.conclude_debugMode, Registry.patternVerdict_congr
    (Registry.conclude_patterns ..) (Registry.conclude_excluded ..)]

/-- A second probe of a unit is answered by the pattern rules. -/
theorem probe_probe (a : Agent H) (unit : String) :
    ((a.probe introspect unit).2.probe introspect unit).1 =
      (a.registry.matchPattern unit).1 := by
  rw [probe_eq (a.probe introspect unit).2, verdict_probe, Registry.matchPattern_eq, probe_eq]
  show Verdict.plan? _ (a.registry.conclude _ _).debugMode _ = _
  rw [Registry.conclude_debugMode]

/-! ## The answers about one unit -/

variable {introspect}

/-- **The answers about a unit are the answer to its first probe and then what the pattern rules say.** How often the
unit is asked about is all that counts of the other probes. -/
theorem answersAbout_eq (a : Agent H) (units : List String) (unit : String) :
    a.answersAbout introspect units unit =
      firstThen (a.probe introspect unit).1 (a.registry.matchPattern unit).1
        (units.count unit) := by
  induction units generalizing a with
  | nil => rfl
  | cons probed rest ih =>
      have hpattern := a.matchPattern_probe introspect probed unit
      by_cases h : probed = unit
      · subst h
        rw [answersAbout_cons_self, ih, hpattern, a.probe_probe introspect, firstThen_self,
          List.count_cons_self]
        rfl
      · rw [answersAbout_cons_of_ne a h, ih, hpattern,
          (a.agreeOn_probe introspect (Ne.symm h)).probe_fst_eq, List.count_cons_of_ne h]

/-! ## The state after some probes -/

/-- Two agents whose registries have the same content and that are equal otherwise. -/
structure SameContent (a b : Agent H) : Prop where
  registry : a.registry.SameContent b.registry
  router : a.router = b.router
  executorDiscovery : a.executorDiscovery = b.executorDiscovery

namespace SameContent

variable {a b c : Agent H}

theorem refl (a : Agent H) : a.SameContent a := ⟨.refl _, rfl, rfl⟩

theorem trans (h : a.SameContent b) (h' : b.SameContent c) : a.SameContent c :=
  ⟨h.registry.trans h'.registry, h.router.trans h'.router,
    h.executorDiscovery.trans h'.executorDiscovery⟩

theorem agreeOn (h : a.SameContent b) (unit : String) : a.AgreeOn unit b :=
  ⟨h.registry.find?_pending unit, h.registry.patterns, h.registry.excluded,
    h.registry.contains_claimed unit, h.registry.debugMode, h.executorDiscovery⟩

/-- A probe respects content. -/
theorem probe (h : a.SameContent b) (hkeyed : a.registry.Keyed) (unit : String) :
    (a.probe introspect unit).2.SameContent (b.probe introspect unit).2 := by
  rw [probe_eq, probe_eq, ← (h.agreeOn unit).verdict_eq introspect]
  exact ⟨h.registry.conclude (isFor_verdict introspect unit hkeyed), h.router,
    h.executorDiscovery⟩

theorem after (h : a.SameContent b) (hkeyed : a.registry.Keyed) (units : List String) :
    ((answer introspect).after a units).SameContent ((answer introspect).after b units) := by
  induction units generalizing a b with
  | nil => exact h
  | cons unit rest ih =>
      exact ih (h.probe hkeyed unit) (keyed_probe introspect unit hkeyed)

end SameContent

/-- Probes of different units commute. -/
theorem sameContent_probe_comm {a : Agent H} (hkeyed : a.registry.Keyed) {unit unit' : String}
    (hne : unit ≠ unit') :
    ((a.probe introspect unit).2.probe introspect unit').2.SameContent
      ((a.probe introspect unit').2.probe introspect unit).2 := by
  have hverdict := (a.agreeOn_probe introspect hne).verdict_eq introspect
  have hverdict' := (a.agreeOn_probe introspect hne.symm).verdict_eq introspect
  rw [probe_eq (a.probe introspect unit).2, probe_eq (a.probe introspect unit').2, hverdict,
    hverdict', probe_eq, probe_eq]
  exact ⟨Registry.conclude_comm a.registry hne (isFor_verdict introspect unit hkeyed)
    (isFor_verdict introspect unit' hkeyed), rfl, rfl⟩

/-- **Probes in another order leave the same content behind.** -/
theorem sameContent_perm {units units' : List String} (hperm : units.Perm units') {a b : Agent H}
    (hkeyed : a.registry.Keyed) (h : a.SameContent b) :
    ((answer introspect).after a units).SameContent ((answer introspect).after b units') := by
  induction hperm generalizing a b with
  | nil => exact h
  | cons unit _ ih => exact ih (keyed_probe introspect unit hkeyed) (h.probe hkeyed unit)
  | swap unit unit' rest =>
      have htwice : ((a.probe introspect unit').2.probe introspect unit).2.SameContent
          ((b.probe introspect unit).2.probe introspect unit').2 := by
        have hfirst : (a.probe introspect unit).2.SameContent (b.probe introspect unit).2 :=
          h.probe hkeyed unit
        have hcongr : ((a.probe introspect unit).2.probe introspect unit').2.SameContent
            ((b.probe introspect unit).2.probe introspect unit').2 :=
          hfirst.probe (keyed_probe introspect unit hkeyed) unit'
        by_cases heq : unit = unit'
        · subst heq
          exact hcongr
        · exact (sameContent_probe_comm hkeyed (Ne.symm heq)).trans hcongr
      exact htwice.after (keyed_probe introspect unit (keyed_probe introspect unit' hkeyed)) rest
  | trans _ _ ih ih' => exact (ih hkeyed (.refl a)).trans (ih' hkeyed h)

theorem eq_of_mem_tail_firstThen {α : Type} {first later x : α} {n : Nat}
    (h : x ∈ (firstThen first later n).tail) : x = later := by
  cases n with
  | zero => cases h
  | succ n => exact List.eq_of_mem_replicate h

/-- **The order of probes is immaterial between units.** In every state of an agent that some actions on its registry
lead to, whatever has been written to the index and the counts, and however the loader describes each unit: the
answers about a unit depend on how often it is asked about and on nothing else; probes in another order give the same
answers about every unit and leave the same content behind; and all answers about a unit from the second on are the
same, so that a pattern rule that gives a unit a plan does so every time. -/
theorem probe_order_immaterial (actions : List Registry.Action) (index : UnitIndex)
    (metrics : RegistryMetrics) (router : Router H) (executorDiscovery : Bool)
    (introspect : Introspector) :
    let registry : Registry := { Registry.act.after .initial actions with index, metrics }
    let a : Agent H := { registry, router, executorDiscovery }
    (∀ (units units' : List String) unit, units.count unit = units'.count unit →
        a.answersAbout introspect units unit = a.answersAbout introspect units' unit) ∧
      (∀ units units' : List String, units.Perm units' →
        (∀ unit,
          a.answersAbout introspect units unit = a.answersAbout introspect units' unit) ∧
        ((answer introspect).after a units).SameContent ((answer introspect).after a units')) ∧
      ∀ (units : List String) unit,
        (∀ x ∈ (a.answersAbout introspect units unit).tail,
          ∀ y ∈ (a.answersAbout introspect units unit).tail, x = y) ∧
        ∀ plan, registry.pending.find? unit = none →
          (registry.matchPattern unit).1 = some plan →
            ∀ x ∈ a.answersAbout introspect units unit, x = some plan := by
  intro registry a
  have hkeyed : a.registry.Keyed :=
    (Machine.invariant_run Registry.act Registry.keyed_act Registry.keyed_initial actions).of_eq
      rfl rfl
  have hcount : ∀ (units units' : List String) unit, units.count unit = units'.count unit →
      a.answersAbout introspect units unit = a.answersAbout introspect units' unit := by
    intro units units' unit h
    rw [answersAbout_eq, answersAbout_eq, h]
  refine ⟨hcount, ?_, ?_⟩
  · intro units units' hperm
    exact ⟨fun unit => hcount units units' unit (hperm.count_eq unit),
      sameContent_perm hperm hkeyed (.refl a)⟩
  · intro units unit
    rw [answersAbout_eq]
    refine ⟨?_, ?_⟩
    · intro x hx y hy
      rw [eq_of_mem_tail_firstThen hx, eq_of_mem_tail_firstThen hy]
    · intro plan hpending hplan x hx
      have hfirst : (a.probe introspect unit).1 = some plan := by
        rw [← Registry.matchUnit_of_not_pending hpending] at hplan
        rw [probe_of_some introspect hplan]
      have hlater : (a.registry.matchPattern unit).1 = some plan := hplan
      rw [hfirst, hlater, firstThen_self] at hx
      exact List.eq_of_mem_replicate hx

/-- A pattern rule for the jobs of a package, and an exact rule for one of them. -/
def jobActions : List Registry.Action :=
  [.insert ((Rule.pattern "com/acme/(Mail|Print)Job" .http).toOption.getD (.exact "" .other)),
    .insert (.exact "com/acme/MailJob" .cacheClient)]

/-- A loader that knows one executor. -/
def poolLoader : Introspector := fun unit =>
  if unit = "com/acme/Pool" then .described { name := unit, isExecutor := true }
  else .failed (.notFound unit)

/-- Probes of two jobs, an executor and a unit without rule, in two orders. The exact rule and the discovery serve once,
the pattern rule every time. -/
theorem probe_order_immaterial_jobs :
    let a : Agent Nat := ⟨Registry.act.after .initial jobActions, .initial, true⟩
    let units := ["com/acme/MailJob", "com/acme/Pool", "com/acme/PrintJob", "com/acme/MailJob",
      "com/acme/Pool", "com/acme/PrintJob"]
    let units' := ["com/acme/Pool", "com/acme/PrintJob", "com/acme/PrintJob", "com/acme/Pool",
      "com/acme/MailJob", "com/acme/MailJob"]
    units.Perm units' ∧
      ((answer poolLoader).after a units).SameContent ((answer poolLoader).after a units') ∧
      (a.answersAbout poolLoader units' "com/acme/MailJob").map (Option.map Plan.kind) =
        [some .cacheClient, some .http] ∧
      (a.answersAbout poolLoader units' "com/acme/Pool").map (Option.map Plan.kind) =
        [some .threadPool, none] ∧
      a.answersAbout poolLoader units "com/acme/PrintJob" =
        a.answersAbout poolLoader ["com/acme/PrintJob", "com/acme/PrintJob"]
          "com/acme/PrintJob" := by
  intro a units units'
  have hperm : units.Perm units' := by decide +kernel
  obtain ⟨hcount, horder, -⟩ := probe_order_immaterial (H := Nat) jobActions
    (Registry.act.after .initial jobActions).index (Registry.act.after .initial jobActions).metrics
    .initial true poolLoader
  obtain ⟨hanswers, hcontent⟩ := horder units units' hperm
  refine ⟨hperm, hcontent, ?_, ?_, hcount _ _ _ (by decide +kernel)⟩
  · show (a.answersAbout poolLoader units' "com/acme/MailJob").map (Option.map Plan.kind) = _
    rw [← hanswers "com/acme/MailJob"]
    decide +kernel
  · rw [← hanswers "com/acme/Pool"]
    decide +kernel

end Agent

end Instrumentation
