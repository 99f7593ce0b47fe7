import Instrumentation.Proofs.Registry.Call

set_option autoImplicit false

/-!
# Attempts at discovery

A unit may be asked about many times before the loader can describe it. An attempt that does not find a concrete
executor leaves the registry exactly as it was, so that any number of them costs nothing: the first attempt that finds
one gets the plan of a thread pool (`unsuccessful_attempts_leave_no_trace`). That plan claims the unit, and claimed units
stay claimed in whatever is done to the registry later, so there is no second one.
-/

namespace Instrumentation

/-- The answers that do not report a concrete executor. -/
inductive Introspection.Unsuccessful : Introspection → Prop where
  | failed (f : IntrospectionFailure) : Unsuccessful (.failed f)
  | panicked : Unsuccessful .panicked
  | abstract {d : UnitDescription} (h : d.isAbstract = true) : Unsuccessful (.described d)
  | noExecutor {d : UnitDescription} (h : d.isExecutor = false) : Unsuccessful (.described d)

theorem Introspection.reportsExecutor_described_iff {d : UnitDescription} :
    (described d).reportsExecutor = true ↔ d.isExecutor = true ∧ d.isAbstract = false := by
  simp [reportsExecutor, UnitDescription.isConcreteExecutor]

theorem Introspection.Unsuccessful.reportsExecutor {answer : Introspection}
    (h : answer.Unsuccessful) : answer.reportsExecutor = false := by
  cases h with
  | failed f => rfl
  | panicked => rfl
  | abstract h => simp [Introspection.reportsExecutor, UnitDescription.isConcreteExecutor, h]
  | noExecutor h => simp [Introspection.reportsExecutor, UnitDescription.isConcreteExecutor, h]

namespace Registry

variable {r : Registry} {unit : String}

/-- The loader's answer changes nothing if it does not report a concrete executor, whatever was done to the registry
while the loader was asked. -/
theorem concludeDiscovery_of_unsuccessful {answer : Introspection} (h : answer.Unsuccessful) :
    r.concludeDiscovery unit answer = (none, r) := by
  rw [concludeDiscovery_eq, if_neg]
  rintro ⟨hreports, -⟩
  rw [h.reportsExecutor] at hreports
  cases hreports

/-- Nothing changes either if the loader is not asked at all, because the unit is claimed or excluded. -/
theorem discoverExecutor_of_unsuccessful {introspect : Introspector}
    (h : (introspect unit).Unsuccessful) : r.discoverExecutor introspect unit = (none, r) := by
  rw [discoverExecutor]
  split
  · exact concludeDiscovery_of_unsuccessful h
  · rfl

/-- A claimed unit is not discovered, whatever the loader would say. -/
theorem discoverExecutor_of_claimed (introspect : Introspector)
    (h : r.claimed.contains unit = true) : r.discoverExecutor introspect unit = (none, r) := by
  rw [discoverExecutor_eq, if_neg]
  rintro ⟨-, hfree, -⟩
  rw [h] at hfree
  cases hfree

/-- Attempts at one unit, one after the other. -/
def attemptsAt (unit : String) (attempts : List Introspector) : List Call :=
  attempts.map fun introspect => .discover introspect unit

/-- Any number of unsuccessful attempts gives out nothing and changes nothing. -/
theorem run_attemptsAt {attempts : List Introspector}
    (h : ∀ introspect ∈ attempts, (introspect unit).Unsuccessful) :
    serve.run r (attemptsAt unit attempts) = ([], r) := by
  induction attempts with
  | nil => rfl
  | cons introspect rest ih =>
      obtain ⟨hfirst, hrest⟩ := List.forall_mem_cons.1 h
      have hstep : serve r (.discover introspect unit) = (none, r) := by
        show (r.discoverGrant introspect unit, (r.discoverExecutor introspect unit).2) = _
        rw [discoverGrant, discoverExecutor_of_unsuccessful hfirst]
        rfl
      rw [attemptsAt, List.map_cons, Machine.run, hstep]
      exact ih hrest

/-- The first attempt that reports a concrete executor is answered with the plan of a thread pool, and the unit is
claimed. -/
theorem discoverExecutor_of_reported {introspect : Introspector} {d : UnitDescription}
    (hd : introspect unit = .described d) (hexecutor : d.isExecutor = true)
    (hconcrete : d.isAbstract = false) (hfree : r.claimed.contains unit = false)
    (hincluded : r.isExcluded unit = false) :
    r.discoverExecutor introspect unit =
      (some (.ofRule (threadPoolRule unit) r.debugMode), r.afterDiscovery unit) := by
  have hreports : (introspect unit).reportsExecutor = true := by
    rw [hd]
    exact Introspection.reportsExecutor_described_iff.2 ⟨hexecutor, hconcrete⟩
  rw [discoverExecutor_eq, if_pos ⟨hreports, hfree, hincluded⟩]

/-- After its discovery a unit stays claimed, whatever all threads do. -/
theorem claimed_after_afterDiscovery (actions : List Action) :
    (act.after (r.afterDiscovery unit) actions).claimed.contains unit = true := by
  refine Machine.invariant_run act (I := fun s => s.claimed.contains unit = true)
    (fun _ a => claimed_act a) ?_ actions
  rw [claimed_afterDiscovery, beq_self_eq_true, Bool.true_or]

/-- **An unsuccessful discovery leaves no trace.** The loader fails, panics, or describes a unit that is abstract or no
executor: then there is no plan, and the registry is the same, also if the loader's answer comes after others have
changed the registry. After any number of such attempts, an attempt that finds a concrete executor gets the plan of a
thread pool if the unit is neither claimed nor excluded, and after that one, whatever is done in between, every attempt
at the unit comes to nothing. -/
theorem unsuccessful_attempts_leave_no_trace (r : Registry) (unit : String)
    (attempts : List Introspector)
    (hattempts : ∀ introspect ∈ attempts, (introspect unit).Unsuccessful) :
    (∀ introspect : Introspector, (introspect unit).Unsuccessful →
      r.discoverExecutor introspect unit = (none, r)) ∧
    (∀ answer : Introspection, answer.Unsuccessful →
      r.concludeDiscovery unit answer = (none, r)) ∧
    serve.run r (attemptsAt unit attempts) = ([], r) ∧
    ∀ (last : Introspector) (d : UnitDescription), last unit = .described d →
      d.isExecutor = true → d.isAbstract = false →
      r.claimed.contains unit = false → r.isExcluded unit = false →
      ∃ s, (serve.after r (attemptsAt unit attempts)).discoverExecutor last unit =
          (some (.ofRule (threadPoolRule unit) r.debugMode), s) ∧
        ∀ (actions : List Action) (introspect : Introspector),
          (act.after s actions).discoverExecutor introspect unit = (none, act.after s actions) := by
  refine ⟨fun _ => discoverExecutor_of_unsuccessful, fun _ => concludeDiscovery_of_unsuccessful,
    run_attemptsAt hattempts, ?_⟩
  intro last d hd hexecutor hconcrete hfree hincluded
  refine ⟨r.afterDiscovery unit, ?_, ?_⟩
  · -- The attempts have left the registry as it was, so that the unit is still free.
    have hsame : serve.after r (attemptsAt unit attempts) = r :=
      congrArg Prod.snd (run_attemptsAt hattempts)
    rw [hsame]
    exact discoverExecutor_of_reported hd hexecutor hconcrete hfree hincluded
  · intro actions introspect
    exact discoverExecutor_of_claimed introspect (claimed_after_afterDiscovery actions)

/-- A registry that plans with debugging and that has claimed another pool. -/
def registryWithPool : Registry :=
  (act.after initial [.setDebugMode true,
    .discover (fun unit => .described { name := unit, isExecutor := true }) "com/acme/Pool"])

/-- Attempts that fail, panic, and describe an abstract unit and one that is no executor. -/
def vainAttempts : List Introspector :=
  [fun unit => .failed (.notFound unit), fun _ => .panicked,
    fun unit => .described { name := unit, isExecutor := true, isAbstract := true },
    fun unit => .described { name := unit }, fun unit => .failed (.failed unit "cycle")]

/-- The sixth attempt at a unit succeeds. Later a rule for the unit is added, and the unit is matched; the seventh attempt
gets no plan. -/
theorem unsuccessful_attempts_leave_no_trace_jobRunner :
    (∀ introspect ∈ vainAttempts, (introspect "com/acme/JobRunner").Unsuccessful) ∧
      serve.run registryWithPool (attemptsAt "com/acme/JobRunner" vainAttempts) =
        ([], registryWithPool) ∧
      ∃ s, ((serve.after registryWithPool
          (attemptsAt "com/acme/JobRunner" vainAttempts)).discoverExecutor
            (fun unit => .described { name := unit, isExecutor := true }) "com/acme/JobRunner") =
          (some (.ofRule (threadPoolRule "com/acme/JobRunner") true), s) ∧
        ((act.after s [.insert (.exact "com/acme/JobRunner" .other),
          .matchUnit "com/acme/JobRunner"]).discoverExecutor
            (fun unit => .described { name := unit, isExecutor := true })
              "com/acme/JobRunner").1 = none := by
  have hvain : ∀ introspect ∈ vainAttempts, (introspect "com/acme/JobRunner").Unsuccessful := by
    simp only [vainAttempts, List.forall_mem_cons]
    exact ⟨.failed _, .panicked, .abstract rfl, .noExecutor rfl, .failed _, nofun⟩
  have hfree : registryWithPool.claimed.contains "com/acme/JobRunner" = false := by
    decide +kernel
  have hincluded : registryWithPool.isExcluded "com/acme/JobRunner" = false := by
    decide +kernel
  obtain ⟨-, -, hrun, hlast⟩ := unsuccessful_attempts_leave_no_trace registryWithPool
    "com/acme/JobRunner" vainAttempts hvain
  obtain ⟨s, hplan, hlater⟩ := hlast
    (fun unit => .described { name := unit, isExecutor := true })
    { name := "com/acme/JobRunner", isExecutor := true } rfl rfl rfl hfree hincluded
  refine ⟨hvain, hrun, s, hplan, ?_⟩
  rw [hlater]

end Registry

end Instrumentation
