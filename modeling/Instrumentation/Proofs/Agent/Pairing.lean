import Instrumentation.Proofs.Agent.Attribution
import Instrumentation.Proofs.Dispatch.Reception

set_option autoImplicit false

/-!
# Names of entry and exit

A handler that follows a method through its calls pairs the entry of the method with its exit by the name that both
carry. Entry and exit are marked when they are submitted, each with the kind that the index has for the unit then. As
long as no plan is given out for the unit, this is the same kind (`kindOfMethod?_after`), so entry and exit agree.

An exit that was reported with a threshold is not marked. It agrees with the entry only if the unit has no kind, which
`exit_agrees_with_entry` says besides.
-/

namespace Instrumentation

theorem annotateName_eq_self_iff {index : UnitIndex} {name : String} :
    annotateName index name = name ↔ index.kindOfMethod? name = none := by
  rw [annotateName]
  cases index.kindOfMethod? name with
  | none => simp
  | some kind => simp [String.append_assoc]

theorem annotateName_congr {i j : UnitIndex} {name : String}
    (h : i.kindOfMethod? name = j.kindOfMethod? name) : annotateName i name = annotateName j name := by
  rw [annotateName, annotateName, h]

/-- No plan of some is for the unit of a method. -/
def SparesMethod (grants : List Grant) (name : String) : Prop :=
  ∀ g ∈ grants, methodOwner? name ≠ some g.plan.unit

theorem SparesMethod.latestPlan?_eq_none {grants : List Grant} {name unit : String}
    (h : SparesMethod grants name) (howner : methodOwner? name = some unit) :
    latestPlan? grants unit = none := by
  rw [latestPlan?, List.getLast?_eq_none_iff, List.filter_eq_nil_iff]
  rintro plan hplan hunit
  obtain ⟨g, hg, rfl⟩ := List.mem_map.1 hplan
  exact h g hg (howner.trans (congrArg some (beq_iff_eq.1 hunit).symm))

namespace Session

variable {H : Type}

/-- The kind of a method stays what it is while no plan is given out for its unit. -/
theorem kindOfMethod?_after (s : Session H) {steps : List (Step H)} (hunshared : IndexUnshared steps)
    {name : String} (hspares : SparesMethod (perform.given s steps) name) :
    (perform.after s steps).agent.registry.index.kindOfMethod? name =
      s.agent.registry.index.kindOfMethod? name := by
  rw [UnitIndex.kindOfMethod?, UnitIndex.kindOfMethod?]
  cases howner : methodOwner? name with
  | none => rfl
  | some unit =>
      rw [Option.bind_some, Option.bind_some, tells_after s hunshared unit,
        hspares.latestPlan?_eq_none howner]
      rfl

/-- **The exit of a method agrees with its entry.** The entry of a method reaches a handler in some state of a session.
Other steps follow, none of which gives out a plan for the unit of the method, and then the exit reaches a handler. Both
carry one name, the marked one. Only an exit with a threshold carries the bare name, and so it agrees with the entry
exactly if the unit has no kind. -/
theorem exit_agrees_with_entry (s : Session H) (name : String) (entering leaving : ThreadId)
    (c c' : Conduct H) (x : Submission) (hx : x.event = .methodStarted name)
    (between : List (Step H)) (handler handler' : H) :
    let steps := .turn ⟨entering, .submit c x⟩ :: between
    let s' := perform.after s steps
    IndexUnshared between → SparesMethod (perform.given s steps) name →
    s.agent.router.resolve? (s.threads entering).key = some handler →
    s'.agent.router.resolve? (s'.threads leaving).key = some handler' →
    ∃ marked, Marked s.agent.registry.index name marked ∧
      (Traffic.operate s.traffic ⟨entering, .submit c x⟩).1 =
        some (.submitted (.ok ())
          [⟨handler, .methodStarted marked, c.react handler (.methodStarted marked)⟩]) ∧
      (∀ (y : Submission) nanos args error, y.event = .methodFinished name nanos args error →
        (Traffic.operate s'.traffic ⟨leaving, .submit c' y⟩).1 =
          some (.submitted (.ok ())
            [⟨handler', .methodFinished marked nanos args error,
              c'.react handler' (.methodFinished marked nanos args error)⟩])) ∧
      (∀ (y : Submission) ms, y.event = .methodFinishedWithThreshold name ms →
        (Traffic.operate s'.traffic ⟨leaving, .submit c' y⟩).1 =
          some (.submitted (.ok ())
            [⟨handler', .methodFinishedWithThreshold name ms,
              c'.react handler' (.methodFinishedWithThreshold name ms)⟩])) ∧
      (marked = name ↔ s.agent.registry.index.kindOfMethod? name = none) := by
  intro steps s' hunshared hspares hentry hexit
  have hsteps : IndexUnshared steps := by
    intro thread unit kind hmem
    rcases List.mem_cons.1 hmem with hfirst | hlater
    · cases hfirst
    · exact hunshared thread unit kind hlater
  have hsame : annotateName s'.agent.registry.index name = annotateName s.agent.registry.index name :=
    annotateName_congr (kindOfMethod?_after s hsteps hspares)
  refine ⟨annotateName s.agent.registry.index name, marked_annotateName _ name, ?_, ?_, ?_,
    annotateName_eq_self_iff⟩
  · rw [submitted_to s hentry (by rw [hx]; rfl), hx, Event.mapMethodName]
  · intro y nanos args error hy
    rw [submitted_to s' hexit (by rw [hy]; rfl), hy, Event.mapMethodName, hsame]
  · intro y ms hy
    rw [submitted_to s' hexit (by rw [hy]; rfl), hy]
    rfl

/-- A unit gets the plan of its rule, and a fallback handler is there. -/
def plannedSteps : List (Step Nat) :=
  [.call (.reconfigure { requestedTargets := [{ name := "com/acme/Repo" }] }),
    .call (.probe (fun unit => .failed (.notFound unit)) "com/acme/Repo"), .turn ⟨0, .registerFallback 7⟩]

/-- The session after them. -/
def planned : Session Nat := perform.after initial plannedSteps

/-- Handlers that accept every event. -/
def accepting : Conduct Nat := ⟨fun _ _ => .accepted, fun _ => .ok "seven"⟩

theorem annotateName_planned :
    annotateName planned.agent.registry.index "com/acme/Repo.find" = "com/acme/Repo.find#OTHER" := by
  decide +kernel

theorem resolve?_planned : planned.agent.router.resolve? (planned.threads 1).key = some 7 := by
  decide +kernel

/-- The exits on another thread, after that thread has set a key and cleared it. -/
theorem exit_agrees_with_entry_find :
    let steps := .turn ⟨1, .submit accepting (.entry (.methodStarted "com/acme/Repo.find"))⟩ ::
      [.turn ⟨2, .route (.set "acme")⟩, .turn ⟨2, .route .clear⟩]
    let s' := perform.after planned steps
    SparesMethod (perform.given planned steps) "com/acme/Repo.find" ∧
      (Traffic.operate s'.traffic ⟨2, .submit accepting
          (.entry (.methodFinished "com/acme/Repo.find" 5 [] none))⟩).1 =
        some (.submitted (.ok ())
          [⟨7, .methodFinished "com/acme/Repo.find#OTHER" 5 [] none, .accepted⟩]) ∧
      (Traffic.operate s'.traffic ⟨2, .submit accepting
          (.entry (.methodFinishedWithThreshold "com/acme/Repo.find" 5))⟩).1 =
        some (.submitted (.ok ())
          [⟨7, .methodFinishedWithThreshold "com/acme/Repo.find" 5, .accepted⟩]) := by
  intro steps s'
  have hspares : SparesMethod (perform.given planned steps) "com/acme/Repo.find" := by
    have hnone : perform.given planned steps = [] := rfl
    rw [hnone]
    exact nofun
  have hunshared : IndexUnshared (H := Nat)
      [.turn ⟨2, .route (.set "acme")⟩, .turn ⟨2, .route .clear⟩] := by
    intro thread unit kind h
    simp at h
  obtain ⟨marked, hmarked, -, hfinished, hthreshold, -⟩ :=
    exit_agrees_with_entry planned "com/acme/Repo.find" 1 2 accepting accepting
      (.entry (.methodStarted "com/acme/Repo.find")) rfl
      [.turn ⟨2, .route (.set "acme")⟩, .turn ⟨2, .route .clear⟩] 7 7 hunshared hspares
      resolve?_planned (by decide +kernel)
  rw [marked_iff, annotateName_planned] at hmarked
  subst hmarked
  exact ⟨hspares, hfinished _ 5 [] none rfl, hthreshold _ 5 rfl⟩

/-- An exit with a threshold that comes right after the entry need not agree with it. -/
theorem threshold_exit_disagrees_with_entry :
    ¬ ∀ (steps : List (Step Nat)) (thread : ThreadId) (c : Conduct Nat) (name : String) (ms : UInt64)
        (entered left : String) (first second : List (Invocation Nat)),
      let s := perform.after (initial : Session Nat) steps
      let entry : Turn Nat := ⟨thread, .submit c (.entry (.methodStarted name))⟩
      let exit : Turn Nat := ⟨thread, .submit c (.entry (.methodFinishedWithThreshold name ms))⟩
      (Traffic.operate s.traffic entry).1 = some (.submitted (.ok ()) first) →
      (Traffic.operate (perform s (.turn entry)).2.traffic exit).1 = some (.submitted (.ok ()) second) →
      first.map Invocation.event = [.methodStarted entered] →
      second.map Invocation.event = [.methodFinishedWithThreshold left ms] → left = entered := by
  intro h
  let entered := perform planned (.turn ⟨1, .submit accepting (.entry (.methodStarted "com/acme/Repo.find"))⟩)
  have hafter : entered.2.agent.router.resolve? (entered.2.threads 1).key = some 7 := by decide +kernel
  have hentry := submitted_to planned (c := accepting) (x := .entry (.methodStarted "com/acme/Repo.find")) resolve?_planned rfl
  have hexit := submitted_to entered.2 (c := accepting)
    (x := .entry (.methodFinishedWithThreshold "com/acme/Repo.find" 5)) hafter rfl
  have hsame := h plannedSteps 1 accepting "com/acme/Repo.find" 5 _ _ _ _ hentry hexit rfl rfl
  rw [annotateName_planned] at hsame
  exact absurd hsame (by decide)

end Session

end Instrumentation
