import Instrumentation.Proofs.Dispatch.Submission
import Instrumentation.Proofs.UnitName

set_option autoImplicit false

/-!
# What a handler receives

On its way to the handler an event may be dropped, bounded or renamed. `Received` says in which form each of the
thirteen kinds arrives, without the order in which the router does this: exceptions that the filter drops do not arrive
and the others arrive with the number of frames to keep, names of method entry and exit arrive with the kind of a
recorded unit, and everything else arrives as it was raised. `received_iff` reads it off the router.

Handlers may use the router, panic, and do what they like with the state. What they are called with is observed from
outside: `Callbacks.journaled` notes every call in a journal and then makes it. The main result, `handler_receives`,
is about every state, every submission and all handlers.
-/

namespace Instrumentation

/-! ## Names -/

/-- The name of a method, and the name that a handler sees: marked with the kind of the unit before the last point if
that unit is recorded, and as it was otherwise. -/
inductive Marked (index : UnitIndex) : String → String → Prop where
  | recorded {unit method : String} {kind : UnitKind} (hmethod : methodSeparator ∉ method.toList)
      (hkind : index.kindOf? unit = some kind) :
      Marked index (qualifiedMethodName unit method) (qualifiedMethodName unit method ++ "#" ++ kind.text)
  | unrecorded {name : String}
      (h : ∀ unit method : String, methodSeparator ∉ method.toList → name = qualifiedMethodName unit method →
        index.kindOf? unit = none) :
      Marked index name name

theorem marked_annotateName (index : UnitIndex) (name : String) :
    Marked index name (annotateName index name) := by
  unfold annotateName UnitIndex.kindOfMethod?
  cases howner : methodOwner? name with
  | none =>
      refine .unrecorded fun unit method hmethod hname => ?_
      rw [methodOwner?_eq_some_iff.2 ⟨method, hmethod, hname⟩] at howner
      cases howner
  | some unit =>
      obtain ⟨method, hmethod, rfl⟩ := methodOwner?_eq_some_iff.1 howner
      cases hkind : index.kindOf? unit with
      | some kind => simpa [hkind] using Marked.recorded hmethod hkind
      | none =>
          simp only [Option.bind_some, hkind]
          -- A name has one last point, so no other unit could own the method.
          refine .unrecorded fun unit' method' hmethod' hname => ?_
          have hsame := methodOwner?_eq_some_iff.2 ⟨method', hmethod', hname⟩
          rw [howner] at hsame
          cases hsame
          exact hkind

/-- The router marks names so, and nothing else is marking. -/
theorem marked_iff {index : UnitIndex} {name name' : String} :
    Marked index name name' ↔ name' = annotateName index name := by
  constructor
  · intro h
    cases h with
    | @recorded unit method kind hmethod hkind =>
        rw [annotateName, UnitIndex.kindOfMethod?, methodOwner?_qualifiedMethodName unit hmethod,
          Option.bind_some, hkind]
    | unrecorded hnone =>
        rw [annotateName, UnitIndex.kindOfMethod?]
        cases howner : methodOwner? name with
        | none => rfl
        | some unit =>
            obtain ⟨method, hmethod, hname⟩ := methodOwner?_eq_some_iff.1 howner
            rw [Option.bind_some, hnone unit method hmethod hname]
  · rintro rfl
    exact marked_annotateName index name

/-! ## Exceptions -/

/-- A filter drops exceptions of a type: all of them while it is off, else those that are suppressed by a beginning and
listed as valid by none. -/
def ExceptionFilter.Drops (f : ExceptionFilter) (typeName : String) : Prop :=
  f.enabled = false ∨
    ((∃ b ∈ f.suppressedTypes, b.toList <+: typeName.toList) ∧
      ∀ b ∈ f.validTypes, ¬ b.toList <+: typeName.toList)

theorem ExceptionFilter.covers_iff {beginnings : List String} {typeName : String} :
    covers beginnings typeName = true ↔ ∃ b ∈ beginnings, b.toList <+: typeName.toList := by
  simp [covers, List.any_eq_true, List.isPrefixOf_iff_prefix]

theorem ExceptionFilter.drops_iff {f : ExceptionFilter} {typeName : String} :
    f.Drops typeName ↔ f.reports typeName = false := by
  have hvalid : (∀ b ∈ f.validTypes, ¬ b.toList <+: typeName.toList) ↔
      covers f.validTypes typeName = false := by
    rw [← Bool.not_eq_true, covers_iff]
    simp
  rw [Drops, hvalid, ← covers_iff, reports]
  cases f.enabled <;> cases covers f.validTypes typeName <;> cases covers f.suppressedTypes typeName <;> simp

/-- The number of frames to keep is the smaller one of the length of the trace and the bound of the filter. -/
theorem ExceptionFilter.toNat_depth (f : ExceptionFilter) (error : Throwable) :
    (UInt64.ofNat (min error.stackDepth f.maxStackSize.toNat)).toNat =
      min error.stackTrace.length f.maxStackSize.toNat := by
  refine UInt64.toNat_ofNat_of_lt' ?_
  exact Nat.lt_of_le_of_lt (Nat.min_le_right _ _) f.maxStackSize.toNat_lt

/-! ## Events -/

/-- An event that was raised, and what a handler gets of it. -/
inductive Received (filter : ExceptionFilter) (index : UnitIndex) : Event → Option Event → Prop where
  | dropped {error : Throwable} (depth : UInt64) (h : filter.Drops error.typeName) :
      Received filter index (.exceptionThrown error depth) none
  | bounded {error : Throwable} (depth : UInt64) {kept : UInt64} (h : ¬ filter.Drops error.typeName)
      (hkept : kept.toNat = min error.stackTrace.length filter.maxStackSize.toNat) :
      Received filter index (.exceptionThrown error depth) (some (.exceptionThrown error kept))
  | started {name name' : String} (h : Marked index name name') :
      Received filter index (.methodStarted name) (some (.methodStarted name'))
  | finished {name name' : String} (durationNanos : UInt64) (args : List Json) (error : Option Throwable)
      (h : Marked index name name') :
      Received filter index (.methodFinished name durationNanos args error)
        (some (.methodFinished name' durationNanos args error))
  | unchanged {e : Event} (h : e.kind ∉ [EventKind.exceptionThrown, .methodStarted, .methodFinished]) :
      Received filter index e (some e)

/-- What the router makes of an event that somebody is to get. -/
def Event.delivered? (filter : ExceptionFilter) (index : UnitIndex) (e : Event) : Option Event :=
  (filter.pass e).map (Event.mapMethodName (annotateName index))

section Received

variable {filter : ExceptionFilter} {index : UnitIndex} {e : Event} {form : Option Event}

/-- The events that arrive as they were raised are those that the filter passes and no name of which is marked. -/
theorem delivered?_of_kind (h : e.kind ∉ [EventKind.exceptionThrown, .methodStarted, .methodFinished]) :
    e.delivered? filter index = some e := by
  cases e with
  | methodStarted name => exact absurd (by simp [Event.kind]) h
  | methodFinished name durationNanos args error => exact absurd (by simp [Event.kind]) h
  | exceptionThrown error depth => exact absurd (by simp [Event.kind]) h
  | methodFinishedWithThreshold name thresholdMs => rfl
  | exceptionCaught name error => rfl
  | sqlStatementStarted name sql => rfl
  | sqlQueryPlanCandidate name sql => rfl
  | preparedStatementStarted name sql args => rfl
  | preparedStatementBatchStarted name sql batchCount => rfl
  | httpStarted name url => rfl
  | httpFinished call => rfl
  | cacheCallStarted name => rfl
  | corePoolSizeChanged size => rfl

theorem delivered?_exceptionThrown (filter : ExceptionFilter) (index : UnitIndex) (error : Throwable)
    (depth : UInt64) :
    (Event.exceptionThrown error depth).delivered? filter index =
      if filter.reports error.typeName then
        some (.exceptionThrown error (UInt64.ofNat (min error.stackDepth filter.maxStackSize.toNat)))
      else none := by
  rw [Event.delivered?, ExceptionFilter.pass, ExceptionFilter.decide]
  cases filter.reports error.typeName <;> rfl

/-- Every event arrives in some form or is dropped. -/
theorem received_delivered? (filter : ExceptionFilter) (index : UnitIndex) (e : Event) :
    Received filter index e (e.delivered? filter index) := by
  by_cases hkind : e.kind ∉ [EventKind.exceptionThrown, .methodStarted, .methodFinished]
  · rw [delivered?_of_kind hkind]
    exact .unchanged hkind
  · cases e with
    | methodStarted name => exact .started (marked_annotateName index name)
    | methodFinished name durationNanos args error =>
        exact .finished durationNanos args error (marked_annotateName index name)
    | exceptionThrown error depth =>
        rw [delivered?_exceptionThrown]
        cases hreports : filter.reports error.typeName with
        | true =>
            refine .bounded depth ?_ (filter.toNat_depth error)
            rw [ExceptionFilter.drops_iff, Bool.not_eq_false]
            exact hreports
        | false => exact .dropped depth (ExceptionFilter.drops_iff.2 hreports)
    | _ => exact absurd (by simp [Event.kind]) hkind

/-- No event arrives in two forms. -/
theorem received_iff : Received filter index e form ↔ form = e.delivered? filter index := by
  constructor
  · intro h
    cases h with
    | @dropped error depth hdrops =>
        rw [delivered?_exceptionThrown, ExceptionFilter.drops_iff.1 hdrops]
        rfl
    | @bounded error depth kept hdrops hkept =>
        rw [ExceptionFilter.drops_iff, Bool.not_eq_false] at hdrops
        rw [delivered?_exceptionThrown, hdrops, if_pos rfl]
        have hsame : kept = UInt64.ofNat (min error.stackDepth filter.maxStackSize.toNat) :=
          UInt64.toNat_inj.1 (hkept.trans (filter.toNat_depth error).symm)
        rw [hsame]
    | started hmarked =>
        rw [marked_iff.1 hmarked]
        rfl
    | finished durationNanos args error hmarked =>
        rw [marked_iff.1 hmarked]
        rfl
    | unchanged hkind => exact (delivered?_of_kind hkind).symm
  · rintro rfl
    exact received_delivered? filter index e

end Received

/-! ## Handlers that are watched -/

/-- A state together with the calls of handlers that were noted. -/
structure Journaled (σ H : Type) where
  state : σ
  calls : List (H × Event) := []

instance {σ H : Type} [RoutingState σ H] : RoutingState (Journaled σ H) H where
  router s := RoutingState.router s.state
  setRouter s r := { s with state := RoutingState.setRouter s.state r }
  index s := RoutingState.index s.state
  key s := RoutingState.key s.state
  router_setRouter s r := RoutingState.router_setRouter s.state r
  index_setRouter s r := RoutingState.index_setRouter s.state r
  key_setRouter s r := RoutingState.key_setRouter s.state r

/-- Runs something that knows nothing of the journal. -/
def Panicking.journaled {σ H α : Type} (body : Panicking σ α) : Panicking (Journaled σ H) α :=
  .mk fun s => ((body.run.run s.state).1, { s with state := (body.run.run s.state).2 })

/-- The same handlers; every call with an event is noted before it is made. What the handlers themselves submit is not
part of the submission and is not noted. -/
def Callbacks.journaled {σ H : Type} (calls : Callbacks σ H) : Callbacks (Journaled σ H) H where
  handle handler e := do
    modify fun s => { s with calls := s.calls ++ [(handler, e)] }
    (calls.handle handler e).journaled
  name handler := (calls.name handler).journaled

namespace Callbacks

section Calls

variable {σ H : Type} (calls : Callbacks σ H) (handler : H) (e : Event) (s : σ) (journal : List (H × Event))

/-- A call that is noted comes to the same as one that is not. -/
theorem handle_journaled_run :
    (calls.journaled.handle handler e).run.run ⟨s, journal⟩ =
      (((calls.handle handler e).run.run s).1,
        ⟨((calls.handle handler e).run.run s).2, journal ++ [(handler, e)]⟩) := rfl

theorem name_journaled_run :
    (calls.journaled.name handler).run.run ⟨s, journal⟩ =
      (((calls.name handler).run.run s).1, ⟨((calls.name handler).run.run s).2, journal⟩) := rfl

end Calls

variable {σ H : Type} [RoutingState σ H] {e : Event} {s : σ} {handler : H}

/-- Where a thread has a handler, the offer is the form in which the event arrives. -/
theorem offerIn_of_resolve
    (hresolve : (RoutingState.router s).resolve? (RoutingState.key s) = some handler) :
    offerIn e s =
      match e.delivered? (RoutingState.router s).filter (RoutingState.index s) with
      | none => .filtered
      | some e' => .deliver handler e' := by
  rw [offerIn, Router.offer, hresolve, Event.delivered?]
  cases (RoutingState.router s).filter.pass e <;> rfl

/-- A submission ends in the same state whether it is watched or not, and the handler is called with the form in which
the event arrives. -/
theorem emit_journaled_run (calls : Callbacks σ H) (kind : EventKind) (e : Event)
    (hresolve : (RoutingState.router s).resolve? (RoutingState.key s) = some handler)
    (journal : List (H × Event)) :
    ∃ t, (calls.emit kind e).run.run s = (.ok (), t) ∧
      (calls.journaled.emit kind e).run.run ⟨s, journal⟩ =
        (.ok (), ⟨t, journal ++
          ((e.delivered? (RoutingState.router s).filter (RoutingState.index s)).map (handler, ·)).toList⟩) := by
  have hoffer := offerIn_of_resolve (e := e) hresolve
  have hwatched : offerIn e (Journaled.mk s journal) = offerIn e s := rfl
  cases hform : e.delivered? (RoutingState.router s).filter (RoutingState.index s) with
  | none =>
      -- An event that the filter drops calls nobody, so the journal stays.
      rw [hform] at hoffer
      refine ⟨_, emit_run_of_filtered hoffer, ?_⟩
      rw [emit_run_of_filtered (hwatched.trans hoffer), Option.map_none, Option.toList_none, List.append_nil]
      rfl
  | some e' =>
      rw [hform] at hoffer
      have hcall := calls.handle_journaled_run handler e' s journal
      -- Whether the handler is asked for its name afterwards depends on what the call comes to.
      cases hanswer : (calls.handle handler e').run.run s with
      | mk answer t =>
          rw [hanswer] at hcall
          by_cases haccepted : answer = .ok (.ok ())
          · subst haccepted
            refine ⟨_, emit_run_of_accepted hoffer hanswer, ?_⟩
            rw [emit_run_of_accepted (hwatched.trans hoffer) hcall]
            rfl
          · refine ⟨_, emit_run_of_not_accepted hoffer hanswer haccepted, ?_⟩
            rw [emit_run_of_not_accepted (hwatched.trans hoffer) hcall haccepted, name_journaled_run]
            rfl

/-- **What a handler receives.** In every state in which a handler is resolved, a submission calls it at most once, and
with the one form in which the event arrives. The submission returns and ends in the state in which it ends when nobody
watches. -/
theorem handler_receives (calls : Callbacks σ H) (s : σ) (x : Submission)
    (hresolve : (RoutingState.router s).resolve? (RoutingState.key s) = some handler) :
    ∃ form, Received (RoutingState.router s).filter (RoutingState.index s) x.event form ∧
      (∀ other, Received (RoutingState.router s).filter (RoutingState.index s) x.event other →
        other = form) ∧
      ∃ t, (calls.submit x).run.run s = (.ok (), t) ∧
        (calls.journaled.submit x).run.run ⟨s, []⟩ = (.ok (), ⟨t, (form.map (handler, ·)).toList⟩) := by
  obtain ⟨t, hrun, hwatched⟩ := emit_journaled_run calls x.kind x.event hresolve []
  refine ⟨_, received_delivered? _ _ x.event, fun other hother => received_iff.1 hother, t, hrun, ?_⟩
  rw [List.nil_append] at hwatched
  exact hwatched

/-- A thread whose handler refuses everything. The filter suppresses a beginning of types, of which it lists a longer
beginning as valid, and one unit is recorded. -/
def strictView : ThreadView Nat where
  router :=
    { fallback := some 7
      filter := { suppressedTypes := ["java."], validTypes := ["java.lang.Illegal"], maxStackSize := 2 } }
  index := UnitIndex.empty.record "com/acme/Repo.v2" .jdbcStatement
  key := none

/-- Handlers that refuse every event. -/
def refusing : Conduct Nat where
  react _ _ := .refused (.rejected "not now")
  name _ := .ok "refusing"

/-- An exception of a valid type with more frames than are kept. -/
def illegalState : Throwable :=
  { typeName := "java.lang.IllegalStateException", stackTrace := ["run", "call", "main"] }

/-- The exception arrives with two frames to keep, although the event said otherwise, and a method is marked with the
kind of its unit, whose name has a point itself. -/
theorem handler_receives_strict :
    (RoutingState.router strictView).resolve? (RoutingState.key strictView) = some 7 ∧
      (∃ t, (refusing.callbacks.journaled.submit (.whole (.exceptionThrown illegalState 99))).run.run
          ⟨strictView, []⟩ = (.ok (), ⟨t, [(7, .exceptionThrown illegalState 2)]⟩)) ∧
      ∃ t, (refusing.callbacks.journaled.submit (.entry (.methodStarted "com/acme/Repo.v2.find"))).run.run
          ⟨strictView, []⟩ =
        (.ok (), ⟨t, [(7, .methodStarted "com/acme/Repo.v2.find#JDBC_STATEMENT")]⟩) := by
  have hresolve : (RoutingState.router strictView).resolve? (RoutingState.key strictView) = some 7 := rfl
  refine ⟨hresolve, ?_, ?_⟩
  · obtain ⟨form, -, honly, t, -, hrun⟩ := handler_receives refusing.callbacks strictView
      (.whole (.exceptionThrown illegalState 99)) hresolve
    have hkept : ¬ (RoutingState.router strictView).filter.Drops illegalState.typeName := by
      rw [ExceptionFilter.drops_iff]
      decide +kernel
    rw [← honly _ (.bounded 99 hkept (by rfl))] at hrun
    exact ⟨t, hrun⟩
  · obtain ⟨form, -, honly, t, -, hrun⟩ := handler_receives refusing.callbacks strictView
      (.entry (.methodStarted "com/acme/Repo.v2.find")) hresolve
    have hmarked : Marked strictView.index "com/acme/Repo.v2.find" "com/acme/Repo.v2.find#JDBC_STATEMENT" :=
      marked_iff.2 (by decide +kernel)
    rw [← honly _ (.started hmarked)] at hrun
    exact ⟨t, hrun⟩

end Callbacks

end Instrumentation
