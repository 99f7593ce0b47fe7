import Instrumentation.Event.Written
import Instrumentation.Proofs.Document
import Instrumentation.Proofs.Json.Same

set_option autoImplicit false

/-!
# Events that were written

Reading a written event takes it in whole, finds the tag, and asks the other fields for what an event of that kind
has. `ofFields?_of_carries` goes through the kinds: from fields that carry those of an event, in whatever order, the
event is read, each field by its reader. The dynamic values of an event are the only fields without a type, and what is
read there are the values that are found (`readArgs?_array`).

The main statement is `written_events_come_back`. It is about the written form as it is listed and about every value
that is the same up to the order of fields; `Event.Same` is what becomes of an event then.
-/

namespace Instrumentation

open Json

/-! ## Fields -/

theorem reads_string (s : String) : Reads Document.text? (.string s) s := by
  intro w h
  cases h
  rfl

theorem reads_uint64 (n : UInt64) : Reads Document.uint64? (.ofNat n.toNat) n := by
  intro w h
  cases h
  exact Document.uint64?_of_unsigned rfl

theorem reads_uint32 (n : UInt32) : Reads Document.uint32? (.ofNat n.toNat) n := by
  intro w h
  cases h
  exact Document.uint32?_of_unsigned rfl

theorem reads_int32 (i : Int32) : Reads Document.int32? (.ofInt i.toInt) i := by
  intro w h
  cases h
  exact Document.int32?_of_signed rfl

theorem sameItems_strings {xs : List String} {vs : List Json} (h : SameItems (xs.map .string) vs) :
    vs = xs.map .string := by
  induction xs generalizing vs with
  | nil =>
      cases h
      rfl
  | cons x rest ih =>
      cases h with
      | cons item later =>
          cases item
          rw [ih later, List.map_cons]

theorem reads_strings (xs : List String) : Reads (Document.list? Document.text?) (.ofStrings xs) xs := by
  intro w h
  cases h with
  | array hitems =>
      rw [sameItems_strings hitems]
      exact list?_toUntyped fun _ _ => rfl

theorem Throwable.reads_toJson (t : Throwable) : Reads read? t.toJson t := by
  intro w h
  have hnames : ["typeName", "message", "stackTrace"].Nodup := by decide
  obtain ⟨fields, rfl, hnodup, hcarries⟩ := h.carries hnames
  obtain ⟨r, hrecord, hholds, -⟩ := hcarries.record? hnodup outline.fieldNames rfl
  rw [read?, toUntyped, hrecord]
  simp only [Option.bind_eq_bind, Option.bind_some]
  rw [hholds.required rfl (reads_string t.typeName),
    hholds.optional rfl reads_string fun _ => Json.noConfusion,
    hholds.required rfl (reads_strings t.stackTrace)]
  rfl

theorem HttpCall.read?_of_carries (c : HttpCall) {fields : List (String × Json)}
    (hnodup : (fields.map Prod.fst).Nodup) (hcarries : Carries c.toFields fields) :
    read? (Untyped.mapping (fieldsToUntyped fields)) = some c := by
  obtain ⟨r, hrecord, hholds, -⟩ := hcarries.record? hnodup outline.fieldNames rfl
  rw [read?, hrecord]
  simp only [Option.bind_eq_bind, Option.bind_some]
  rw [hholds.required rfl (reads_string c.identifier), hholds.required rfl (reads_string c.method),
    hholds.optional rfl reads_string fun _ => Json.noConfusion, hholds.required rfl (reads_string c.uri),
    hholds.optional rfl reads_string fun _ => Json.noConfusion, hholds.required rfl (reads_int32 c.resultCode),
    hholds.required rfl (reads_uint64 c.durationNanos)]
  rfl

namespace Event

/-- The dynamic values that an event carries. -/
def args : Event → List Json
  | methodFinished _ _ args _ => args
  | preparedStatementStarted _ _ args => args
  | _ => []

/-- The event with other dynamic values, if it carries any. -/
def withArgs (args : List Json) : Event → Event
  | methodFinished name durationNanos _ error => methodFinished name durationNanos args error
  | preparedStatementStarted name sql _ => preparedStatementStarted name sql args
  | e => e

/-- Events that differ at most in the order in which objects among their dynamic values list their fields. -/
def Same (e e' : Event) : Prop := ∃ args, SameItems e.args args ∧ e' = e.withArgs args

theorem withArgs_args (e : Event) : e.withArgs e.args = e := by
  cases e <;> rfl

variable {e : Event} {fields : List (String × Json)} {args : List Json}

theorem readArgs?_array (h : itemsAreProper args = true) :
    readArgs? (Json.array args).toUntyped = some args := by
  have hitem : ∀ v ∈ args, Untyped.toJson? (id v).toUntyped = some v :=
    fun v hv => toJson?_toUntyped v (itemsAreProper_iff.1 h v hv)
  have hread := list?_toUntyped hitem
  rwa [List.map_id] at hread

/-- Dynamic values are read where the fields of the event have them. -/
theorem required_args {r : Record Untyped} {names : List String} (hcarries : Carries e.toFields fields)
    (hargs : ∀ v w, e.toFields.lookup "args" = some v → fields.lookup "args" = some w →
      readArgs? w.toUntyped = some args)
    (hfields : ∀ name ∈ names, r.fields.lookup name = (fields.lookup name).map toUntyped)
    (hname : "args" ∈ names) {v : Json} (hv : e.toFields.lookup "args" = some v) :
    r.required "args" readArgs? = some args := by
  obtain ⟨w, hw, -⟩ := hcarries "args" v hv
  rw [Record.required, hfields "args" hname, hw]
  exact hargs v w hv hw

/-- An event is read from fields that carry its own, with the dynamic values that are read there. -/
theorem ofFields?_of_carries (hnodup : (fields.map Prod.fst).Nodup) (hcarries : Carries e.toFields fields)
    (hargs : ∀ v w, e.toFields.lookup "args" = some v → fields.lookup "args" = some w →
      readArgs? w.toUntyped = some args) :
    ofFields? e.kind (.mapping (fieldsToUntyped fields)) = some (e.withArgs args) := by
  cases e with
  | methodStarted name =>
      obtain ⟨r, hrecord, hholds, -⟩ := hcarries.record? hnodup ["name"] rfl
      simp only [ofFields?, kind, hrecord, Option.bind_eq_bind, Option.bind_some]
      rw [hholds.required rfl (reads_string name)]
      rfl
  | methodFinished name durationNanos _ error =>
      obtain ⟨r, hrecord, hholds, hfields⟩ :=
        hcarries.record? hnodup ["name", "duration_nanos", "args", "error"] rfl
      have hread := required_args hcarries hargs hfields (by decide) rfl
      simp only [ofFields?, kind, hrecord, Option.bind_eq_bind, Option.bind_some]
      rw [hholds.required rfl (reads_string name),
        hholds.required rfl (reads_uint64 durationNanos),
        hread,
        hholds.optional rfl Throwable.reads_toJson fun _ => Json.noConfusion]
      rfl
  | methodFinishedWithThreshold name thresholdMs =>
      obtain ⟨r, hrecord, hholds, -⟩ := hcarries.record? hnodup ["name", "threshold_ms"] rfl
      simp only [ofFields?, kind, hrecord, Option.bind_eq_bind, Option.bind_some]
      rw [hholds.required rfl (reads_string name),
        hholds.required rfl (reads_uint64 thresholdMs)]
      rfl
  | exceptionCaught name error =>
      obtain ⟨r, hrecord, hholds, -⟩ := hcarries.record? hnodup ["name", "error"] rfl
      simp only [ofFields?, kind, hrecord, Option.bind_eq_bind, Option.bind_some]
      rw [hholds.required rfl (reads_string name),
        hholds.required rfl error.reads_toJson]
      rfl
  | sqlStatementStarted name sql =>
      obtain ⟨r, hrecord, hholds, -⟩ := hcarries.record? hnodup ["name", "sql"] rfl
      simp only [ofFields?, kind, hrecord, Option.bind_eq_bind, Option.bind_some]
      rw [hholds.required rfl (reads_string name),
        hholds.required rfl (reads_string sql)]
      rfl
  | sqlQueryPlanCandidate name sql =>
      obtain ⟨r, hrecord, hholds, -⟩ := hcarries.record? hnodup ["name", "sql"] rfl
      simp only [ofFields?, kind, hrecord, Option.bind_eq_bind, Option.bind_some]
      rw [hholds.required rfl (reads_string name),
        hholds.required rfl (reads_string sql)]
      rfl
  | preparedStatementStarted name sql _ =>
      obtain ⟨r, hrecord, hholds, hfields⟩ := hcarries.record? hnodup ["name", "sql", "args"] rfl
      have hread := required_args hcarries hargs hfields (by decide) rfl
      simp only [ofFields?, kind, hrecord, Option.bind_eq_bind, Option.bind_some]
      rw [hholds.required rfl (reads_string name),
        hholds.required rfl (reads_string sql),
        hread]
      rfl
  | preparedStatementBatchStarted name sql batchCount =>
      obtain ⟨r, hrecord, hholds, -⟩ := hcarries.record? hnodup ["name", "sql", "batch_count"] rfl
      simp only [ofFields?, kind, hrecord, Option.bind_eq_bind, Option.bind_some]
      rw [hholds.required rfl (reads_string name),
        hholds.required rfl (reads_string sql),
        hholds.required rfl (reads_uint32 batchCount)]
      rfl
  | httpStarted name url =>
      obtain ⟨r, hrecord, hholds, -⟩ := hcarries.record? hnodup ["name", "url"] rfl
      simp only [ofFields?, kind, hrecord, Option.bind_eq_bind, Option.bind_some]
      rw [hholds.required rfl (reads_string name),
        hholds.required rfl (reads_string url)]
      rfl
  | httpFinished call =>
      show (HttpCall.read? (Untyped.mapping (fieldsToUntyped fields))).map httpFinished = some (httpFinished call)
      rw [call.read?_of_carries hnodup hcarries, Option.map_some]
  | cacheCallStarted name =>
      obtain ⟨r, hrecord, hholds, -⟩ := hcarries.record? hnodup ["name"] rfl
      simp only [ofFields?, kind, hrecord, Option.bind_eq_bind, Option.bind_some]
      rw [hholds.required rfl (reads_string name)]
      rfl
  | exceptionThrown error stackDepth =>
      obtain ⟨r, hrecord, hholds, -⟩ := hcarries.record? hnodup ["error", "stack_depth"] rfl
      simp only [ofFields?, kind, hrecord, Option.bind_eq_bind, Option.bind_some]
      rw [hholds.required rfl error.reads_toJson,
        hholds.required rfl (reads_uint64 stackDepth)]
      rfl
  | corePoolSizeChanged size =>
      obtain ⟨r, hrecord, hholds, -⟩ := hcarries.record? hnodup ["size"] rfl
      simp only [ofFields?, kind, hrecord, Option.bind_eq_bind, Option.bind_some]
      rw [hholds.required rfl (reads_uint32 size)]
      rfl

theorem names_nodup (e : Event) : ("kind" :: e.toFields.map Prod.fst).Nodup := by
  cases e <;> simp [toFields, HttpCall.toFields]

theorem lookup_args {v : Json} (h : e.toFields.lookup "args" = some v) : v = .array e.args := by
  cases e with
  | methodFinished name durationNanos args error =>
      cases h
      rfl
  | preparedStatementStarted name sql args =>
      cases h
      rfl
  | _ => cases h

/-- Whatever is the same as a written event is read as this event, with the dynamic values that are read there. -/
theorem read?_of_same {j : Json} (h : e.toJson.Same j)
    (hargs : ∀ v w, e.toFields.lookup "args" = some v → j.field? "args" = some w →
      readArgs? w.toUntyped = some args) : read? j = some (e.withArgs args) := by
  obtain ⟨rest, htag, hnodup, hcarries, hrest⟩ := h.tagged e.names_nodup
  have hread : read? j = ofFields? e.kind (.mapping (fieldsToUntyped rest)) := by
    rw [read?, htag]
    simp only [Option.bind_eq_bind, Option.bind_some, EventKind.ofTag?_tag]
  rw [hread]
  refine ofFields?_of_carries hnodup hcarries fun v w hv hw => hargs v w hv ?_
  rw [← hrest "args" (by decide), hw]

/-- Reading undoes writing. -/
theorem read?_toJson (hproper : itemsAreProper e.args = true) : read? e.toJson = some e := by
  -- The written form is one of those that are the same as it, and its dynamic values are still in their order.
  have hread : read? e.toJson = some (e.withArgs e.args) := by
    refine read?_of_same (.refl e.toJson) fun v w hv hw => ?_
    have hwritten : e.toFields.lookup "args" = some w := hw
    rw [lookup_args hwritten]
    exact readArgs?_array hproper
  rwa [withArgs_args] at hread

/-- From a written event whose fields stand in another order, at whatever depth, the event is read up to that order. -/
theorem exists_read?_of_same (hproper : itemsAreProper e.args = true) {j : Json} (h : e.toJson.Same j) :
    ∃ e', read? j = some e' ∧ e.Same e' := by
  obtain ⟨rest, -, -, hcarries, hrest⟩ := h.tagged e.names_nodup
  cases hwritten : e.toFields.lookup "args" with
  -- An event without dynamic values comes back as it was.
  | none =>
      refine ⟨e.withArgs e.args, read?_of_same h fun v w hv _ => ?_, e.args, .refl e.args, rfl⟩
      rw [hwritten] at hv
      cases hv
  | some v =>
      obtain ⟨w, hw, hsame⟩ := hcarries "args" v hwritten
      rw [lookup_args hwritten] at hsame
      cases hsame with
      | @array _ args hitems =>
          refine ⟨e.withArgs args, read?_of_same h fun _ w' _ hw' => ?_, args, hitems, rfl⟩
          rw [← hrest "args" (by decide), hw] at hw'
          cases hw'
          exact readArgs?_array (hitems.areProper hproper)

/-- **Written events come back.** An event whose dynamic values are proper is read from its written form. Only the order
of fields can get lost when the written form passes through hands that keep objects as maps; so written forms that
agree up to that order come from events that do, and different events are written differently. The tag is no field
of any event, of a web request or of an exception. -/
theorem written_events_come_back (e : Event) (hproper : itemsAreProper e.args = true) :
    read? e.toJson = some e ∧
      (∀ j, e.toJson.Same j → ∃ e', read? j = some e' ∧ e.Same e') ∧
      (∀ e' : Event, itemsAreProper e'.args = true → e.toJson.Same e'.toJson → e.Same e') ∧
      ("kind" :: e.toFields.map Prod.fst).Nodup ∧
      (∀ c : HttpCall, c.toJson.field? "kind" = none) ∧ ∀ t : Throwable, t.toJson.field? "kind" = none := by
  refine ⟨read?_toJson hproper, fun j hj => exists_read?_of_same hproper hj, fun e' hproper' hsame => ?_,
    e.names_nodup, fun c => rfl, fun t => rfl⟩
  obtain ⟨e'', hread, hevent⟩ := exists_read?_of_same hproper hsame
  rw [read?_toJson hproper'] at hread
  cases hread
  exact hevent

/-- A value in which the name of the tag is a name of a field. -/
def taggedArgument : Json := .object [("kind", .string "httpStarted"), ("ratio", .number (.float 1.5))]

/-- A statement with such a value among its arguments. -/
def preparedUpdate : Event :=
  .preparedStatementStarted "com/acme/Repo.save" "UPDATE t SET r = ?" [.array [taggedArgument, .null]]

/-- The written statement after somebody else has ordered its fields. -/
def reorderedUpdate : Json :=
  .object [
    ("args", .array [.array [.object [("ratio", .number (.float 1.5)), ("kind", .string "httpStarted")], .null]]),
    ("kind", .string "preparedStatementStarted"), ("name", .string "com/acme/Repo.save"),
    ("sql", .string "UPDATE t SET r = ?")]

theorem same_reorderedUpdate : preparedUpdate.toJson.Same reorderedUpdate := by
  have hargument : taggedArgument.Same
      (.object [("ratio", .number (.float 1.5)), ("kind", .string "httpStarted")]) :=
    .object (.swap _ _ []) (.refl _)
  have hargs : SameItems [.array [taggedArgument, .null]] _ := .cons (.array (.cons hargument (.refl _))) .nil
  -- The last field of the written form has become the first one.
  exact .object (List.perm_append_singleton _ [_, _, _]) (.cons (.array hargs) (.refl _))

/-- The tag inside the argument is no tag of the event, and the order of the fields does not matter. -/
theorem written_events_come_back_preparedUpdate :
    itemsAreProper preparedUpdate.args = true ∧ read? preparedUpdate.toJson = some preparedUpdate ∧
      ∃ e', read? reorderedUpdate = some e' ∧ preparedUpdate.Same e' := by
  have hproper : itemsAreProper preparedUpdate.args = true := by decide +kernel
  obtain ⟨hread, hreordered, -⟩ := written_events_come_back preparedUpdate hproper
  exact ⟨hproper, hread, hreordered _ same_reorderedUpdate⟩

end Event

end Instrumentation
