import Instrumentation.Json.Document
import Instrumentation.Proofs.Table

set_option autoImplicit false

/-!
# Values taken in whole

What is read before its type is known is taken in whole and asked later. A proper value, in which no object repeats a
name and all doubles are finite, comes back from that as it was (`toJson?_toUntyped`). Asked for a tag, an object
gives it and the other fields (`tagged?_fieldsToUntyped`), and asked for a record it gives the fields under the names
of the record (`record?_fieldsToUntyped`).
-/

namespace Instrumentation

namespace Json

/-! ## Fields with distinct names -/

theorem setField_of_not_mem {name : String} {fields : List (String × Json)}
    (h : name ∉ fields.map Prod.fst) (v : Json) : setField name v fields = fields ++ [(name, v)] := by
  induction fields with
  | nil => rfl
  | cons f fs ih =>
      rw [List.map_cons, List.mem_cons, not_or] at h
      rw [setField, if_neg (Ne.symm h.1), ih h.2, List.cons_append]

theorem foldl_setField_of_nodup (fields front : List (String × Json))
    (h : ((front ++ fields).map Prod.fst).Nodup) :
    fields.foldl (fun acc f => setField f.1 f.2 acc) front = front ++ fields := by
  induction fields generalizing front with
  | nil => rw [List.foldl_nil, List.append_nil]
  | cons f fs ih =>
      have hfresh : f.1 ∉ front.map Prod.fst := by
        rw [List.map_append, List.map_cons] at h
        exact fun hmem => (List.nodup_append.1 h).2.2 _ hmem _ List.mem_cons_self rfl
      rw [List.append_cons] at h
      rw [List.foldl_cons, setField_of_not_mem hfresh, ih _ h, List.append_assoc, List.singleton_append]

/-- Where no name is repeated, the last field of a name is its only one. -/
theorem ofFields_of_nodup {fields : List (String × Json)} (h : (fields.map Prod.fst).Nodup) :
    ofFields fields = .object fields := by
  rw [ofFields, foldl_setField_of_nodup fields [] h, List.nil_append]

/-! ## Proper values -/

mutual

/-- No object of a value repeats a name, and its doubles are finite. -/
def isProper : Json → Bool
  | .null => true
  | .bool _ => true
  | .number (.integer _) => true
  | .number (.float x) => !(x.isNaN || x.isInf)
  | .string _ => true
  | .array items => itemsAreProper items
  | .object fields => decide (fields.map Prod.fst).Nodup && fieldsAreProper fields

/-- All items are proper. -/
def itemsAreProper : List Json → Bool
  | [] => true
  | v :: vs => isProper v && itemsAreProper vs

/-- The values of all fields are proper. -/
def fieldsAreProper : List (String × Json) → Bool
  | [] => true
  | (_, v) :: fs => isProper v && fieldsAreProper fs

end

theorem itemsAreProper_iff {items : List Json} :
    itemsAreProper items = true ↔ ∀ v ∈ items, v.isProper = true := by
  induction items with
  | nil => simp [itemsAreProper]
  | cons v vs ih => simp [itemsAreProper, ih]

theorem fieldsAreProper_iff {fields : List (String × Json)} :
    fieldsAreProper fields = true ↔ ∀ f ∈ fields, f.2.isProper = true := by
  induction fields with
  | nil => simp [fieldsAreProper]
  | cons f fs ih => simp [fieldsAreProper, ih]

mutual

/-- **A proper value survives being taken in whole.** -/
theorem toJson?_toUntyped : ∀ v : Json, v.isProper = true → v.toUntyped.toJson? = some v
  | .null, _ => rfl
  | .bool _, _ => rfl
  | .number (.integer _), _ => rfl
  | .number (.float x), h => by
      rw [isProper, Bool.not_eq_true'] at h
      rw [toUntyped, Untyped.toJson?, h]
      rfl
  | .string _, _ => rfl
  | .array items, h => by
      rw [isProper] at h
      rw [toUntyped, Untyped.toJson?, itemsToJson?_itemsToUntyped items h]
      rfl
  | .object fields, h => by
      rw [isProper, Bool.and_eq_true, decide_eq_true_eq] at h
      rw [toUntyped, Untyped.toJson?, entriesToJson?_fieldsToUntyped fields h.2, Option.map_some,
        ofFields_of_nodup h.1]

theorem itemsToJson?_itemsToUntyped : ∀ items : List Json, itemsAreProper items = true →
    Untyped.itemsToJson? (itemsToUntyped items) = some items
  | [], _ => rfl
  | v :: vs, h => by
      rw [itemsAreProper, Bool.and_eq_true] at h
      rw [itemsToUntyped, Untyped.itemsToJson?, toJson?_toUntyped v h.1, itemsToJson?_itemsToUntyped vs h.2]
      rfl

theorem entriesToJson?_fieldsToUntyped : ∀ fields : List (String × Json), fieldsAreProper fields = true →
    Untyped.entriesToJson? (fieldsToUntyped fields) = some fields
  | [], _ => rfl
  | (name, v) :: fs, h => by
      rw [fieldsAreProper, Bool.and_eq_true] at h
      rw [fieldsToUntyped, Untyped.entriesToJson?, toJson?_toUntyped v h.1,
        entriesToJson?_fieldsToUntyped fs h.2]
      rfl

end

/-! ## Tags and records -/

/-- An array that was taken in whole is read item by item. -/
theorem list?_toUntyped {α : Type} {read : Untyped → Option α} {write : α → Json} {as : List α}
    (h : ∀ a ∈ as, read (write a).toUntyped = some a) :
    Document.list? read (Json.array (as.map write)).toUntyped = some as := by
  show (itemsToUntyped (as.map write)).mapM read = some as
  induction as with
  | nil => rfl
  | cons a rest ih =>
      obtain ⟨hfirst, hlater⟩ := List.forall_mem_cons.1 h
      rw [List.map_cons, itemsToUntyped, List.mapM_cons, hfirst, ih hlater]
      rfl

theorem fieldsToUntyped_eq_map (fields : List (String × Json)) :
    fieldsToUntyped fields = fields.map fun f => (.text f.1, f.2.toUntyped) := by
  induction fields with
  | nil => rfl
  | cons f fs ih => rw [fieldsToUntyped, ih, List.map_cons]

theorem filter_fst_eq_of_lookup {es : List (String × Json)} (h : (es.map Prod.fst).Nodup) {name : String}
    {v : Json} (hv : es.lookup name = some v) : (es.filter fun e => e.1 == name) = [(name, v)] := by
  induction es with
  | nil => cases hv
  | cons e rest ih =>
      obtain ⟨k, w⟩ := e
      rw [List.map_cons, List.nodup_cons] at h
      rw [Table.lookup_cons_ite] at hv
      by_cases hk : name = k
      · subst hk
        rw [if_pos rfl] at hv
        cases hv
        -- The name is not repeated, so no later entry has it.
        have hrest : (rest.filter fun e => e.1 == name) = [] := by
          refine List.filter_eq_nil_iff.2 fun e he hname => h.1 ?_
          exact List.mem_map.2 ⟨e, he, eq_of_beq hname⟩
        rw [List.filter_cons_of_pos (by simp), hrest]
      · rw [if_neg hk] at hv
        rw [List.filter_cons_of_neg (by simpa using Ne.symm hk), ih h.2 hv]

/-- A tagged object gives its tag and its other fields. -/
theorem tagged?_fieldsToUntyped {fields : List (String × Json)} (h : (fields.map Prod.fst).Nodup)
    {tag text : String} (htag : fields.lookup tag = some (.string text)) :
    Untyped.tagged? tag (.mapping (fieldsToUntyped fields)) =
      some (text, .mapping (fieldsToUntyped (fields.filter fun f => f.1 != tag))) := by
  have hkept : ((fieldsToUntyped fields).filter fun e => e.1.isText tag) =
      fieldsToUntyped (fields.filter fun f => f.1 == tag) := by
    rw [fieldsToUntyped_eq_map, fieldsToUntyped_eq_map, List.filter_map]
    rfl
  have hrest : ((fieldsToUntyped fields).filter fun e => !e.1.isText tag) =
      fieldsToUntyped (fields.filter fun f => f.1 != tag) := by
    rw [fieldsToUntyped_eq_map, fieldsToUntyped_eq_map, List.filter_map]
    rfl
  rw [Untyped.tagged?, hkept, hrest, filter_fst_eq_of_lookup h htag]
  rfl

theorem lookup_map_snd {α β : Type} (f : α → β) (es : List (String × α)) (name : String) :
    (es.map fun e => (e.1, f e.2)).lookup name = (es.lookup name).map f := by
  induction es with
  | nil => rfl
  | cons e rest ih =>
      obtain ⟨k, v⟩ := e
      rw [List.map_cons, Table.lookup_cons_ite, Table.lookup_cons_ite, ih]
      by_cases hk : name = k
      · rw [if_pos hk, if_pos hk, Option.map_some]
      · rw [if_neg hk, if_neg hk]

/-- The keys of an object that was taken in whole are the names of its fields. -/
theorem mapM_fieldName? (names : List String) (fields : List (String × Json)) :
    ((fieldsToUntyped fields).mapM fun e => (Untyped.fieldName? names e.1).map fun name => (name, e.2)) =
      some (fields.map fun f => (f.1, f.2.toUntyped)) := by
  induction fields with
  | nil => rfl
  | cons f fs ih =>
      rw [fieldsToUntyped, List.mapM_cons, ih]
      rfl

/-- Of an object with distinct names a reader sees the fields under the names that it knows. -/
theorem record?_fieldsToUntyped {fields : List (String × Json)} (h : (fields.map Prod.fst).Nodup)
    (names : List String) :
    ∃ r : Record Untyped, Document.record? names (Untyped.mapping (fieldsToUntyped fields)) = some r ∧
      ∀ name ∈ names, r.fields.lookup name = (fields.lookup name).map toUntyped := by
  have hnodup : ((fields.map fun f => (f.1, f.2.toUntyped)).map Prod.fst).Nodup := by
    rwa [List.map_map]
  refine ⟨⟨false, (fields.map fun f => (f.1, f.2.toUntyped)).filter fun f => names.contains f.1⟩, ?_,
    fun name hname => ?_⟩
  · show ((fieldsToUntyped fields).mapM fun e =>
      (Untyped.fieldName? names e.1).map fun name => (name, e.2)).bind (Record.ofNamed? names) = _
    rw [mapM_fieldName?, Option.bind_some, Record.ofNamed?]
    exact if_pos (Table.nodup_filter _ hnodup)
  · show ((fields.map fun f => (f.1, f.2.toUntyped)).filter fun f => names.contains f.1).lookup name = _
    rw [Table.lookup_filter hnodup (fun k _ => names.contains k) name, lookup_map_snd,
      List.contains_iff_mem.2 hname]
    cases fields.lookup name <;> rfl

end Json

end Instrumentation
