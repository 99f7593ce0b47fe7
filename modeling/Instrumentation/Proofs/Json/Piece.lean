import Instrumentation.Json.Document
import Instrumentation.Proofs.Document
import Instrumentation.Proofs.Json.Rendered
import Instrumentation.Proofs.Json.Whole

set_option autoImplicit false

/-!
# Pieces of written texts

A piece of a text that was written answers every question like the value it was written from, as long as it is not
nested too deeply (`ReadsAlike`). This is said for single values, for lists and for the fields of records, from which
every reader of a type is put together. Only what is taken in whole notices the nesting (`toUntyped?_ofJson`).
-/

namespace Instrumentation

/-- The record with every piece replaced. -/
def Record.map {δ ε : Type} (f : δ → ε) (r : Record δ) : Record ε :=
  ⟨r.positional, r.fields.map fun e => (e.1, f e.2)⟩

namespace Json

/-! ## Nesting -/

mutual

/-- A value inside a number of brackets can be taken in whole. -/
def nestsFrom (level : Nat) : Json → Bool
  | .array items => decide (level < nestingLimit) && itemsNestFrom (level + 1) items
  | .object fields => decide (level < nestingLimit) && fieldsNestFrom (level + 1) fields
  | _ => true

/-- All items can be taken in whole. -/
def itemsNestFrom (level : Nat) : List Json → Bool
  | [] => true
  | v :: vs => nestsFrom level v && itemsNestFrom level vs

/-- The values of all fields can be taken in whole. -/
def fieldsNestFrom (level : Nat) : List (String × Json) → Bool
  | [] => true
  | (_, v) :: fs => nestsFrom level v && fieldsNestFrom level fs

end

theorem itemsNestFrom_iff {level : Nat} {items : List Json} :
    itemsNestFrom level items = true ↔ ∀ v ∈ items, v.nestsFrom level = true := by
  induction items with
  | nil => simp [itemsNestFrom]
  | cons v vs ih => simp [itemsNestFrom, ih]

theorem fieldsNestFrom_iff {level : Nat} {fields : List (String × Json)} :
    fieldsNestFrom level fields = true ↔ ∀ f ∈ fields, f.2.nestsFrom level = true := by
  induction fields with
  | nil => simp [fieldsNestFrom]
  | cons f fs ih => simp [fieldsNestFrom, ih]

mutual

/-- A written text is taken in whole like its value. -/
theorem toUntyped?_ofJson : ∀ (v : Json) (level : Nat), v.nestsFrom level = true →
    Text.toUntyped? level (Text.ofJson v) = some v.toUntyped
  | .null, _, _ => rfl
  | .bool _, _, _ => rfl
  | .number (.integer _), _, _ => rfl
  | .number (.float _), _, _ => rfl
  | .string _, _, _ => rfl
  | .array items, level, h => by
      rw [nestsFrom, Bool.and_eq_true, decide_eq_true_eq] at h
      rw [Text.ofJson, Text.toUntyped?, if_pos h.1, itemsToUntyped?_ofItems items _ h.2]
      rfl
  | .object fields, level, h => by
      rw [nestsFrom, Bool.and_eq_true, decide_eq_true_eq] at h
      rw [Text.ofJson, Text.toUntyped?, if_pos h.1, membersToUntyped?_ofFields fields _ h.2]
      rfl

theorem itemsToUntyped?_ofItems : ∀ (items : List Json) (level : Nat), itemsNestFrom level items = true →
    Text.itemsToUntyped? level (Text.ofItems items) = some (itemsToUntyped items)
  | [], _, _ => rfl
  | v :: vs, level, h => by
      rw [itemsNestFrom, Bool.and_eq_true] at h
      rw [Text.ofItems, Text.itemsToUntyped?, toUntyped?_ofJson v level h.1,
        itemsToUntyped?_ofItems vs level h.2]
      rfl

theorem membersToUntyped?_ofFields : ∀ (fields : List (String × Json)) (level : Nat),
    fieldsNestFrom level fields = true →
    Text.membersToUntyped? level (Text.ofFields fields) = some (fieldsToUntyped fields)
  | [], _, _ => rfl
  | (k, v) :: fs, level, h => by
      rw [fieldsNestFrom, Bool.and_eq_true] at h
      rw [Text.ofFields, Text.membersToUntyped?, toUntyped?_ofJson v level h.1,
        membersToUntyped?_ofFields fs level h.2]
      rfl

end

/-! ## Pieces -/

/-- The piece of a text that a value is written as, inside a number of brackets. -/
def Piece.ofJson (level : Nat) (v : Json) : Piece := ⟨level, Text.ofJson v⟩

theorem ofItems_eq_map (items : List Json) : Text.ofItems items = items.map Text.ofJson := by
  induction items with
  | nil => rfl
  | cons v vs ih => rw [Text.ofItems, ih, List.map_cons]

theorem items?_ofJson (level : Nat) (v : Json) :
    Document.items? (Piece.ofJson level v) =
      (Document.items? v).map fun items => items.map (Piece.ofJson (level + 1)) := by
  cases v with
  | array items =>
      show some ((Text.ofItems items).map (Piece.ofJson level (.array items)).inner) = _
      rw [ofItems_eq_map, List.map_map]
      rfl
  | number n => cases n <;> rfl
  | _ => rfl

theorem members?_ofFields (p : Piece) (fields : List (String × Json)) :
    p.members? (Text.ofFields fields) =
      some (fields.map fun f => (f.1, Piece.ofJson (p.level + 1) f.2)) := by
  induction fields with
  | nil => rfl
  | cons f fs ih =>
      obtain ⟨k, v⟩ := f
      rw [Piece.members?] at ih ⊢
      rw [Text.ofFields, List.mapM_cons, ih]
      rfl

theorem ofNamed?_map {δ ε : Type} (f : δ → ε) (names : List String) (fields : List (String × δ)) :
    Record.ofNamed? names (fields.map fun e => (e.1, f e.2)) =
      (Record.ofNamed? names fields).map (Record.map f) := by
  have hknown : ((fields.map fun e => (e.1, f e.2)).filter fun e => names.contains e.1) =
      (fields.filter fun e => names.contains e.1).map fun e => (e.1, f e.2) := by
    rw [List.filter_map]
    rfl
  rw [Record.ofNamed?, Record.ofNamed?, hknown, List.map_map]
  show (if ((fields.filter fun e => names.contains e.1).map Prod.fst).Nodup then _ else _) = _
  split <;> rfl

theorem ofPositional?_map {δ ε : Type} (f : δ → ε) (names : List String) (items : List δ) :
    Record.ofPositional? names (items.map f) = (Record.ofPositional? names items).map (Record.map f) := by
  rw [Record.ofPositional?, Record.ofPositional?, List.length_map, List.zip_map_right]
  split <;> rfl

theorem record?_ofJson (level : Nat) (names : List String) (v : Json) :
    Document.record? names (Piece.ofJson level v) =
      (Document.record? names v).map (Record.map (Piece.ofJson (level + 1))) := by
  cases v with
  | array items =>
      show Record.ofPositional? names ((Text.ofItems items).map (Piece.ofJson level (.array items)).inner) = _
      rw [ofItems_eq_map, List.map_map]
      exact ofPositional?_map (Piece.ofJson (level + 1)) names items
  | object fields =>
      show ((Piece.ofJson level (.object fields)).members? (Text.ofFields fields)).bind
        (Record.ofNamed? names) = _
      rw [members?_ofFields, Option.bind_some]
      exact ofNamed?_map (Piece.ofJson (level + 1)) names fields
  | number n => cases n <;> rfl
  | _ => rfl

/-! ## Readers -/

/-- From a piece of a written text the same is read as from its value. -/
def ReadsAlike {α : Type} (level : Nat) (read : Piece → Option α) (read' : Json → Option α) : Prop :=
  ∀ v : Json, v.nestsFrom level = true → read (Piece.ofJson level v) = read' v

variable {α : Type} {level : Nat}

/-- What is asked about single values. -/
theorem single_ofJson (v : Json) :
    Document.bool? (Piece.ofJson level v) = Document.bool? v ∧
      Document.signed? (Piece.ofJson level v) = Document.signed? v ∧
      Document.unsigned? (Piece.ofJson level v) = Document.unsigned? v ∧
      Document.text? (Piece.ofJson level v) = Document.text? v := by
  cases v with
  | number n => cases n <;> exact ⟨rfl, rfl, rfl, rfl⟩
  | _ => exact ⟨rfl, rfl, rfl, rfl⟩

theorem readsAlike_bool : ReadsAlike level Document.bool? Document.bool? :=
  fun v _ => (single_ofJson v).1

theorem readsAlike_text : ReadsAlike level Document.text? Document.text? :=
  fun v _ => (single_ofJson v).2.2.2

theorem readsAlike_int64 : ReadsAlike level Document.int64? Document.int64? := by
  intro v _
  rw [Document.int64?, Document.int64?, (single_ofJson v).2.1]

theorem readsAlike_uint64 : ReadsAlike level Document.uint64? Document.uint64? := by
  intro v _
  rw [Document.uint64?, Document.uint64?, (single_ofJson v).2.2.1]

theorem constant?_ofJson (v : Json) :
    Document.constant? (Piece.ofJson level v) = Document.constant? v := by
  cases v with
  | number n => cases n <;> rfl
  | object fields =>
      -- A constant may also be written as an object with one field, whose value is missing.
      match fields with
      | [] => rfl
      | [(k, .null)] => rfl
      | [(k, .bool b)] => rfl
      | [(k, .number n)] => rfl
      | [(k, .string s)] => rfl
      | [(k, .array items)] => rfl
      | [(k, .object fs)] => rfl
      | (k, v) :: f :: fs => cases v <;> rfl
  | _ => rfl

theorem tagged?_ofJson {v : Json} (h : v.nestsFrom level = true) (tag : String) :
    Document.tagged? tag (Piece.ofJson level v) = Document.tagged? tag v := by
  show (Text.toUntyped? level (Text.ofJson v)).bind _ = v.toUntyped.tagged? tag
  rw [toUntyped?_ofJson v level h, Option.bind_some]

theorem mapM_ofJson {read : Piece → Option α} {read' : Json → Option α} (h : ReadsAlike level read read')
    {items : List Json} (hitems : itemsNestFrom level items = true) :
    (items.map (Piece.ofJson level)).mapM read = items.mapM read' := by
  induction items with
  | nil => rfl
  | cons v vs ih =>
      rw [itemsNestFrom, Bool.and_eq_true] at hitems
      rw [List.map_cons, List.mapM_cons, List.mapM_cons, h v hitems.1, ih hitems.2]

/-- What is read item by item is read alike if every item is. -/
theorem readsAlike_list {read : Piece → Option α} {read' : Json → Option α}
    (h : ReadsAlike (level + 1) read read') :
    ReadsAlike level (Document.list? read) (Document.list? read') := by
  intro v hv
  rw [Document.list?, Document.list?, items?_ofJson]
  cases v with
  | array items =>
      rw [nestsFrom, Bool.and_eq_true] at hv
      exact mapM_ofJson h hv.2
  | number n => cases n <;> rfl
  | _ => rfl

/-- The values of the fields of a record are one level further in. -/
theorem nestsFrom_of_record? {names : List String} {v : Json} {r : Record Json}
    (h : v.nestsFrom level = true) (hr : Document.record? names v = some r) :
    ∀ f ∈ r.fields, f.2.nestsFrom (level + 1) = true := by
  cases v with
  | array items =>
      rw [nestsFrom, Bool.and_eq_true] at h
      change Record.ofPositional? names items = some r at hr
      rw [Record.ofPositional?] at hr
      split at hr
      · cases hr
        exact fun f hf => itemsNestFrom_iff.1 h.2 f.2 (List.of_mem_zip hf).2
      · cases hr
  | object fields =>
      rw [nestsFrom, Bool.and_eq_true] at h
      change Record.ofNamed? names fields = some r at hr
      unfold Record.ofNamed? at hr
      dsimp only at hr
      split at hr
      · cases hr
        exact fun f hf => fieldsNestFrom_iff.1 h.2 f (List.mem_filter.1 hf).1
      · cases hr
  | number n => cases n <;> cases hr
  | _ => cases hr

/-- A field with a default value is read alike if its value is. -/
theorem defaulted_ofJson {read : Piece → Option α} {read' : Json → Option α} {r : Record Json}
    (hr : ∀ f ∈ r.fields, f.2.nestsFrom level = true) (h : ReadsAlike level read read') (name : String)
    (fallback : α) :
    (r.map (Piece.ofJson level)).defaulted name read fallback = r.defaulted name read' fallback := by
  rw [Record.defaulted, Record.defaulted, Record.map, lookup_map_snd]
  cases hlookup : r.fields.lookup name with
  | none => rfl
  | some v =>
      obtain ⟨front, rest, hfields, -⟩ := List.lookup_eq_some_iff.1 hlookup
      exact h v (hr (name, v) (by simp [hfields]))

/-- What is read from the fields of a record is read alike if it is from the fields at hand. -/
theorem record?_bind_ofJson {names : List String} {read : Record Piece → Option α}
    {read' : Record Json → Option α}
    (h : ∀ r, (∀ f ∈ r.fields, f.2.nestsFrom (level + 1) = true) →
      read (r.map (Piece.ofJson (level + 1))) = read' r) :
    ReadsAlike level (fun p => (Document.record? names p).bind read)
      (fun v => (Document.record? names v).bind read') := by
  intro v hv
  show (Document.record? names (Piece.ofJson level v)).bind read =
    (Document.record? names v).bind read'
  rw [record?_ofJson]
  cases hr : Document.record? names v with
  | none => rfl
  | some r => exact h r (nestsFrom_of_record? hv hr)

end Json

end Instrumentation
