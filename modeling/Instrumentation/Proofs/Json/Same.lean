import Instrumentation.Proofs.Json.Whole

set_option autoImplicit false

/-!
# Values up to the order of fields

An object is a finite map, and whoever keeps it as one gives its fields back in an order of his own. `Same` relates the
values that differ in no more than that, at whatever depth. What is the same as a proper value is proper
(`Same.isProper`), and it holds the same fields (`Same.carries`).

A reader that is asked for the fields of a record finds them all (`Carries.record?`), and it reads from each what it
would read from any value that is the same (`Holds.required`, `Holds.optional`).
-/

namespace Instrumentation

namespace Json

mutual

/-- Values that differ at most in the order of the fields of their objects. -/
inductive Same : Json → Json → Prop
  | null : Same .null .null
  | bool (value : Bool) : Same (.bool value) (.bool value)
  | number (value : Json.Number) : Same (.number value) (.number value)
  | string (value : String) : Same (.string value) (.string value)
  | array {items items' : List Json} (h : SameItems items items') : Same (.array items) (.array items')
  | object {fields ordered fields' : List (String × Json)} (order : fields.Perm ordered)
      (h : SameFields ordered fields') : Same (.object fields) (.object fields')

/-- Items that are the same one by one. -/
inductive SameItems : List Json → List Json → Prop
  | nil : SameItems [] []
  | cons {v v' : Json} {vs vs' : List Json} (item : Same v v') (rest : SameItems vs vs') :
      SameItems (v :: vs) (v' :: vs')

/-- Fields that have the same names and values one by one. -/
inductive SameFields : List (String × Json) → List (String × Json) → Prop
  | nil : SameFields [] []
  | cons {name : String} {v v' : Json} {fs fs' : List (String × Json)} (value : Same v v')
      (rest : SameFields fs fs') : SameFields ((name, v) :: fs) ((name, v') :: fs')

end

mutual

theorem Same.refl : ∀ v : Json, Same v v
  | .null => .null
  | .bool value => .bool value
  | .number value => .number value
  | .string value => .string value
  | .array items => .array (SameItems.refl items)
  | .object fields => .object (List.Perm.refl fields) (SameFields.refl fields)

theorem SameItems.refl : ∀ vs : List Json, SameItems vs vs
  | [] => .nil
  | v :: vs => .cons (Same.refl v) (SameItems.refl vs)

theorem SameFields.refl : ∀ fs : List (String × Json), SameFields fs fs
  | [] => .nil
  | (_, v) :: fs => .cons (Same.refl v) (SameFields.refl fs)

end

theorem SameFields.names_eq {fields fields' : List (String × Json)} (h : SameFields fields fields') :
    fields'.map Prod.fst = fields.map Prod.fst := by
  induction fields generalizing fields' with
  | nil =>
      cases h
      rfl
  | cons f fs ih =>
      cases h with
      | cons value rest => rw [List.map_cons, List.map_cons, ih rest]

mutual

/-- What is the same as a proper value is proper. -/
theorem Same.isProper {v v' : Json} (h : Same v v') (hv : v.isProper = true) : v'.isProper = true := by
  cases h with
  | null => exact hv
  | bool value => exact hv
  | number value => exact hv
  | string value => exact hv
  | array hitems =>
      rw [Json.isProper] at hv ⊢
      exact hitems.areProper hv
  | object order hfields =>
      rw [Json.isProper, Bool.and_eq_true, decide_eq_true_eq] at hv ⊢
      refine ⟨?_, hfields.areProper ?_⟩
      · rw [hfields.names_eq]
        exact (order.map Prod.fst).nodup_iff.1 hv.1
      · exact fieldsAreProper_iff.2 fun f hf => fieldsAreProper_iff.1 hv.2 f (order.mem_iff.2 hf)

theorem SameItems.areProper {vs vs' : List Json} (h : SameItems vs vs') (hv : itemsAreProper vs = true) :
    itemsAreProper vs' = true := by
  cases h with
  | nil => rfl
  | cons item rest =>
      rw [itemsAreProper, Bool.and_eq_true] at hv ⊢
      exact ⟨item.isProper hv.1, rest.areProper hv.2⟩

theorem SameFields.areProper {fs fs' : List (String × Json)} (h : SameFields fs fs')
    (hf : fieldsAreProper fs = true) : fieldsAreProper fs' = true := by
  cases h with
  | nil => rfl
  | cons value rest =>
      rw [fieldsAreProper, Bool.and_eq_true] at hf ⊢
      exact ⟨value.isProper hf.1, rest.areProper hf.2⟩

end

/-! ## Fields -/

/-- Every field of the first list is in the second one, under its name and with the same value. -/
def Carries (written fields : List (String × Json)) : Prop :=
  ∀ name v, written.lookup name = some v → ∃ w, fields.lookup name = some w ∧ v.Same w

theorem mem_names_of_lookup {fields : List (String × Json)} {name : String} {v : Json}
    (h : fields.lookup name = some v) : name ∈ fields.map Prod.fst := by
  obtain ⟨front, rest, rfl, -⟩ := List.lookup_eq_some_iff.1 h
  exact List.mem_map.2 ⟨(name, v), List.mem_append_right front List.mem_cons_self, rfl⟩

theorem SameFields.carries {fields fields' : List (String × Json)} (h : SameFields fields fields') :
    Carries fields fields' := by
  intro name v hv
  induction fields generalizing fields' with
  | nil => cases hv
  | cons f fs ih =>
      cases h with
      | @cons k u u' _ fs' value rest =>
          rw [Table.lookup_cons_ite] at hv ⊢
          by_cases hname : name = k
          · rw [if_pos hname] at hv ⊢
            cases hv
            exact ⟨u', rfl, value⟩
          · rw [if_neg hname] at hv ⊢
            exact ih rest hv

/-- A value that is the same as an object is an object with the same fields. -/
theorem Same.carries {fields : List (String × Json)} {w : Json} (h : Same (.object fields) w)
    (hnodup : (fields.map Prod.fst).Nodup) :
    ∃ fields', w = .object fields' ∧ (fields'.map Prod.fst).Nodup ∧ Carries fields fields' := by
  cases h with
  | @object _ ordered fields' order hfields =>
      refine ⟨fields', rfl, ?_, fun name v hv => ?_⟩
      · rw [hfields.names_eq]
        exact (order.map Prod.fst).nodup_iff.1 hnodup
      · rw [Table.lookup_of_perm order hnodup] at hv
        exact hfields.carries name v hv

/-- Of a tagged object the tag is found, and the other fields are found besides. -/
theorem Same.tagged {fields : List (String × Json)} {tag text : String} {w : Json}
    (h : Same (.object ((tag, .string text) :: fields)) w) (hnodup : (tag :: fields.map Prod.fst).Nodup) :
    ∃ rest, Document.tagged? tag w = some (text, .mapping (fieldsToUntyped rest)) ∧
      (rest.map Prod.fst).Nodup ∧ Carries fields rest ∧
      ∀ name, name ≠ tag → rest.lookup name = w.field? name := by
  obtain ⟨fields', rfl, hnodup', hcarries⟩ := h.carries hnodup
  have hrest : ∀ name, name ≠ tag →
      (fields'.filter fun f => f.1 != tag).lookup name = fields'.lookup name := by
    intro name hname
    rw [Table.lookup_filter hnodup' (fun k _ => k != tag) name, (bne_iff_ne).2 hname]
    cases fields'.lookup name <;> rfl
  refine ⟨fields'.filter fun f => f.1 != tag, ?_, Table.nodup_filter _ hnodup', fun name v hv => ?_, hrest⟩
  · obtain ⟨t, ht, hsame⟩ := hcarries tag (.string text) (by rw [Table.lookup_cons_ite, if_pos rfl])
    cases hsame
    exact tagged?_fieldsToUntyped hnodup' ht
  · have hname : name ≠ tag := by
      rintro rfl
      exact (List.nodup_cons.1 hnodup).1 (mem_names_of_lookup hv)
    rw [hrest name hname]
    exact hcarries name v (by rw [Table.lookup_cons_ite, if_neg hname, hv])

/-! ## Readers -/

/-- Whatever is the same as a written value is read as `a` once it was taken in whole. -/
def Reads {α : Type} (read : Untyped → Option α) (written : Json) (a : α) : Prop :=
  ∀ w, written.Same w → read w.toUntyped = some a

/-- A record holds the same values as the written fields, taken in whole. -/
def Holds (written : List (String × Json)) (r : Record Untyped) : Prop :=
  ∀ name v, written.lookup name = some v → ∃ w, r.fields.lookup name = some w.toUntyped ∧ v.Same w

/-- A reader that knows the names of a record finds its fields. -/
theorem Carries.record? {written fields : List (String × Json)} (h : Carries written fields)
    (hnodup : (fields.map Prod.fst).Nodup) (names : List String) (hnames : written.map Prod.fst = names) :
    ∃ r, Document.record? names (Untyped.mapping (fieldsToUntyped fields)) = some r ∧ Holds written r ∧
      ∀ name ∈ names, r.fields.lookup name = (fields.lookup name).map toUntyped := by
  obtain ⟨r, hread, hfields⟩ := record?_fieldsToUntyped hnodup names
  refine ⟨r, hread, fun name v hv => ?_, hfields⟩
  obtain ⟨w, hw, hsame⟩ := h name v hv
  refine ⟨w, ?_, hsame⟩
  rw [hfields name (hnames ▸ mem_names_of_lookup hv), hw, Option.map_some]

/-- A value that is there is not taken for missing. -/
theorem optional?_toUntyped {w : Json} (h : w ≠ .null) :
    Document.optional? w.toUntyped = some (some w.toUntyped) := by
  cases w with
  | null => exact absurd rfl h
  | bool value => rfl
  | number value => cases value <;> rfl
  | string value => rfl
  | array items => rfl
  | object fields => rfl

section Holds

variable {α : Type} {written : List (String × Json)} {r : Record Untyped} {name : String}
  {read : Untyped → Option α}

theorem Holds.required (h : Holds written r) {v : Json} (hv : written.lookup name = some v) {a : α}
    (hread : Reads read v a) : r.required name read = some a := by
  obtain ⟨w, hw, hsame⟩ := h name v hv
  rw [Record.required, hw]
  exact hread w hsame

/-- A value that may be missing is told from `null`, its absence. -/
theorem Holds.optional (h : Holds written r) {write : α → Json} {o : Option α}
    (hv : written.lookup name = some (.ofOption write o)) (hread : ∀ a, Reads read (write a) a)
    (hnull : ∀ a, write a ≠ .null) : r.optional name read = some o := by
  obtain ⟨w, hw, hsame⟩ := h name _ hv
  rw [Record.optional, hw]
  cases o with
  | none =>
      cases hsame
      rfl
  | some a =>
      have hthere : w ≠ .null := by
        rintro rfl
        -- Only `null` is the same as `null`.
        generalize hwritten : ofOption write (some a) = v at hsame
        cases hsame
        exact hnull a hwritten
      simp only [optional?_toUntyped hthere, Option.bind_eq_bind, Option.bind_some]
      rw [hread a w hsame, Option.map_some]

end Holds

end Json

end Instrumentation
