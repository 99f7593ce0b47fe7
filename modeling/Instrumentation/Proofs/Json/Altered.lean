import Instrumentation.Json.Document
import Instrumentation.Proofs.Table

set_option autoImplicit false

/-!
# Altered records

Somebody edits the written form of a record: fields are left out, fields with unknown names are added, and the order of
the fields changes (`AlteredFields`). A reader that knows the names of the record does not notice more of it than that
some fields are left out (`AlteredFields.record?_eq`), and a field that has a default value takes it where it is left
out (`AlteredFields.defaulted_eq`).

What is read item by item is read from altered items if each of them is (`AlteredItems`).
-/

namespace Instrumentation

namespace Json

/-- The fields of an object. -/
def fields : Json → List (String × Json)
  | .object fields => fields
  | _ => []

/-- The fields of a record after an edit. The fields that `leftOut` names are gone, others whose names are not those of
the record are added, and all of them may stand in any order. -/
def AlteredFields (written : List (String × Json)) (leftOut : String → Bool)
    (altered : List (String × Json)) : Prop :=
  ∃ added : List (String × Json), (∀ f ∈ added, f.1 ∉ written.map Prod.fst) ∧
    altered.Perm ((written.filter fun f => !leftOut f.1) ++ added)

/-- The items of a list after edits of the items, and what is to be read from them. -/
inductive AlteredItems {α : Type} (altered : α → Json → α → Prop) :
    List α → List Json → List α → Prop
  | nil : AlteredItems altered [] [] []
  | cons {a a' : α} {j : Json} {as as' : List α} {js : List Json} (item : altered a j a')
      (rest : AlteredItems altered as js as') : AlteredItems altered (a :: as) (j :: js) (a' :: as')

namespace AlteredFields

variable {written altered : List (String × Json)} {leftOut : String → Bool} {names : List String}

/-- Nothing is left out or added. -/
theorem refl (written : List (String × Json)) : AlteredFields written (fun _ => false) written :=
  ⟨[], List.forall_mem_nil _, by simp⟩

/-- Of the altered fields a reader keeps those that were written and are not left out. -/
theorem known_perm (h : AlteredFields written leftOut altered)
    (hnames : written.map Prod.fst = names) :
    (altered.filter fun f => names.contains f.1).Perm
      (written.filter fun f => !leftOut f.1) := by
  obtain ⟨added, hadded, hperm⟩ := h
  subst hnames
  have hkept : ((written.filter fun f => !leftOut f.1).filter fun f =>
      (written.map Prod.fst).contains f.1) = written.filter fun f => !leftOut f.1 := by
    refine List.filter_eq_self.2 fun f hf => ?_
    rw [List.contains_iff_mem]
    exact List.mem_map_of_mem (List.mem_filter.1 hf).1
  have hdropped : (added.filter fun f => (written.map Prod.fst).contains f.1) = [] := by
    refine List.filter_eq_nil_iff.2 fun f hf => ?_
    rw [List.contains_iff_mem]
    exact hadded f hf
  -- What was added has other names, and what was written has only names of the record.
  have hfiltered := hperm.filter fun f => (written.map Prod.fst).contains f.1
  rwa [List.filter_append, hkept, hdropped, List.append_nil] at hfiltered

/-- **Reading an altered record.** It is readable, and a field is there if it was written and is not left out. -/
theorem record?_eq (h : AlteredFields written leftOut altered) (names : List String)
    (hnames : written.map Prod.fst = names) (hnodup : names.Nodup) :
    ∃ r : Record Json, Document.record? names (Json.object altered) = some r ∧
      ∀ name, r.fields.lookup name = (written.lookup name).filter fun _ => !leftOut name := by
  have hknown := h.known_perm hnames
  rw [← hnames] at hnodup
  have hkept : ((written.filter fun f => !leftOut f.1).map Prod.fst).Nodup :=
    Table.nodup_filter _ hnodup
  have hread : ((altered.filter fun f => names.contains f.1).map Prod.fst).Nodup :=
    (hknown.map Prod.fst).nodup_iff.2 hkept
  refine ⟨⟨false, altered.filter fun f => names.contains f.1⟩, ?_, fun name => ?_⟩
  · show Record.ofNamed? names altered = _
    rw [Record.ofNamed?, if_pos hread]
  · rw [Table.lookup_of_perm hknown hread]
    exact Table.lookup_filter hnodup (fun name _ => !leftOut name) name

end AlteredFields

/-- A field with a default value takes it if it is left out, and is read otherwise. -/
theorem defaulted_eq {r : Record Json} {written : List (String × Json)} {leftOut : String → Bool}
    (hfields : ∀ name, r.fields.lookup name = (written.lookup name).filter fun _ => !leftOut name)
    {α : Type} {name : String} {j : Json} {read : Json → Option α} {value : α}
    (hwritten : written.lookup name = some j) (hread : read j = some value) (fallback : α) :
    r.defaulted name read fallback = some (if leftOut name then fallback else value) := by
  rw [Record.defaulted, hfields, hwritten]
  cases leftOut name with
  | false => exact hread
  | true => rfl

/-- Items that nobody has edited. -/
theorem AlteredItems.refl {α : Type} {altered : α → Json → α → Prop} {write : α → Json}
    (h : ∀ a, altered a (write a) a) (as : List α) : AlteredItems altered as (as.map write) as := by
  induction as with
  | nil => exact .nil
  | cons a rest ih => exact .cons (h a) ih

/-- What is read item by item is read from altered items if each of them is. -/
theorem AlteredItems.list?_eq {α : Type} {altered : α → Json → α → Prop} {as as' : List α}
    {js : List Json} (h : AlteredItems altered as js as') (read : Json → Option α)
    (hread : ∀ a j a', altered a j a' → read j = some a') : Document.list? read (Json.array js) = some as' := by
  show js.mapM read = some as'
  induction h with
  | nil => rfl
  | cons item rest ih =>
      rw [List.mapM_cons, hread _ _ _ item, ih]
      rfl

end Json

end Instrumentation
