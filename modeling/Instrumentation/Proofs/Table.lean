import Instrumentation.Table
import Mathlib.Data.List.Nodup

set_option autoImplicit false

/-!
# Tables with the same content

Two tables are the same finite map if they have the same view, in whatever order they list their entries. The
same is said of sets of names. So a count of entries does not depend on the order in which they were added.
-/

namespace Instrumentation

universe u

namespace Table

variable {α : Type u}

theorem mem_entries_iff (t : Table α) {name : String} {value : α} :
    (name, value) ∈ t.entries ↔ t.find? name = some value := by
  obtain ⟨es, hnodup⟩ := t
  show (name, value) ∈ es ↔ es.lookup name = some value
  induction es with
  | nil => simp
  | cons e rest ih =>
      obtain ⟨k, v⟩ := e
      rw [List.map_cons, List.nodup_cons] at hnodup
      rw [lookup_cons_ite, List.mem_cons, Prod.mk.injEq]
      by_cases hk : name = k
      · subst hk
        have hrest : (name, value) ∉ rest :=
          fun h => hnodup.1 (List.mem_map.2 ⟨(name, value), h, rfl⟩)
        rw [if_pos rfl, Option.some.injEq]
        simp [hrest, eq_comm]
      · rw [if_neg hk, ← ih hnodup.2]
        simp [hk]

theorem length_put_le (name : String) (value : α) (es : List (String × α)) :
    (put name value es).length ≤ es.length + 1 := by
  induction es with
  | nil => exact Nat.le_refl 1
  | cons e rest ih =>
      obtain ⟨k, v⟩ := e
      rw [put]
      split
      · exact Nat.le_succ _
      · exact Nat.succ_le_succ ih

/-- A value that is stored adds one name at most. -/
theorem size_insert_le (t : Table α) (name : String) (value : α) :
    (t.insert name value).size ≤ t.size + 1 :=
  length_put_le name value t.entries

/-- Tables list the same entries exactly if they have the same view. -/
theorem perm_entries_iff {s t : Table α} :
    s.entries.Perm t.entries ↔ ∀ name, s.find? name = t.find? name := by
  rw [List.perm_ext_iff_of_nodup (List.Nodup.of_map Prod.fst s.nodup)
    (List.Nodup.of_map Prod.fst t.nodup)]
  constructor
  · intro h name
    refine Option.ext fun value => ?_
    rw [← mem_entries_iff, ← mem_entries_iff]
    exact h (name, value)
  · rintro h ⟨name, value⟩
    rw [mem_entries_iff, mem_entries_iff, h name]

/-- Permuted lists of entries with distinct names have the same view. -/
theorem lookup_of_perm {es es' : List (String × α)} (hperm : es.Perm es')
    (h : (es.map Prod.fst).Nodup) (name : String) : es.lookup name = es'.lookup name := by
  let s : Table α := ⟨es, h⟩
  let t : Table α := ⟨es', (hperm.map Prod.fst).nodup_iff.1 h⟩
  have hview : ∀ name, s.find? name = t.find? name := perm_entries_iff.1 hperm
  exact hview name

end Table

/-- Sets list the same names exactly if they contain the same ones. -/
theorem NameSet.perm_names_iff {s t : NameSet} :
    s.names.Perm t.names ↔ ∀ name, s.contains name = t.contains name := by
  rw [List.perm_ext_iff_of_nodup s.nodup t.nodup]
  refine forall_congr' fun name => ?_
  rw [NameSet.contains, NameSet.contains, Bool.eq_iff_iff, List.contains_iff_mem,
    List.contains_iff_mem]

end Instrumentation
