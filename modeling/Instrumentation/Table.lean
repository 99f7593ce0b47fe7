set_option autoImplicit false

/-!
# Tables keyed by name

A finite map from names to values. It lists every name once, in the order in which the names were
first added, and a name that is set again keeps its place.

The view of a table is `find?`. The main statements say what each operation does to that view:
`find?_insert`, `find?_erase` and `find?_filter`.
-/

namespace Instrumentation

universe u

/-- Association lists in which no name occurs twice. -/
structure Table (α : Type u) where
  entries : List (String × α) := []
  nodup : (entries.map Prod.fst).Nodup := by simp

namespace Table

variable {α : Type u}

/-- The table without entries. -/
def empty : Table α := {}

instance : EmptyCollection (Table α) := ⟨empty⟩
instance : Inhabited (Table α) := ⟨empty⟩

/-- The names of a table, oldest first. -/
def names (t : Table α) : List String := t.entries.map Prod.fst

/-- The number of names. -/
def size (t : Table α) : Nat := t.entries.length

/-- The value stored under a name. -/
def find? (t : Table α) (name : String) : Option α := t.entries.lookup name

/-- A name is bound when some value is stored under it. -/
def contains (t : Table α) (name : String) : Bool := (t.find? name).isSome

/-- Stores a value in an association list, in place when the name is there and at the end otherwise. -/
def put (name : String) (value : α) : List (String × α) → List (String × α)
  | [] => [(name, value)]
  | (k, v) :: rest => if k = name then (name, value) :: rest else (k, v) :: put name value rest

@[simp] theorem put_nil (name : String) (value : α) : put name value [] = [(name, value)] := rfl

theorem put_cons (name : String) (value : α) (e : String × α) (es : List (String × α)) :
    put name value (e :: es) = if e.1 = name then (name, value) :: es else e :: put name value es := rfl

theorem mem_map_fst_put {name k : String} {value : α} {es : List (String × α)} :
    k ∈ (put name value es).map Prod.fst ↔ k = name ∨ k ∈ es.map Prod.fst := by
  induction es with
  | nil => simp
  | cons e rest ih =>
      obtain ⟨k', v⟩ := e
      by_cases h : k' = name
      · subst h; simp [put_cons]
      · simp only [put_cons, h, if_false, List.map_cons, List.mem_cons, ih]
        constructor
        · rintro (h | h | h) <;> simp [h]
        · rintro (h | h | h) <;> simp [h]

theorem nodup_put {name : String} {value : α} {es : List (String × α)}
    (h : (es.map Prod.fst).Nodup) : ((put name value es).map Prod.fst).Nodup := by
  induction es with
  | nil => simp
  | cons e rest ih =>
      obtain ⟨k, v⟩ := e
      by_cases hk : k = name
      · subst hk; simpa [put_cons] using h
      · simp only [List.map_cons, List.nodup_cons] at h
        simp only [put_cons, hk, if_false, List.map_cons, List.nodup_cons]
        refine ⟨?_, ih h.2⟩
        intro hm
        rcases mem_map_fst_put.1 hm with rfl | hm
        · exact hk rfl
        · exact h.1 hm

/-- Stores a value under a name, in place of an earlier value of that name. -/
def insert (t : Table α) (name : String) (value : α) : Table α :=
  { entries := put name value t.entries, nodup := nodup_put t.nodup }

theorem nodup_filter {es : List (String × α)} (p : String × α → Bool)
    (h : (es.map Prod.fst).Nodup) : ((es.filter p).map Prod.fst).Nodup :=
  h.sublist (List.filter_sublist.map Prod.fst)

/-- Keeps the entries that satisfy a condition. -/
def filter (t : Table α) (p : String → α → Bool) : Table α :=
  { entries := t.entries.filter fun e => p e.1 e.2, nodup := nodup_filter _ t.nodup }

/-- Forgets a name. -/
def erase (t : Table α) (name : String) : Table α :=
  t.filter fun k _ => k != name

@[simp] theorem find?_empty (name : String) : (∅ : Table α).find? name = none := rfl

theorem lookup_cons_ite (k k' : String) (v : α) (es : List (String × α)) :
    ((k', v) :: es).lookup k = if k = k' then some v else es.lookup k := by
  by_cases h : k = k'
  · simp [h]
  · have hb : (k == k') = false := by simpa using h
    simp [List.lookup_cons, hb, h]

theorem lookup_put (name k : String) (value : α) (es : List (String × α)) :
    (put name value es).lookup k = if k = name then some value else es.lookup k := by
  induction es with
  | nil => simp [lookup_cons_ite]
  | cons e rest ih =>
      obtain ⟨k', v⟩ := e
      by_cases hk : k' = name
      · subst hk
        by_cases h : k = k' <;> simp [put_cons, lookup_cons_ite, h]
      · by_cases h : k = k'
        · subst h; simp [put_cons, hk]
        · simp [put_cons, hk, lookup_cons_ite, h, ih]

/-- Setting a name changes the view at that name only. -/
theorem find?_insert (t : Table α) (name k : String) (value : α) :
    (t.insert name value).find? k = if k = name then some value else t.find? k :=
  lookup_put name k value t.entries

theorem lookup_filter {es : List (String × α)} (h : (es.map Prod.fst).Nodup)
    (p : String → α → Bool) (k : String) :
    (es.filter fun e => p e.1 e.2).lookup k = (es.lookup k).filter (p k) := by
  induction es with
  | nil => simp
  | cons e rest ih =>
      obtain ⟨k', v⟩ := e
      simp only [List.map_cons, List.nodup_cons] at h
      have ih := ih h.2
      have hnone : k = k' → rest.lookup k = none := by
        rintro rfl
        rw [List.lookup_eq_none_iff]
        intro q hq
        simp only [bne_iff_ne, ne_eq]
        rintro rfl
        exact h.1 (List.mem_map.2 ⟨q, hq, rfl⟩)
      by_cases hk : k = k'
      · have hn := hnone hk
        subst hk
        by_cases hp : p k v <;>
          simp [hp, ih, hn, Option.filter]
      · by_cases hp : p k' v <;> simp [hp, lookup_cons_ite, hk, ih]

/-- Filtering keeps the value of a name when the value passes. -/
theorem find?_filter (t : Table α) (p : String → α → Bool) (k : String) :
    (t.filter p).find? k = (t.find? k).filter (p k) :=
  lookup_filter t.nodup p k

/-- Forgetting a name changes the view at that name only. -/
theorem find?_erase (t : Table α) (name k : String) :
    (t.erase name).find? k = if k = name then none else t.find? k := by
  rw [erase, find?_filter]
  by_cases h : k = name
  · subst h; cases t.find? k <;> simp [Option.filter]
  · cases t.find? k <;> simp [Option.filter, h]

end Table

/-- A finite set of names, listed in the order in which they were added. -/
structure NameSet where
  names : List String := []
  nodup : names.Nodup := by simp
deriving DecidableEq

namespace NameSet

/-- The set without names. -/
def empty : NameSet := {}

instance : EmptyCollection NameSet := ⟨empty⟩
instance : Inhabited NameSet := ⟨empty⟩

/-- Membership as a test. -/
def contains (s : NameSet) (name : String) : Bool := s.names.contains name

/-- Adds a name that is not there yet. -/
def insert (s : NameSet) (name : String) : NameSet :=
  if h : name ∈ s.names then s
  else
    { names := s.names ++ [name]
      nodup := by
        rw [List.nodup_append]
        refine ⟨s.nodup, by simp, ?_⟩
        intro a ha b hb
        simp only [List.mem_singleton] at hb
        subst hb
        rintro rfl
        exact h ha }

/-- Adds the names of a list one after the other. -/
def insertAll (s : NameSet) (names : List String) : NameSet := names.foldl insert s

/-- The set of the names of a list. -/
def ofList (names : List String) : NameSet := insertAll empty names

/-- The names in the order of their code points. -/
def sorted (s : NameSet) : List String := s.names.mergeSort fun a b => decide (a ≤ b)

theorem mem_insert {s : NameSet} {name k : String} :
    k ∈ (s.insert name).names ↔ k = name ∨ k ∈ s.names := by
  unfold insert
  split
  · constructor
    · exact Or.inr
    · rintro (rfl | h) <;> assumption
  · simp [or_comm]

theorem contains_insert (s : NameSet) (name k : String) :
    (s.insert name).contains k = (k == name || s.contains k) := by
  have := @mem_insert s name k
  by_cases h : k = name <;> simp_all [contains]

theorem contains_insertAll (s : NameSet) (names : List String) (k : String) :
    (s.insertAll names).contains k = (names.contains k || s.contains k) := by
  induction names generalizing s with
  | nil => simp [insertAll]
  | cons n rest ih =>
      have := ih (s.insert n)
      simp only [insertAll, List.foldl_cons] at this ⊢
      rw [this, contains_insert]
      by_cases h : k = n
      · simp [h]
      · by_cases h' : k ∈ rest <;> simp [h, h']

end NameSet

end Instrumentation
