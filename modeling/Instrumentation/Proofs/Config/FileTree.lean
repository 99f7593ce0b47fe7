import Instrumentation.Config.FileTree
import Mathlib.Data.List.Basic

set_option autoImplicit false

/-!
# Reading what was written

A file is written at a place in a directory that is there, under a name that leads downwards (`Destination`), and that
place does not depend on the content (`writeIn_eq_ok_iff`). With the new file the same parts still lead to its
directory, because no directory on the way gives place to it (`foldlM_step_put`). So where some content can be written,
every text can be written, and is read back (`exists_writeText`).
-/

namespace Instrumentation

/-- What is computed in two parts is there if both parts are. -/
theorem bind_eq_ok_iff {ε α β : Type} {x : Except ε α} {f : α → Except ε β} {b : β} :
    x.bind f = .ok b ↔ ∃ a, x = .ok a ∧ f a = .ok b := by
  cases x <;> simp [Except.bind]

namespace FilePlace

theorem isAbove_iff {p q : FilePlace} :
    p.isAbove q = true ↔ p.outside = q.outside ∧ p.names <+: q.names := by
  rw [isAbove, Bool.and_eq_true, beq_iff_eq, List.isPrefixOf_iff_prefix]

end FilePlace

/-- A name at the end of a path that is not empty stays there. -/
theorem FilePath.trimEnd_concat {front : List String} {name : String} (h : name ≠ "") :
    trimEnd (fun part => part == "") (front ++ [name]) = front ++ [name] := by
  rw [trimEnd, List.reverse_concat, List.dropWhile_cons_of_neg (by simpa using h),
    List.reverse_cons, List.reverse_reverse]

namespace FileTree

variable {t t' : FileTree} {place next q : FilePlace} {e : FileEntry} {content : ByteArray}

/-! ## Places where something stands -/

/-- Something stands at a place. -/
def Stands (t : FileTree) (place : FilePlace) : Prop := ∃ e, t.entry? place = some e

theorem entry?_of_lookup (h : t.entries.lookup place = some e) : t.entry? place = some e := by
  unfold entry?
  rw [h]

theorem entry?_of_lookup_eq_none (h : t.entries.lookup place = none) :
    t.entry? place =
      if (place.names.isEmpty || t.entries.any fun e => place.isAbove e.1) = true
      then some .directory else none := by
  unfold entry?
  rw [h]

/-- Something stands where paths begin, in the directory around it, and wherever the way to an entry leads through. -/
theorem stands_iff :
    t.Stands place ↔ place.names = [] ∨ ∃ e ∈ t.entries, place.isAbove e.1 = true := by
  cases hlookup : t.entries.lookup place with
  | some e =>
      obtain ⟨front, rest, hentries, -⟩ := List.lookup_eq_some_iff.1 hlookup
      have hmem : (place, e) ∈ t.entries := by simp [hentries]
      have habove : place.isAbove place = true := FilePlace.isAbove_iff.2 ⟨rfl, List.prefix_rfl⟩
      exact iff_of_true ⟨e, entry?_of_lookup hlookup⟩ (.inr ⟨_, hmem, habove⟩)
  | none =>
      rw [Stands, entry?_of_lookup_eq_none hlookup]
      simp

theorem Stands.entry?_of_lookup_eq_none (h : t.Stands place) (hnone : t.entries.lookup place = none) :
    t.entry? place = some .directory := by
  obtain ⟨e, he⟩ := h
  rw [FileTree.entry?_of_lookup_eq_none hnone] at he ⊢
  split at he
  · rw [if_pos ‹_›]
  · cases he

theorem stands_start : t.Stands {} := stands_iff.2 (.inl rfl)

theorem Stands.parent (h : t.Stands place) : t.Stands place.parent := by
  rw [FilePlace.parent]
  split
  · exact stands_iff.2 (.inl rfl)
  · rcases stands_iff.1 h with hnames | ⟨e, he, habove⟩
    · exact stands_iff.2 (.inl (by simp [hnames]))
    · obtain ⟨houtside, hprefix⟩ := FilePlace.isAbove_iff.1 habove
      exact stands_iff.2 (.inr ⟨e, he, FilePlace.isAbove_iff.2
        ⟨houtside, (List.dropLast_prefix _).trans hprefix⟩⟩)

/-- Where something stands that is no file, there is a directory. -/
theorem entry?_of_isFile_eq_false (h : t.Stands place) (hfile : t.isFile place = false) :
    t.entry? place = some .directory := by
  obtain ⟨e, he⟩ := h
  cases e with
  | directory => exact he
  | file content =>
      rw [isFile, he] at hfile
      cases hfile

/-! ## One entry more -/

theorem entry?_put_self : entry? (t.put q e) q = some e :=
  entry?_of_lookup List.lookup_cons_self

theorem Stands.put (h : t.Stands place) : (t.put q e).Stands place := by
  rcases stands_iff.1 h with hnames | ⟨entry, hentry, habove⟩
  · exact stands_iff.2 (.inl hnames)
  · exact stands_iff.2 (.inr ⟨entry, List.mem_cons_of_mem _ hentry, habove⟩)

theorem entry?_put_of_ne (hne : place ≠ q) (h : t.Stands place) :
    entry? (t.put q e) place = t.entry? place := by
  have hput : (t.put q e).entries.lookup place = t.entries.lookup place := by
    show List.lookup place ((q, e) :: t.entries) = _
    rw [List.lookup_cons, beq_false_of_ne hne]
  cases hlookup : t.entries.lookup place with
  | some e => rw [entry?_of_lookup hlookup, entry?_of_lookup (hput.trans hlookup)]
  | none =>
      -- Neither tree has an entry at the place, so that it is a directory on the way to one in both.
      rw [h.entry?_of_lookup_eq_none hlookup, h.put.entry?_of_lookup_eq_none (hput.trans hlookup)]

/-! ## Following a path -/

/-- What a step needs and where it leads. -/
theorem step_eq_ok_iff {part : String} :
    t.step place part = .ok next ↔
      t.isFile place = false ∧
        ((FilePath.isIdle part = true ∧ next = place) ∨
          (FilePath.isIdle part = false ∧ FilePath.isUpward part = true ∧ next = place.parent) ∨
          (FilePath.isIdle part = false ∧ FilePath.isUpward part = false ∧
            part.utf8ByteSize ≤ FilePath.nameLimit ∧ t.Stands (place.child part) ∧
              next = place.child part)) := by
  rw [step, Stands, ← Option.isSome_iff_exists]
  cases t.isFile place <;> cases FilePath.isIdle part <;> cases FilePath.isUpward part <;>
    by_cases hlimit : FilePath.nameLimit < part.utf8ByteSize <;>
    cases (t.entry? (place.child part)).isSome <;>
    simp [hlimit, eq_comm, Nat.not_le.2, Nat.le_of_not_lt]

/-- With a file in a place that was no directory, every step leads where it led before. -/
theorem step_put {part : String} (h : t.step place part = .ok next) (hplace : t.Stands place)
    (hfree : t.entry? q ≠ some .directory) :
    (t.put q e).step place part = .ok next ∧ t.Stands next := by
  obtain ⟨hfile, hways⟩ := step_eq_ok_iff.1 h
  -- The step starts in a directory, which is elsewhere than the file.
  have hdirectory : t.entry? place = some .directory := entry?_of_isFile_eq_false hplace hfile
  have hne : place ≠ q := by
    rintro rfl
    exact hfree hdirectory
  have hfile' : (t.put q e).isFile place = false := by
    rw [isFile, entry?_put_of_ne hne hplace, hdirectory]
  rw [step_eq_ok_iff]
  rcases hways with ⟨hidle, rfl⟩ | ⟨hidle, hupward, rfl⟩ | ⟨hidle, hupward, hlimit, hchild, rfl⟩
  · exact ⟨⟨hfile', .inl ⟨hidle, rfl⟩⟩, hplace⟩
  · exact ⟨⟨hfile', .inr (.inl ⟨hidle, hupward, rfl⟩)⟩, hplace.parent⟩
  · exact ⟨⟨hfile', .inr (.inr ⟨hidle, hupward, hlimit, hchild.put, rfl⟩)⟩, hchild⟩

/-- So does every path. -/
theorem foldlM_step_put {parts : List String} (h : parts.foldlM t.step place = .ok next)
    (hplace : t.Stands place) (hfree : t.entry? q ≠ some .directory) :
    parts.foldlM (t.put q e).step place = .ok next ∧ t.Stands next := by
  induction parts generalizing place with
  | nil =>
      cases h
      exact ⟨rfl, hplace⟩
  | cons part rest ih =>
      rw [List.foldlM_cons] at h ⊢
      obtain ⟨reached, hstep, hrest⟩ := bind_eq_ok_iff.1 h
      obtain ⟨hstep', hreached⟩ := step_put hstep hplace hfree
      obtain ⟨hrest', hnext⟩ := ih hrest hreached
      exact ⟨bind_eq_ok_iff.2 ⟨reached, hstep', hrest'⟩, hnext⟩

/-! ## Writing -/

/-- The place at which a file can be written under a path. -/
inductive Destination (t : FileTree) : FilePath → FilePlace → Prop
  | child {front : List String} {name : String} {directory : FilePlace}
      (busy : FilePath.isIdle name = false) (downward : FilePath.isUpward name = false)
      (short : name.utf8ByteSize ≤ FilePath.nameLimit) (reached : t.follow front = .ok directory)
      (entered : t.isFile directory = false)
      (free : t.entry? (directory.child name) ≠ some .directory) :
      Destination t ⟨front ++ [name]⟩ (directory.child name)

/-- A name that is not empty is the name of the file. -/
theorem writeIn_of_name {front : List String} {name : String} (h : name ≠ "") :
    t.writeIn ⟨front ++ [name]⟩ content =
      if FilePath.isIdle name || FilePath.isUpward name then
        (t.follow (front ++ [name])).bind fun _ => .error .other
      else
        (t.follow front).bind fun directory =>
          if t.isFile directory ∨ FilePath.nameLimit < name.utf8ByteSize then .error .other
          else
            match t.entry? (directory.child name) with
            | some .directory => .error .other
            | _ => .ok (t.put (directory.child name) (.file content)) := by
  unfold writeIn
  dsimp only
  rw [FilePath.trimEnd_concat h, List.getLast?_concat, List.dropLast_concat]
  simp only [Nat.lt_irrefl, false_or]
  rfl

/-- Nothing is written under a path that ends with a slash. -/
theorem writeIn_of_slash {front : List String} : t.writeIn ⟨front ++ [""]⟩ content ≠ .ok t' := by
  intro h
  have hshorter : (FilePath.trimEnd (fun part => part == "") (front ++ [""])).length <
      (front ++ [""]).length := by
    rw [FilePath.trimEnd, List.reverse_concat, List.dropWhile_cons_of_pos rfl, List.length_reverse,
      List.length_append]
    have hle := (List.dropWhile_sublist (fun part => part == "") (l := front.reverse)).length_le
    rw [List.length_reverse] at hle
    exact Nat.lt_succ_of_le hle
  unfold writeIn at h
  dsimp only at h
  split at h
  · cases h
  · split at h
    · obtain ⟨reached, -, h⟩ := bind_eq_ok_iff.1 h
      cases h
    · obtain ⟨directory, -, h⟩ := bind_eq_ok_iff.1 h
      rw [if_pos (.inl hshorter)] at h
      cases h

/-- **What can be written where.** The content makes no difference. -/
theorem writeIn_eq_ok_iff {p : FilePath} :
    t.writeIn p content = .ok t' ↔ ∃ q, t.Destination p q ∧ t' = t.put q (.file content) := by
  constructor
  · intro h
    obtain ⟨parts⟩ := p
    rcases List.eq_nil_or_concat' parts with rfl | ⟨front, name, rfl⟩
    · cases h
    · have hname : name ≠ "" := by
        rintro rfl
        exact writeIn_of_slash h
      rw [writeIn_of_name hname] at h
      split at h
      · obtain ⟨reached, -, h⟩ := bind_eq_ok_iff.1 h
        cases h
      · next hway =>
        obtain ⟨directory, hfollow, h⟩ := bind_eq_ok_iff.1 h
        split at h
        · cases h
        · next hentered =>
          split at h
          · cases h
          · next hfree =>
            cases h
            simp only [Bool.or_eq_true, not_or, Bool.not_eq_true, Nat.not_lt] at hway hentered
            exact ⟨_, .child hway.1 hway.2 hentered.2 hfollow hentered.1 hfree, rfl⟩
  · rintro ⟨q, @⟨front, name, directory, hbusy, hdownward, hshort, hreached, hentered, hfree⟩, rfl⟩
    have hname : name ≠ "" := by
      rintro rfl
      cases hbusy
    rw [writeIn_of_name hname, if_neg (by simp [hbusy, hdownward])]
    refine bind_eq_ok_iff.2 ⟨directory, hreached, ?_⟩
    rw [if_neg (by simp [hentered, hshort])]
    split
    · next hdirectory => exact absurd hdirectory hfree
    · rfl

/-- A file is found where it was written. -/
theorem Destination.find_put {p : FilePath} (h : t.Destination p q)
    (husable : p.isUnusable t.directoryBytes = false) : (t.put q e).find p = .ok e := by
  obtain @⟨front, name, directory, hbusy, hdownward, hshort, hreached, hentered, hfree⟩ := h
  obtain ⟨hfront, hdirectory⟩ := foldlM_step_put (e := e) hreached stands_start hfree
  have hself : entry? (t.put (directory.child name) e) (directory.child name) = some e :=
    entry?_put_self
  -- The file itself is not on the way to its directory, which still is one.
  have hlast : (t.put (directory.child name) e).step directory name = .ok (directory.child name) := by
    have hbefore : t.entry? directory = some .directory := entry?_of_isFile_eq_false hdirectory hentered
    have hne : directory ≠ directory.child name := fun hsame => hfree (hsame ▸ hbefore)
    refine step_eq_ok_iff.2 ⟨?_, .inr (.inr ⟨hbusy, hdownward, hshort, ⟨e, hself⟩, rfl⟩)⟩
    rw [isFile, entry?_put_of_ne hne hdirectory, hbefore]
  have hfollow : (t.put (directory.child name) e).follow (front ++ [name]) =
      .ok (directory.child name) := by
    rw [follow, List.foldlM_append]
    refine bind_eq_ok_iff.2 ⟨directory, hfront, ?_⟩
    rw [List.foldlM_cons]
    exact bind_eq_ok_iff.2 ⟨_, hlast, rfl⟩
  have husable' : FilePath.isUnusable (t.put (directory.child name) e).directoryBytes
      ⟨front ++ [name]⟩ = false := husable
  rw [find, husable', if_neg Bool.false_ne_true]
  refine bind_eq_ok_iff.2 ⟨_, hfollow, ?_⟩
  rw [hself]

/-! ## Texts -/

variable {p : FilePath}

theorem contains_iff : t.contains p = true ↔ ∃ e, t.find p = .ok e := by
  rw [contains]
  cases t.find p <;> simp [Except.isOk, Except.toBool]

/-- A text can only be read where something stands. -/
theorem contains_of_readText {text : String} (h : t.readText p = .ok text) : t.contains p = true := by
  rw [contains_iff]
  cases hfind : t.find p with
  | ok e => exact ⟨e, rfl⟩
  | error fault =>
      rw [readText, hfind] at h
      cases h

theorem readText_of_directory (h : t.find p = .ok .directory) :
    t.readText p = .error .other := by
  rw [readText, h]
  rfl

/-- The text of a file, if its bytes encode one. -/
theorem readText_of_file (h : t.find p = .ok (.file content)) :
    t.readText p = (String.fromUTF8? content).elim (.error .other) .ok := by
  rw [readText, h]
  show Except.bind _ _ = _
  cases htext : String.fromUTF8? content <;> simp [Except.bind, htext]

/-- What stands at a path and cannot be read is not missing. -/
theorem fault_of_readText {fault : FileFault} (hthere : t.contains p = true)
    (h : t.readText p = .error fault) : fault = .other := by
  obtain ⟨e, he⟩ := contains_iff.1 hthere
  cases e with
  | directory =>
      rw [readText_of_directory he] at h
      cases h
      rfl
  | file content =>
      rw [readText_of_file he] at h
      cases htext : String.fromUTF8? content with
      | none =>
          rw [htext] at h
          cases h
          rfl
      | some text =>
          rw [htext] at h
          cases h

/-- Some content can be written under a path. -/
def Writable (t : FileTree) (p : FilePath) : Prop := ∃ content t', t.write p content = .ok t'

theorem fromUTF8?_toUTF8 (text : String) : String.fromUTF8? text.toUTF8 = some text := by
  have hvalid : text.toUTF8.IsValidUTF8 := text.isValidUTF8
  rw [String.fromUTF8?, dif_pos hvalid]
  rfl

/-- **Every text is read back from where it is written**, and every text can be written where anything can. -/
theorem exists_writeText (h : t.Writable p) (text : String) :
    ∃ t', t.writeText p text = .ok t' ∧ t'.readText p = .ok text := by
  obtain ⟨content, written, hwrite⟩ := h
  obtain ⟨made, hmade, hwrite⟩ := bind_eq_ok_iff.1 hwrite
  by_cases hunusable : p.isUnusable made.directoryBytes = true
  · rw [if_pos hunusable] at hwrite
    cases hwrite
  · rw [if_neg hunusable] at hwrite
    obtain ⟨q, hq, -⟩ := writeIn_eq_ok_iff.1 hwrite
    refine ⟨made.put q (.file text.toUTF8), bind_eq_ok_iff.2 ⟨made, hmade, ?_⟩, ?_⟩
    · rw [if_neg hunusable]
      exact writeIn_eq_ok_iff.2 ⟨q, hq, rfl⟩
    · rw [readText_of_file (hq.find_put (by simpa using hunusable)), fromUTF8?_toUTF8]
      rfl

end FileTree

end Instrumentation
