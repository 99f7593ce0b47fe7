import Instrumentation.Proofs.Json.Token
import Mathlib.Data.List.DropRight
import Mathlib.Tactic.IntervalCases

set_option autoImplicit false

/-!
# Values read back from their text

A value is written over several lines and read from its text (`parse?_pretty`), if its numbers are integers of 64 bits.
What is read is the value once more, as a text knows it (`Text.ofJson`).

The induction is on values, lists of items and lists of fields together. On every level the reader gets at least as many
steps as the text has characters, which is enough because each step down leaves a bracket or a line break behind; and
what follows a value must not go on with a number.
-/

namespace Instrumentation.Json

open Decimal

mutual

/-- The text that a value is written as. -/
def Text.ofJson : Json → Text
  | .null => .null
  | .bool b => .bool b
  | .number n => .number (some n)
  | .string s => .string (some s)
  | .array items => .array (Text.ofItems items)
  | .object fields => .object (Text.ofFields fields)

/-- The texts of items. -/
def Text.ofItems : List Json → List Text
  | [] => []
  | v :: vs => Text.ofJson v :: Text.ofItems vs

/-- The members that fields are written as. -/
def Text.ofFields : List (String × Json) → List (Option String × Text)
  | [] => []
  | (k, v) :: fs => (some k, Text.ofJson v) :: Text.ofFields fs

end

/-- An integer that fits into 64 bits. -/
def Number.isExact : Number → Bool
  | .integer i => decide (-(maxNegated : Int) ≤ i) && decide (i ≤ maxUnsigned)
  | .float _ => false

mutual

/-- All numbers of a value are integers that fit into 64 bits. -/
def isExact : Json → Bool
  | .number n => n.isExact
  | .array items => itemsAreExact items
  | .object fields => fieldsAreExact fields
  | _ => true

/-- All items are exact. -/
def itemsAreExact : List Json → Bool
  | [] => true
  | v :: vs => isExact v && itemsAreExact vs

/-- The values of all fields are exact. -/
def fieldsAreExact : List (String × Json) → Bool
  | [] => true
  | (_, v) :: fs => isExact v && fieldsAreExact fs

end

theorem itemsAreExact_cons (v : Json) (vs : List Json) :
    itemsAreExact (v :: vs) = (isExact v && itemsAreExact vs) := rfl

theorem fieldsAreExact_cons (f : String × Json) (fs : List (String × Json)) :
    fieldsAreExact (f :: fs) = (isExact f.2 && fieldsAreExact fs) := rfl

theorem itemsAreExact_iff {items : List Json} :
    itemsAreExact items = true ↔ ∀ v ∈ items, v.isExact = true := by
  induction items with
  | nil => simp [itemsAreExact]
  | cons v vs ih => simp [itemsAreExact_cons, ih]

theorem fieldsAreExact_iff {fields : List (String × Json)} :
    fieldsAreExact fields = true ↔ ∀ f ∈ fields, f.2.isExact = true := by
  induction fields with
  | nil => simp [fieldsAreExact]
  | cons f fs ih => simp [fieldsAreExact_cons, ih]

namespace Text

/-! ## Blanks -/

theorem skipBlanks_newline (level : Nat) (cs : List Char) :
    skipBlanks ((newline level).toList ++ cs) = skipBlanks cs := by
  refine List.dropWhile_append_of_pos fun c hc => ?_
  rw [newline, String.toList_ofList, List.mem_cons] at hc
  rcases hc with rfl | hc
  · rfl
  · rw [List.eq_of_mem_replicate hc]
    rfl

theorem skipBlanks_skipBlanks (cs : List Char) : skipBlanks (skipBlanks cs) = skipBlanks cs :=
  List.dropWhile_idempotent ..

theorem value_skipBlanks (fuel : Nat) (cs : List Char) : value fuel (skipBlanks cs) = value fuel cs := by
  cases fuel with
  | zero => rfl
  | succ fuel => rw [value, value, skipBlanks_skipBlanks]

theorem elements_succ (fuel : Nat) (cs : List Char) :
    elements (fuel + 1) cs = (value fuel cs).bind fun (v, rest) =>
      match skipBlanks rest with
      | ']' :: rest => some ([v], rest)
      | ',' :: rest => (elements fuel rest).bind fun (vs, rest) => some (v :: vs, rest)
      | _ => none := rfl

theorem elements_skipBlanks (fuel : Nat) (cs : List Char) :
    elements fuel (skipBlanks cs) = elements fuel cs := by
  cases fuel with
  | zero => rfl
  | succ fuel => rw [elements_succ, elements_succ, value_skipBlanks]

theorem members_skipBlanks (fuel : Nat) (cs : List Char) :
    members fuel (skipBlanks cs) = members fuel cs := by
  cases fuel with
  | zero => rfl
  | succ fuel => rw [members, members, skipBlanks_skipBlanks]

/-! ## Numbers -/

theorem value_digitChar {d : Nat} (h : d < 10) (fuel : Nat) (cs : List Char) :
    value (fuel + 1) (digitChar d :: cs) =
      (takeLiteral false (digitChar d :: cs)).bind fun p => some (.number p.1.toNumber?, p.2) := by
  interval_cases d <;> rfl

theorem value_natText {n : Nat} (h : n ≤ maxUnsigned) (fuel : Nat) {rest : List Char} (hrest : EndsNumber rest) :
    value (fuel + 1) ((natText n).toList ++ rest) = some (.number (some (.integer n)), rest) := by
  obtain ⟨d, ds, hdigits, -⟩ := writtenDigits_eq_cons n
  have hd : d < 10 := lt_of_mem_writtenDigits (n := n) (by simp [hdigits])
  have hliteral := takeLiteral_natText false n hrest
  rw [toList_natText, hdigits, List.map_cons, List.cons_append] at hliteral ⊢
  rw [value_digitChar hd, hliteral, Option.bind_some, ← hdigits, toNumber?_of_le h]

theorem value_negated {n : Nat} (hpositive : n ≠ 0) (h : n ≤ maxNegated) (fuel : Nat) {rest : List Char}
    (hrest : EndsNumber rest) :
    value (fuel + 1) ('-' :: (natText n).toList ++ rest) = some (.number (some (.integer (-n))), rest) := by
  show (takeLiteral true ((natText n).toList ++ rest)).bind _ = _
  rw [takeLiteral_natText true n hrest, Option.bind_some]
  show some (Text.number (Literal.toNumber? _), rest) = _
  rw [toNumber?_of_le_negated hpositive h]

/-- An integer of 64 bits is read back from its text. -/
theorem value_render {n : Number} (h : n.isExact = true) (fuel : Nat) {rest : List Char}
    (hrest : EndsNumber rest) :
    value (fuel + 1) (n.render.toList ++ rest) = some (.number (some n), rest) := by
  cases n with
  | float x => cases h
  | integer i =>
      rw [Number.isExact, Bool.and_eq_true, decide_eq_true_eq, decide_eq_true_eq] at h
      show value (fuel + 1) ((intText i).toList ++ rest) = _
      rw [intText]
      split
      · next hneg =>
        have habs : -(i.natAbs : Int) = i := by omega
        rw [String.toList_append]
        show value (fuel + 1) ('-' :: (natText i.natAbs).toList ++ rest) = _
        rw [value_negated (by omega) (by omega) fuel hrest, habs]
      · next hneg =>
        have habs : (i.natAbs : Int) = i := by omega
        rw [value_natText (by omega) fuel hrest, habs]

/-! ## The characters of a text -/

theorem toList_quote (s : String) : (quote s).toList = '"' :: (s.toList.flatMap escapeChar ++ ['"']) := by
  rw [quote, String.toList_ofList]
  rfl

theorem prettyAt_null (level : Nat) : prettyAt level .null = "null" := rfl

theorem prettyAt_bool (level : Nat) (b : Bool) : prettyAt level (.bool b) = if b then "true" else "false" := rfl

theorem prettyAt_number (level : Nat) (n : Number) : prettyAt level (.number n) = n.render := rfl

theorem prettyAt_string (level : Nat) (s : String) : prettyAt level (.string s) = quote s := rfl

theorem prettyAt_array_nil (level : Nat) : prettyAt level (.array []) = "[]" := rfl

theorem prettyAt_object_nil (level : Nat) : prettyAt level (.object []) = "\x7b\x7d" := rfl

theorem toList_prettyAt_array (level : Nat) (v : Json) (vs : List Json) :
    (prettyAt level (.array (v :: vs))).toList =
      '[' :: ((prettyItems (level + 1) (v :: vs)).toList ++ ((newline level).toList ++ [']'])) := by
  show ("[" ++ prettyItems (level + 1) (v :: vs) ++ newline level ++ "]").toList = _
  simp

theorem toList_prettyAt_object (level : Nat) (f : String × Json) (fs : List (String × Json)) :
    (prettyAt level (.object (f :: fs))).toList =
      '{' :: ((prettyFields (level + 1) (f :: fs)).toList ++ ((newline level).toList ++ ['}'])) := by
  show ("\x7b" ++ prettyFields (level + 1) (f :: fs) ++ newline level ++ "\x7d").toList = _
  simp

theorem toList_prettyItems_single (level : Nat) (v : Json) :
    (prettyItems level [v]).toList = (newline level).toList ++ (prettyAt level v).toList :=
  String.toList_append

theorem toList_prettyItems_cons (level : Nat) (v w : Json) (vs : List Json) :
    (prettyItems level (v :: w :: vs)).toList =
      (newline level).toList ++
        ((prettyAt level v).toList ++ ',' :: (prettyItems level (w :: vs)).toList) := by
  show (newline level ++ prettyAt level v ++ "," ++ prettyItems level (w :: vs)).toList = _
  simp

theorem toList_prettyFields_single (level : Nat) (k : String) (v : Json) :
    (prettyFields level [(k, v)]).toList =
      (newline level).toList ++ ((quote k).toList ++ ':' :: ' ' :: (prettyAt level v).toList) := by
  show (newline level ++ quote k ++ ": " ++ prettyAt level v).toList = _
  simp

theorem toList_prettyFields_cons (level : Nat) (k : String) (v : Json) (g : String × Json)
    (fs : List (String × Json)) :
    (prettyFields level ((k, v) :: g :: fs)).toList =
      (newline level).toList ++ ((quote k).toList ++
        ':' :: ' ' :: ((prettyAt level v).toList ++ ',' :: (prettyFields level (g :: fs)).toList)) := by
  show (newline level ++ quote k ++ ": " ++ prettyAt level v ++ "," ++ prettyFields level (g :: fs)).toList = _
  simp

/-! ## Values -/

/-- A text goes on behind a value: with a blank or a comma, or not at all. -/
theorem endsNumber_cons {c : Char} (h : digit? c = none ∧ c ≠ '.' ∧ c ≠ 'e' ∧ c ≠ 'E') (cs : List Char) :
    EndsNumber (c :: cs) := by
  intro c' cs' heq
  cases heq
  exact h

theorem endsNumber_nil : EndsNumber [] := nofun

theorem endsNumber_comma (cs : List Char) : EndsNumber (',' :: cs) := endsNumber_cons (by decide) cs

theorem endsNumber_newline (level : Nat) (cs : List Char) : EndsNumber ((newline level).toList ++ cs) := by
  rw [newline, String.toList_ofList]
  exact endsNumber_cons (by decide) _

/-- A text begins with a value, if anything: neither with a blank nor with the end of an array. -/
def beginsValue : List Char → Bool
  | [] => false
  | c :: _ => !isBlank c && c != ']'

theorem beginsValue_natText (n : Nat) : beginsValue (natText n).toList = true := by
  obtain ⟨d, ds, hdigits, -⟩ := writtenDigits_eq_cons n
  have hd : d < 10 := lt_of_mem_writtenDigits (n := n) (by simp [hdigits])
  have hall : ∀ d < 10, beginsValue [digitChar d] = true := by decide
  rw [toList_natText, hdigits]
  exact hall d hd

theorem beginsValue_render {n : Number} (h : n.isExact = true) : beginsValue n.render.toList = true := by
  cases n with
  | float x => cases h
  | integer i =>
      show beginsValue (intText i).toList = true
      rw [intText]
      split
      · rw [String.toList_append]
        rfl
      · exact beginsValue_natText _

theorem beginsValue_prettyAt (level : Nat) {v : Json} (h : v.isExact = true) :
    beginsValue (prettyAt level v).toList = true := by
  cases v with
  | null =>
      rw [prettyAt_null]
      rfl
  | bool b =>
      rw [prettyAt_bool]
      cases b <;> rfl
  | number n =>
      rw [prettyAt_number]
      exact beginsValue_render h
  | string s =>
      rw [prettyAt_string, toList_quote]
      rfl
  | array items =>
      cases items with
      | nil =>
          rw [prettyAt_array_nil]
          rfl
      | cons v vs =>
          rw [toList_prettyAt_array]
          rfl
  | object fields =>
      cases fields with
      | nil =>
          rw [prettyAt_object_nil]
          rfl
      | cons f fs =>
          rw [toList_prettyAt_object]
          rfl

/-! ## Steps of the reader -/

/-- Where a text begins with a value, there is nothing to skip, and an array is not at its end. -/
theorem skipBlanks_of_beginsValue {cs : List Char} (h : beginsValue cs = true) (rest : List Char) :
    skipBlanks (cs ++ rest) = cs ++ rest ∧ ∀ later, cs ++ rest ≠ ']' :: later := by
  cases cs with
  | nil => cases h
  | cons c cs =>
      rw [beginsValue, Bool.and_eq_true, Bool.not_eq_true', bne_iff_ne] at h
      refine ⟨?_, fun later heq => ?_⟩
      · rw [List.cons_append, skipBlanks, List.dropWhile_cons_of_neg (by simp [h.1])]
      · cases heq
        exact h.2 rfl

/-- Items do not begin with the end of the array. -/
theorem prettyItems_opens {v : Json} (h : v.isExact = true) (vs : List Json) (level : Nat)
    (tail later : List Char) :
    skipBlanks ((prettyItems level (v :: vs)).toList ++ tail) ≠ ']' :: later := by
  obtain ⟨more, hmore⟩ : ∃ more, (prettyItems level (v :: vs)).toList =
      (newline level).toList ++ ((prettyAt level v).toList ++ more) := by
    cases vs with
    | nil => exact ⟨[], by rw [toList_prettyItems_single, List.append_nil]⟩
    | cons w vs => exact ⟨_, toList_prettyItems_cons level v w vs⟩
  obtain ⟨hskip, hbegin⟩ := skipBlanks_of_beginsValue (beginsValue_prettyAt level h) (more ++ tail)
  rw [hmore, List.append_assoc, List.append_assoc, skipBlanks_newline, hskip]
  exact hbegin later

/-- Nor do fields begin with the end of the object. -/
theorem prettyFields_opens (f : String × Json) (fs : List (String × Json)) (level : Nat)
    (tail later : List Char) :
    skipBlanks ((prettyFields level (f :: fs)).toList ++ tail) ≠ '}' :: later := by
  obtain ⟨k, v⟩ := f
  obtain ⟨more, hmore⟩ : ∃ more, (prettyFields level ((k, v) :: fs)).toList =
      (newline level).toList ++ '"' :: more := by
    cases fs with
    | nil => exact ⟨_, by rw [toList_prettyFields_single, toList_quote, List.cons_append]⟩
    | cons g fs => exact ⟨_, by rw [toList_prettyFields_cons, toList_quote, List.cons_append]⟩
  rw [hmore, List.append_assoc, skipBlanks_newline]
  intro heq
  cases heq

theorem value_newline (fuel level : Nat) (cs : List Char) :
    value fuel ((newline level).toList ++ cs) = value fuel cs := by
  rw [← value_skipBlanks, skipBlanks_newline, value_skipBlanks]

theorem value_blank (fuel : Nat) (cs : List Char) : value fuel (' ' :: cs) = value fuel cs := by
  rw [← value_skipBlanks, ← value_skipBlanks fuel cs]
  rfl

variable {fuel : Nat} {cs rest later : List Char} {v : Text}

theorem value_bracket (fuel : Nat) (cs : List Char) :
    value (fuel + 1) ('[' :: cs) =
      match skipBlanks cs with
      | ']' :: rest => some (.array [], rest)
      | rest => (elements fuel rest).bind fun (items, rest) => some (.array items, rest) := rfl

theorem value_brace (fuel : Nat) (cs : List Char) :
    value (fuel + 1) ('{' :: cs) =
      match skipBlanks cs with
      | '}' :: rest => some (.object [], rest)
      | rest => (members fuel rest).bind fun (ms, rest) => some (.object ms, rest) := rfl

theorem value_openArray (h : ∀ later, skipBlanks cs ≠ ']' :: later) :
    value (fuel + 1) ('[' :: cs) = (elements fuel cs).bind fun p => some (.array p.1, p.2) := by
  rw [value_bracket, ← elements_skipBlanks]
  split
  · exact absurd ‹_› (h _)
  · rfl

theorem value_openObject (h : ∀ later, skipBlanks cs ≠ '}' :: later) :
    value (fuel + 1) ('{' :: cs) = (members fuel cs).bind fun p => some (.object p.1, p.2) := by
  rw [value_brace, ← members_skipBlanks]
  split
  · exact absurd ‹_› (h _)
  · rfl

theorem elements_close (hv : value fuel cs = some (v, rest)) (h : skipBlanks rest = ']' :: later) :
    elements (fuel + 1) cs = some ([v], later) := by
  rw [elements_succ, hv, Option.bind_some]
  dsimp only
  rw [h]
  rfl

theorem elements_comma (hv : value fuel cs = some (v, rest)) (h : skipBlanks rest = ',' :: later) :
    elements (fuel + 1) cs = (elements fuel later).bind fun p => some (v :: p.1, p.2) := by
  rw [elements_succ, hv, Option.bind_some]
  dsimp only
  rw [h]
  rfl

/-- A member begins with its name, a colon and a value. -/
theorem members_of_value (k : String) (hv : value fuel cs = some (v, rest)) (level : Nat) :
    members (fuel + 1) ((newline level).toList ++ ((quote k).toList ++ ':' :: ' ' :: cs)) =
      match skipBlanks rest with
      | '}' :: rest => some ([(some k, v)], rest)
      | ',' :: rest => (members fuel rest).bind fun p => some ((some k, v) :: p.1, p.2)
      | _ => none := by
  rw [← members_skipBlanks, skipBlanks_newline, members_skipBlanks, toList_quote, List.cons_append,
    List.append_assoc]
  show (takeString (k.toList.flatMap escapeChar ++ '"' :: ':' :: ' ' :: cs)).bind _ = _
  rw [takeString_flatMap_escapeChar, Option.bind_some]
  show (value fuel (' ' :: cs)).bind _ = _
  rw [value_blank, hv, Option.bind_some]
  rfl

/-! ## Reading what was written -/

theorem length_newline (level : Nat) : 0 < (newline level).toList.length := by
  rw [newline, String.toList_ofList]
  exact Nat.zero_lt_succ _

mutual

/-- A value is read from its text, on every level. -/
theorem value_prettyAt : ∀ (v : Json) (level fuel : Nat) {rest : List Char}, v.isExact = true →
    EndsNumber rest → (prettyAt level v).toList.length ≤ fuel →
    value (fuel + 1) ((prettyAt level v).toList ++ rest) = some (ofJson v, rest)
  | .null => by
      intro level fuel rest _ _ _
      rw [prettyAt_null]
      rfl
  | .bool b => by
      intro level fuel rest _ _ _
      rw [prettyAt_bool]
      cases b <;> rfl
  | .number n => by
      intro level fuel rest h hrest _
      rw [prettyAt_number]
      exact value_render h fuel hrest
  | .string s => by
      intro level fuel rest _ _ _
      rw [prettyAt_string, toList_quote, List.cons_append, List.append_assoc]
      show (takeString (s.toList.flatMap escapeChar ++ '"' :: rest)).bind _ = _
      rw [takeString_flatMap_escapeChar, Option.bind_some]
      rfl
  | .array [] => by
      intro level fuel rest _ _ _
      rw [prettyAt_array_nil]
      rfl
  | .array (v :: vs) => by
      intro level fuel rest h _ hfuel
      rw [toList_prettyAt_array] at hfuel ⊢
      simp only [List.length_cons, List.length_append] at hfuel
      -- One step is spent on the bracket.
      obtain ⟨fuel, rfl⟩ := Nat.exists_eq_add_one.2 (show 0 < fuel by omega)
      have hclose : skipBlanks ((newline level).toList ++ ']' :: rest) = ']' :: rest :=
        skipBlanks_newline level _
      have hitems := elements_prettyItems (v :: vs) (level + 1) fuel (List.cons_ne_nil v vs) h
        (endsNumber_newline level _) hclose (by omega)
      have hfirst : v.isExact = true := by
        exact (Bool.and_eq_true_iff.1 h).1
      rw [List.cons_append, List.append_assoc, List.append_assoc, List.singleton_append,
        value_openArray (prettyItems_opens hfirst vs (level + 1) _), hitems, Option.bind_some]
      rfl
  | .object [] => by
      intro level fuel rest _ _ _
      rw [prettyAt_object_nil]
      rfl
  | .object (f :: fs) => by
      intro level fuel rest h _ hfuel
      rw [toList_prettyAt_object] at hfuel ⊢
      simp only [List.length_cons, List.length_append] at hfuel
      obtain ⟨fuel, rfl⟩ := Nat.exists_eq_add_one.2 (show 0 < fuel by omega)
      have hclose : skipBlanks ((newline level).toList ++ '}' :: rest) = '}' :: rest :=
        skipBlanks_newline level _
      have hfields := members_prettyFields (f :: fs) (level + 1) fuel (List.cons_ne_nil f fs) h
        (endsNumber_newline level _) hclose (by omega)
      rw [List.cons_append, List.append_assoc, List.append_assoc, List.singleton_append,
        value_openObject (prettyFields_opens f fs (level + 1) _), hfields, Option.bind_some]
      rfl

/-- The items of an array are read from their text, up to the closing bracket. -/
theorem elements_prettyItems : ∀ (items : List Json) (level fuel : Nat) {tail rest : List Char},
    items ≠ [] → itemsAreExact items = true → EndsNumber tail → skipBlanks tail = ']' :: rest →
    (prettyItems level items).toList.length ≤ fuel →
    elements (fuel + 1) ((prettyItems level items).toList ++ tail) = some (ofItems items, rest)
  | [] => fun _ _ _ _ hne => absurd rfl hne
  | [v] => by
      intro level fuel tail rest _ h htail hclose hfuel
      rw [itemsAreExact_cons, Bool.and_eq_true] at h
      rw [toList_prettyItems_single] at hfuel ⊢
      rw [List.length_append] at hfuel
      have hpositive := length_newline level
      obtain ⟨fuel, rfl⟩ := Nat.exists_eq_add_one.2 (show 0 < fuel by omega)
      have hv := value_prettyAt v level fuel h.1 htail (by omega)
      rw [List.append_assoc]
      exact elements_close ((value_newline ..).trans hv) hclose
  | v :: w :: vs => by
      intro level fuel tail rest _ h htail hclose hfuel
      rw [itemsAreExact_cons, Bool.and_eq_true] at h
      rw [toList_prettyItems_cons] at hfuel ⊢
      simp only [List.length_append, List.length_cons] at hfuel
      have hpositive := length_newline level
      obtain ⟨fuel, rfl⟩ := Nat.exists_eq_add_one.2 (show 0 < fuel by omega)
      -- The item ends at the comma, and the later ones begin behind it.
      have hv := value_prettyAt v level fuel h.1
        (endsNumber_comma ((prettyItems level (w :: vs)).toList ++ tail)) (by omega)
      have hlater := elements_prettyItems (w :: vs) level fuel (List.cons_ne_nil w vs) h.2 htail hclose
        (by omega)
      rw [List.append_assoc, List.append_assoc, List.cons_append,
        elements_comma ((value_newline ..).trans hv) rfl, hlater]
      rfl

/-- The fields of an object are read from their text, up to the closing brace. -/
theorem members_prettyFields : ∀ (fields : List (String × Json)) (level fuel : Nat)
    {tail rest : List Char}, fields ≠ [] → fieldsAreExact fields = true → EndsNumber tail →
    skipBlanks tail = '}' :: rest → (prettyFields level fields).toList.length ≤ fuel →
    members (fuel + 1) ((prettyFields level fields).toList ++ tail) = some (ofFields fields, rest)
  | [] => fun _ _ _ _ hne => absurd rfl hne
  | [(k, v)] => by
      intro level fuel tail rest _ h htail hclose hfuel
      rw [fieldsAreExact_cons, Bool.and_eq_true] at h
      rw [toList_prettyFields_single] at hfuel ⊢
      simp only [List.length_append, List.length_cons] at hfuel
      obtain ⟨fuel, rfl⟩ := Nat.exists_eq_add_one.2 (show 0 < fuel by omega)
      have hv := value_prettyAt v level fuel h.1 htail (by omega)
      rw [List.append_assoc, List.append_assoc, List.cons_append, List.cons_append,
        members_of_value k hv level, hclose]
      rfl
  | (k, v) :: g :: fs => by
      intro level fuel tail rest _ h htail hclose hfuel
      rw [fieldsAreExact_cons, Bool.and_eq_true] at h
      rw [toList_prettyFields_cons] at hfuel ⊢
      simp only [List.length_append, List.length_cons] at hfuel
      obtain ⟨fuel, rfl⟩ := Nat.exists_eq_add_one.2 (show 0 < fuel by omega)
      have hv := value_prettyAt v level fuel h.1
        (endsNumber_comma ((prettyFields level (g :: fs)).toList ++ tail)) (by omega)
      have hlater := members_prettyFields (g :: fs) level fuel (List.cons_ne_nil g fs) h.2 htail hclose
        (by omega)
      rw [List.append_assoc, List.append_assoc, List.cons_append, List.cons_append, List.append_assoc,
        List.cons_append, members_of_value k hv level]
      show (members (fuel + 1) _).bind _ = _
      rw [hlater]
      rfl

end

/-- **A value is read from its text as it was written.** -/
theorem parse?_pretty {v : Json} (h : v.isExact = true) : parse? v.pretty = some (ofJson v) := by
  have hv := value_prettyAt v 0 (2 * v.pretty.toList.length + 1) h endsNumber_nil
    (by show v.pretty.toList.length ≤ _; omega)
  rw [List.append_nil] at hv
  rw [parse?]
  show (value (2 * v.pretty.toList.length + 1 + 1) (prettyAt 0 v).toList).bind _ = _
  rw [hv, Option.bind_some]
  rfl

end Text

end Instrumentation.Json
