import Instrumentation.Json.Printer
import Instrumentation.Json.Text
import Mathlib.Data.Option.Basic

set_option autoImplicit false

/-!
# Numbers and strings read back

The decimal digits of a number are those that a literal is read from (`takeLiteral_natText`), and an integer of 64 bits
is read exactly from its digits (`toNumber?_of_le`, `toNumber?_of_le_negated`). A string is read back from its escaped
text, one character at a time (`takeString_flatMap_escapeChar`).
-/

namespace Instrumentation

namespace Decimal

/-! ## Decimal digits -/

theorem digitsOf_zero : digitsOf 0 = [] := by
  rw [digitsOf, dif_pos rfl]

theorem digitsOf_of_ne_zero {n : Nat} (h : n ≠ 0) : digitsOf n = digitsOf (n / 10) ++ [n % 10] := by
  rw [digitsOf, dif_neg h]

theorem digitsValue_digitsOf (n : Nat) : Json.digitsValue (digitsOf n) = n := by
  induction n using digitsOf.induct with
  | case1 => rw [digitsOf_zero]; rfl
  | case2 n hn ih =>
      rw [digitsOf_of_ne_zero hn, Json.digitsValue, List.foldl_append]
      show Json.digitsValue (digitsOf (n / 10)) * 10 + n % 10 = n
      rw [ih]
      omega

theorem lt_of_mem_digitsOf {n d : Nat} (h : d ∈ digitsOf n) : d < 10 := by
  induction n using digitsOf.induct with
  | case1 => simp [digitsOf_zero] at h
  | case2 n hn ih =>
      rw [digitsOf_of_ne_zero hn, List.mem_append, List.mem_singleton] at h
      rcases h with h | rfl
      · exact ih h
      · omega

/-- No number begins with a zero. -/
theorem head?_digitsOf (n : Nat) : (digitsOf n).head? ≠ some 0 := by
  induction n using digitsOf.induct with
  | case1 => simp [digitsOf_zero]
  | case2 n hn ih =>
      rw [digitsOf_of_ne_zero hn]
      cases hfront : digitsOf (n / 10) with
      | cons d ds =>
          rw [hfront] at ih
          exact ih
      | nil =>
          -- There is one digit only, which is the number.
          have hvalue := digitsValue_digitsOf (n / 10)
          rw [hfront] at hvalue
          have hquotient : 0 = n / 10 := hvalue
          rw [List.nil_append, List.head?_cons]
          intro hzero
          have : n % 10 = 0 := Option.some.inj hzero
          omega

/-- The digits that a number is written with. -/
def writtenDigits (n : Nat) : List Nat := if n = 0 then [0] else digitsOf n

theorem toList_natText (n : Nat) : (natText n).toList = (writtenDigits n).map digitChar := by
  rw [natText, writtenDigits]
  split
  · rfl
  · rw [String.toList_ofList]

theorem digitsValue_writtenDigits (n : Nat) : Json.digitsValue (writtenDigits n) = n := by
  rw [writtenDigits]
  split
  · next hn => rw [hn]; rfl
  · exact digitsValue_digitsOf n

theorem lt_of_mem_writtenDigits {n d : Nat} (h : d ∈ writtenDigits n) : d < 10 := by
  rw [writtenDigits] at h
  split at h
  · rw [List.mem_singleton.1 h]
    decide
  · exact lt_of_mem_digitsOf h

/-- A number has digits, and the first one is a zero only if it is the only one. -/
theorem writtenDigits_eq_cons (n : Nat) :
    ∃ d ds, writtenDigits n = d :: ds ∧ (ds = [] ∨ d ≠ 0) := by
  rw [writtenDigits]
  split
  · exact ⟨0, [], rfl, .inl rfl⟩
  · next hn =>
    have hhead := head?_digitsOf n
    cases hdigits : digitsOf n with
    | nil =>
        rw [digitsOf_of_ne_zero hn] at hdigits
        simp at hdigits
    | cons d ds =>
        rw [hdigits] at hhead
        exact ⟨d, ds, rfl, .inr fun hzero => hhead (by rw [hzero, List.head?_cons])⟩

end Decimal

namespace Json.Text

open Decimal

/-! ## Literals -/

theorem digit?_digitChar {d : Nat} (h : d < 10) : digit? (digitChar d) = some d := by
  have hall : ∀ d < 10, digit? (digitChar d) = some d := by decide
  exact hall d h

/-- What follows does not go on with a number. -/
def EndsNumber (rest : List Char) : Prop :=
  ∀ c cs, rest = c :: cs → digit? c = none ∧ c ≠ '.' ∧ c ≠ 'e' ∧ c ≠ 'E'

theorem takeDigitRun_map_digitChar {ds : List Nat} {rest : List Char} (hds : ∀ d ∈ ds, d < 10)
    (hrest : EndsNumber rest) : takeDigitRun (ds.map digitChar ++ rest) = (ds, rest) := by
  induction ds with
  | nil =>
      cases rest with
      | nil => rfl
      | cons c cs => rw [List.map_nil, List.nil_append, takeDigitRun, (hrest c cs rfl).1]
  | cons d ds ih =>
      obtain ⟨hd, hds⟩ := List.forall_mem_cons.1 hds
      rw [List.map_cons, List.cons_append, takeDigitRun, digit?_digitChar hd, ih hds]

/-- A number is read digit by digit, without a point or an exponent. -/
theorem takeLiteral_natText (negative : Bool) (n : Nat) {rest : List Char} (hrest : EndsNumber rest) :
    takeLiteral negative ((natText n).toList ++ rest) =
      some ({ negative, whole := writtenDigits n, fraction := none, exponent := none }, rest) := by
  obtain ⟨d, ds, hdigits, hhead⟩ := writtenDigits_eq_cons n
  have hrun := takeDigitRun_map_digitChar (fun d (hd : d ∈ writtenDigits n) => lt_of_mem_writtenDigits hd) hrest
  rw [takeLiteral, toList_natText, hrun, hdigits]
  have hlength : (guard (ds = [] ∨ ¬d = 0) : Option Unit) = some () := if_pos hhead
  have hguard : (guard True : Option Unit) = some () := rfl
  cases rest with
  | nil => simp [hlength, hguard]
  | cons c cs =>
      obtain ⟨-, hpoint, he, hE⟩ := hrest c cs rfl
      simp [hlength, hguard, hpoint, he, hE]

/-- A number that fits into 64 bits without a sign is read exactly. -/
theorem toNumber?_of_le {n : Nat} (h : n ≤ maxUnsigned) :
    Literal.toNumber? ⟨false, writtenDigits n, none, none⟩ = some (.integer n) := by
  unfold Literal.toNumber?
  dsimp only
  rw [digitsValue_writtenDigits, if_pos (by simp [h])]

/-- A negative number that fits into 64 bits with a sign is read exactly. -/
theorem toNumber?_of_le_negated {n : Nat} (hpositive : n ≠ 0) (h : n ≤ maxNegated) :
    Literal.toNumber? ⟨true, writtenDigits n, none, none⟩ = some (.integer (-n)) := by
  unfold Literal.toNumber?
  dsimp only
  rw [digitsValue_writtenDigits, if_neg (by simp), if_pos (by simp [hpositive, h])]

/-! ## Strings -/

theorem hexDigit?_hexChar {d : Nat} (h : d < 16) : hexDigit? (hexChar d) = some d := by
  have hall : ∀ d < 16, hexDigit? (hexChar d) = some d := by decide
  exact hall d h

/-- An escaped control character is read from its code. -/
theorem takeHex4_control {n : Nat} (h : n < 0x20) (rest : List Char) :
    takeHex4 ('0' :: '0' :: hexChar (n / 16) :: hexChar (n % 16) :: rest) = some (n, rest) := by
  have hzero : hexDigit? '0' = some 0 := rfl
  rw [takeHex4, hzero, hexDigit?_hexChar (by omega), hexDigit?_hexChar (by omega)]
  show some (((0 * 16 + 0) * 16 + n / 16) * 16 + n % 16, rest) = some (n, rest)
  have hvalue : ((0 * 16 + 0) * 16 + n / 16) * 16 + n % 16 = n := by omega
  rw [hvalue]

theorem ofUnit_toNat {c : Char} (h : c.toNat < 0x20) : Piece.ofUnit c.toNat = .char c := by
  rw [Piece.ofUnit, if_neg (by omega), Char.ofNat_toNat]

theorem pieces_quote (fuel : Nat) (rest : List Char) : pieces (fuel + 1) ('"' :: rest) = some ([], rest) := rfl

theorem pieces_code (fuel : Nat) (cs : List Char) :
    pieces (fuel + 1) ('\\' :: 'u' :: cs) = (takeHex4 cs).bind fun (u, cs) =>
      (pieces fuel cs).bind fun (ps, rest) => some (Piece.ofUnit u :: ps, rest) := rfl

/-- One step of reading a string, if it takes one character. -/
def addPiece (c : Char) (read : Option (List Piece × List Char)) : Option (List Piece × List Char) :=
  read.map fun p => (.char c :: p.1, p.2)

theorem pieces_simpleEscape (fuel : Nat) {e c : Char} (hu : e ≠ 'u') (h : simpleEscape? e = some c)
    (rest : List Char) : pieces (fuel + 1) ('\\' :: e :: rest) = addPiece c (pieces fuel rest) := by
  rw [pieces, if_neg (by decide), if_pos rfl, h]
  · cases pieces fuel rest <;> rfl
  · exact fun heq => hu heq

theorem pieces_control (fuel : Nat) {c : Char} (h : c.toNat < 0x20) (rest : List Char) :
    pieces (fuel + 1) ('\\' :: 'u' :: '0' :: '0' :: hexChar (c.toNat / 16) :: hexChar (c.toNat % 16) :: rest) =
      addPiece c (pieces fuel rest) := by
  rw [pieces_code, takeHex4_control h]
  show (pieces fuel rest).bind (fun p => some (Piece.ofUnit c.toNat :: p.1, p.2)) = _
  rw [ofUnit_toNat h]
  cases pieces fuel rest <;> rfl

theorem pieces_plain (fuel : Nat) {c : Char} (hquote : c ≠ '"') (hbackslash : c ≠ '\\')
    (h : ¬c.toNat < 0x20) (rest : List Char) :
    pieces (fuel + 1) (c :: rest) = addPiece c (pieces fuel rest) := by
  have hstep : pieces (fuel + 1) (c :: rest) = (pieces fuel rest).bind fun (ps, rest) => some (.char c :: ps, rest) :=
    (if_neg hquote).trans ((if_neg hbackslash).trans (if_neg h))
  rw [hstep]
  cases pieces fuel rest <;> rfl

/-- One character is read from its escaped form in one step. -/
theorem pieces_escapeChar (fuel : Nat) (c : Char) (rest : List Char) :
    pieces (fuel + 1) (escapeChar c ++ rest) = addPiece c (pieces fuel rest) := by
  unfold escapeChar
  split
  case h_8 hquote hbackslash _ _ _ _ _ =>
    split
    · next hcontrol => exact pieces_control fuel hcontrol rest
    · next hcontrol => exact pieces_plain fuel hquote hbackslash hcontrol rest
  all_goals exact pieces_simpleEscape fuel (by decide) rfl rest

theorem pieces_flatMap_escapeChar {fuel : Nat} (cs : List Char) (h : cs.length < fuel)
    (rest : List Char) :
    pieces fuel (cs.flatMap escapeChar ++ '"' :: rest) = some (cs.map .char, rest) := by
  induction cs generalizing fuel with
  | nil =>
      obtain ⟨fuel, rfl⟩ := Nat.exists_eq_succ_of_ne_zero (Nat.ne_of_gt h)
      exact pieces_quote fuel rest
  | cons c cs ih =>
      obtain ⟨fuel, rfl⟩ := Nat.exists_eq_succ_of_ne_zero (Nat.ne_of_gt (Nat.zero_lt_of_lt h))
      rw [List.flatMap_cons, List.append_assoc, pieces_escapeChar, ih (Nat.lt_of_succ_lt_succ h)]
      rfl

theorem join?_map_char (cs : List Char) : join? (cs.map .char) = some cs := by
  induction cs with
  | nil => rfl
  | cons c cs ih => rw [List.map_cons, join?, ih, Option.map_some]

theorem escapeChar_ne_nil (c : Char) : escapeChar c ≠ [] := by
  unfold escapeChar
  split <;> try split
  all_goals exact List.cons_ne_nil _ _

theorem length_le_flatMap_escapeChar (cs : List Char) : cs.length ≤ (cs.flatMap escapeChar).length := by
  induction cs with
  | nil => exact Nat.le_refl 0
  | cons c cs ih =>
      have hpositive := List.length_pos_iff.2 (escapeChar_ne_nil c)
      rw [List.flatMap_cons, List.length_append, List.length_cons]
      omega

/-- **A string is read back from its escaped text.** -/
theorem takeString_flatMap_escapeChar (s : String) (rest : List Char) :
    takeString (s.toList.flatMap escapeChar ++ '"' :: rest) = some (some s, rest) := by
  have hlength := length_le_flatMap_escapeChar s.toList
  rw [takeString, pieces_flatMap_escapeChar _ (by rw [List.length_append]; omega)]
  show some ((join? (s.toList.map .char)).map String.ofList, rest) = _
  rw [join?_map_char, Option.map_some, String.ofList_toList]

end Json.Text

end Instrumentation
