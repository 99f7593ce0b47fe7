set_option autoImplicit false

/-!
# Sets of code points as ranges

The tables of characters are written as texts of hexadecimal ranges, `41-5A 61-7A AA`. This module reads
such texts and tests membership.
-/

namespace Instrumentation.Unicode

/-- Closed ranges of code points. -/
abbrev Ranges := List (Nat × Nat)

/-- Named sets of code points, each written as a text of ranges. -/
abbrev RangeTable := List (String × String)

/-- The value of a hexadecimal digit in upper case; other characters count as zero. -/
def hexValue (c : Char) : Nat :=
  if c ≤ '9' then c.toNat - '0'.toNat else c.toNat - 'A'.toNat + 10

/-- Splits a list of characters at a separator. -/
def splitAtChar (sep : Char) : List Char → List (List Char)
  | [] => [[]]
  | c :: cs =>
      match splitAtChar sep cs with
      | [] => [[c]]
      | w :: ws => if c = sep then [] :: w :: ws else (c :: w) :: ws

/-- The value of a hexadecimal number. -/
def hexNumber (cs : List Char) : Nat := cs.foldl (fun n c => n * 16 + hexValue c) 0

/-- One range: two numbers with a dash between them, or one number for both ends. -/
def rangeOfHex (cs : List Char) : Nat × Nat :=
  match splitAtChar '-' cs with
  | [a] => (hexNumber a, hexNumber a)
  | a :: b :: _ => (hexNumber a, hexNumber b)
  | [] => (0, 0)

/-- The words of a text, separated by blanks and line breaks. -/
def wordsOf (text : String) : List (List Char) :=
  let cs := text.toList.map fun c => if c = '\n' then ' ' else c
  (splitAtChar ' ' cs).filter fun w => !w.isEmpty

/-- The ranges of a text. -/
def Ranges.ofHex (text : String) : Ranges := (wordsOf text).map rangeOfHex

/-- The classes of a text, with a plus sign between the members of a class. -/
def classesOfHex (text : String) : List (List Nat) :=
  (wordsOf text).map fun w => (splitAtChar '+' w).map hexNumber

/-- Membership of a code point. -/
def Ranges.contains (rs : Ranges) (n : Nat) : Bool :=
  rs.any fun r => decide (r.1 ≤ n) && decide (n ≤ r.2)

/-- The set with a name. -/
def RangeTable.find? (t : RangeTable) (name : String) : Option Ranges :=
  (t.lookup name).map Ranges.ofHex

/-- The set that another name stands for. -/
def RangeTable.named? (t : RangeTable) (names : List (String × String)) (name : String) :
    Option Ranges :=
  (names.lookup name).bind t.find?

/-- The set with a name, which is empty if the table has none of that name. -/
def RangeTable.get (t : RangeTable) (name : String) : Ranges := (t.find? name).getD []

/-- The form in which names are compared: without a leading `is`, blanks, underscores and dashes, in
lower case, and without characters beyond ASCII. -/
def normalName (name : String) : String :=
  let cs := name.toList
  let (isForm, cs) := match cs with
    | i :: s :: rest => if (i = 'i' ∨ i = 'I') ∧ (s = 's' ∨ s = 'S') then (true, rest) else (false, cs)
    | _ => (false, cs)
  let cs := (cs.filter fun c => c ≠ ' ' && c ≠ '_' && c ≠ '-' && c.toNat < 0x80).map Char.toLower
  if isForm && cs == ['c'] then "isc" else String.ofList cs

end Instrumentation.Unicode
