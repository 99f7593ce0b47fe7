import Instrumentation.Json.Printer
import Instrumentation.Unicode.LaterVersion

set_option autoImplicit false

/-!
# Shown texts

The form of a text in descriptions for developers: in quotes, with escapes for the quote, the backslash,
the control characters and every other character that would not be seen on its own.
-/

namespace Instrumentation

/-- The categories of characters that cannot be seen. -/
def hiddenCategories : List String := ["Cc", "Cf", "Co", "Cn", "Zl", "Zp", "Zs"]

/-- The voicing marks of half width. They attach to the character before them, but take a place of their
own. -/
def halfWidthMarks : Unicode.Ranges := [(0xFF9E, 0xFF9F)]

/-- The characters of the hidden categories. -/
def hiddenRanges : Unicode.Ranges := hiddenCategories.flatMap Unicode.categoryTable.get

/-- Characters that attach to the one before them. -/
def attachingRanges : Unicode.Ranges := Unicode.propertyTable.get "Grapheme_Extend"

/-- Characters for which nothing is drawn. -/
def ignorableRanges : Unicode.Ranges := Unicode.propertyTable.get "Default_Ignorable_Code_Point"

/-- A code point that cannot be seen on its own. -/
def isHidden (n : Nat) : Bool :=
  !Unicode.laterVisible.contains n &&
    (hiddenRanges.contains n || ignorableRanges.contains n ||
      (attachingRanges.contains n && !halfWidthMarks.contains n))

/-- The hexadecimal digits of a number, without leading zeros. -/
def hexDigits (n : Nat) : List Char :=
  if _h : n < 16 then [Json.hexChar n] else hexDigits (n / 16) ++ [Json.hexChar (n % 16)]
termination_by n
decreasing_by omega

/-- A character inside a shown text. -/
def showChar (c : Char) : List Char :=
  match c with
  | '\x00' => ['\\', '0']
  | '\t' => ['\\', 't']
  | '\r' => ['\\', 'r']
  | '\n' => ['\\', 'n']
  | '"' => ['\\', '"']
  | '\\' => ['\\', '\\']
  | c =>
      if 0x20 ≤ c.toNat ∧ c.toNat < 0x7f then [c]
      else if isHidden c.toNat then ['\\', 'u', '\x7b'] ++ hexDigits c.toNat ++ ['\x7d']
      else [c]

/-- A text in quotes. -/
def shownText (s : String) : String :=
  String.ofList ('"' :: s.toList.flatMap showChar ++ ['"'])

end Instrumentation
