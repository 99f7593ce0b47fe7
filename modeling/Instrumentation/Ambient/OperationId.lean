import Instrumentation.Json.Text
import Instrumentation.Json.Printer

set_option autoImplicit false

/-!
# Identifiers of operations

An operation, such as a request or a job, is identified by 128 bits. They are written as 32 hexadecimal
digits in groups of 8, 4, 4, 4 and 12. Reading also takes the digits without groups, and the groups in
braces or after `urn:uuid:`.
-/

namespace Instrumentation

/-- The identifier of an operation. -/
structure OperationId where
  bits : BitVec 128
deriving DecidableEq, Repr, Inhabited

namespace OperationId

/-- The lengths of the groups of digits. -/
def groupLengths : List Nat := [8, 4, 4, 4, 12]

/-- The hexadecimal digits of a number, with leading zeros up to a length. -/
def paddedHex (n : Nat) : Nat → List Char
  | 0 => []
  | length + 1 => paddedHex (n / 16) length ++ [Json.hexChar (n % 16)]

/-- All digits. -/
def digits (o : OperationId) : List Char := paddedHex o.bits.toNat 32

/-- Puts digits into groups of the given lengths, with dashes between them. -/
def grouped : List Nat → List Char → List Char
  | [], _ => []
  | [n], cs => cs.take n
  | n :: ns, cs => cs.take n ++ '-' :: grouped ns (cs.drop n)

/-- The written form. -/
def text (o : OperationId) : String := String.ofList (grouped groupLengths o.digits)

/-- The first group. -/
def short (o : OperationId) : String := String.ofList (o.digits.take 8)

/-- The description for developers, which shows the first group only. -/
def shown (o : OperationId) : String := "OperationId(" ++ o.short ++ ")"

/-- The identifier of exactly 32 digits. -/
def ofDigits? (cs : List Char) : Option OperationId := do
  guard (cs.length = 32)
  let ds ← cs.mapM Json.Text.hexDigit?
  some ⟨BitVec.ofNat 128 (ds.foldl (fun n d => n * 16 + d) 0)⟩

/-- The digits of groups of the given lengths; none if the groups are not these. -/
def ungrouped? : List Nat → List Char → Option (List Char)
  | [], cs => if cs.isEmpty then some [] else none
  | [n], cs => if cs.length = n then some cs else none
  | n :: ns, cs =>
      match cs.drop n with
      | '-' :: rest => (ungrouped? ns rest).map (cs.take n ++ ·)
      | _ => none

/-- The identifier of digits in groups. -/
def ofGroups? (cs : List Char) : Option OperationId := (ungrouped? groupLengths cs).bind ofDigits?

/-- The word before the groups in their form as a resource name. -/
def resourceMark : List Char := ['u', 'r', 'n', ':', 'u', 'u', 'i', 'd', ':']

/-- The groups after the mark of a resource name, whose letters may be of either case. -/
def afterMark? (cs : List Char) : Option (List Char) :=
  let (mark, groups) := cs.splitAt resourceMark.length
  if mark.map Char.toLower = resourceMark then some groups else none

/-- Reads an identifier in any of its forms. -/
def ofText? (s : String) : Option OperationId :=
  let cs := s.toList
  match cs.length with
  | 32 => ofDigits? cs
  | 36 => ofGroups? cs
  | 38 =>
      if cs.head? = some '\x7b' ∧ cs.getLast? = some '\x7d' then ofGroups? (cs.drop 1).dropLast
      else none
  | 45 => (afterMark? cs).bind ofGroups?
  | _ => none

end OperationId

end Instrumentation
