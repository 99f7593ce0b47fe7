import Instrumentation.Unicode.Age
import Instrumentation.Unicode.BinaryProperty
import Instrumentation.Unicode.CaseFolding
import Instrumentation.Unicode.GeneralCategory
import Instrumentation.Unicode.GraphemeBreak
import Instrumentation.Unicode.RangeSet
import Instrumentation.Unicode.Script
import Instrumentation.Unicode.ScriptExtension
import Instrumentation.Unicode.SentenceBreak
import Instrumentation.Unicode.WordBreak

set_option autoImplicit false

/-!
# Character classes

A class is an expression over ranges of code points, and `contains` is its meaning. Case folding and
complement are part of the expression language. `toRanges` gives the characters of a class as ranges.

`namedClass?` finds the class of a name, `valuedClass?` that of a property and one of its values.
-/

namespace Instrumentation.Pattern

open Instrumentation.Unicode

/-- Expressions for sets of code points. -/
inductive CharClass where
  | nothing
  | ranges (rs : Ranges)
  | union (a b : CharClass)
  | inter (a b : CharClass)
  | diff (a b : CharClass)
  | symmDiff (a b : CharClass)
  | complement (a : CharClass)
  /-- Adds the case variants of every member. -/
  | folded (a : CharClass)
  /-- Adds the case variants of the members among the ASCII letters. -/
  | foldedAscii (a : CharClass)
deriving Inhabited

/-- The other case of an ASCII letter. -/
def asciiVariants (n : Nat) : List Nat :=
  if 65 ≤ n ∧ n ≤ 90 then [n + 32] else if 97 ≤ n ∧ n ≤ 122 then [n - 32] else []

namespace CharClass

/-- Membership of a code point in a class. -/
def contains : CharClass → Nat → Bool
  | nothing, _ => false
  | ranges rs, n => rs.contains n
  | union a b, n => a.contains n || b.contains n
  | inter a b, n => a.contains n && b.contains n
  | diff a b, n => a.contains n && !b.contains n
  | symmDiff a b, n => a.contains n != b.contains n
  | complement a, n => !a.contains n
  | folded a, n => a.contains n || (caseVariants n).any fun m => a.contains m
  | foldedAscii a, n => a.contains n || (asciiVariants n).any fun m => a.contains m

/-- The class of one code point. -/
def single (n : Nat) : CharClass := ranges [(n, n)]

/-- The complement of a class when asked for. -/
def negateIf (negated : Bool) (a : CharClass) : CharClass := if negated then complement a else a

/-- The case variants of the members of a set, by classes of variants. -/
def variantsOf (rs : Ranges) : Ranges :=
  foldingClasses.flatMap fun cls =>
    if cls.any rs.contains then cls.map fun n => (n, n) else []

/-- The case variants of the ASCII letters of a set. -/
def asciiVariantsOf (rs : Ranges) : Ranges :=
  ((List.range 128).filter rs.contains).flatMap fun n => (asciiVariants n).map fun m => (m, m)

/-- The characters of a class, in the normal form of sets. -/
def toRanges : CharClass → Ranges
  | nothing => []
  | ranges rs => rs.normal
  | union a b => a.toRanges.union b.toRanges
  | inter a b => a.toRanges.inter b.toRanges
  | diff a b => a.toRanges.diff b.toRanges
  | symmDiff a b => a.toRanges.symmDiff b.toRanges
  | complement a => a.toRanges.complement
  | folded a => let rs := a.toRanges; rs.union (variantsOf rs)
  | foldedAscii a => let rs := a.toRanges; rs.union (asciiVariantsOf rs)

end CharClass

/-- The union of some general categories. -/
def categoryClass (codes : List String) : CharClass :=
  codes.foldl (fun acc code => .union acc (.ranges (categoryTable.get code))) .nothing

/-- Decimal digits of all scripts. -/
def digitClass : CharClass := .ranges (categoryTable.get "Nd")

/-- The blanks of all scripts. -/
def blankClass : CharClass := .ranges (propertyTable.get "White_Space")

/-- Letters, marks, decimal digits, connectors and joiners: the characters of words. -/
def wordClass : CharClass :=
  .union (.ranges (propertyTable.get "Alphabetic"))
    (.union (categoryClass ["Mn", "Mc", "Me", "Nd", "Pc"]) (.ranges (propertyTable.get "Join_Control")))

/-- ASCII digits. -/
def asciiDigitClass : CharClass := .ranges [(48, 57)]

/-- ASCII blanks. -/
def asciiBlankClass : CharClass := .ranges [(9, 13), (32, 32)]

/-- ASCII letters, digits and the underscore. -/
def asciiWordClass : CharClass := .ranges [(48, 57), (65, 90), (95, 95), (97, 122)]

/-- All code points. -/
def anyClass : CharClass := .complement .nothing

/-- The classes that are written `[:name:]` inside brackets. -/
def asciiNamedRanges? : String → Option Ranges
  | "alnum" => some [(48, 57), (65, 90), (97, 122)]
  | "alpha" => some [(65, 90), (97, 122)]
  | "ascii" => some [(0, 127)]
  | "blank" => some [(9, 9), (32, 32)]
  | "cntrl" => some [(0, 31), (127, 127)]
  | "digit" => some [(48, 57)]
  | "graph" => some [(33, 126)]
  | "lower" => some [(97, 122)]
  | "print" => some [(32, 126)]
  | "punct" => some [(33, 47), (58, 64), (91, 96), (123, 126)]
  | "space" => some [(9, 13), (32, 32)]
  | "upper" => some [(65, 90)]
  | "word" => some [(48, 57), (65, 90), (95, 95), (97, 122)]
  | "xdigit" => some [(48, 57), (65, 70), (97, 102)]
  | _ => none

/-- The class of a general category or of a group of them. -/
def generalCategory? (name : String) : Option CharClass :=
  match name with
  | "any" => some anyClass
  | "ascii" => some (.ranges [(0, 127)])
  | "assigned" => some (.complement (.ranges (categoryTable.get "Cn")))
  | _ => (categoryNames.lookup name).map categoryClass

/-- Abbreviations that are both a category and the short name of a property with values; the category wins. -/
def categoryFirst : List String := ["cf", "sc", "lc"]

/-- The class of a name that stands alone: of a property, else of a category, else of a script. -/
def namedClass? (name : String) : Option CharClass :=
  let n := Unicode.normalName name
  match if categoryFirst.contains n then none else propertyNames.lookup n with
  | some p => (propertyTable.find? p).map .ranges
  | none => (generalCategory? n).or ((scriptTable.named? scriptNames n).map .ranges)

/-- The characters for which a property has a value. -/
def valuedRanges? (property value : String) : Option Ranges :=
  match property with
  | "Script" => scriptTable.named? scriptNames value
  | "Script_Extensions" => scriptExtensionTable.named? scriptNames value
  | "Age" => (ageNames.lookup value).bind knownAt?
  | "Grapheme_Cluster_Break" => graphemeBreakTable.named? graphemeBreakNames value
  | "Sentence_Break" => sentenceBreakTable.named? sentenceBreakNames value
  | "Word_Break" => wordBreakTable.named? wordBreakNames value
  | _ => none

/-- The class of a property with a value. -/
def valuedClass? (property value : String) : Option CharClass := do
  let p ← propertyNames.lookup (Unicode.normalName property)
  let v := Unicode.normalName value
  if p = "General_Category" then generalCategory? v else (valuedRanges? p v).map .ranges

end Instrumentation.Pattern
