import Instrumentation.Decimal.Nearest
import Instrumentation.Json.Text

set_option autoImplicit false

/-!
# Plain scalars

A scalar without quotes may stand for an absent value, a truth value or a number; what fits none of them
is a text. Integers may be written to base sixteen, eight or two. A number with superfluous leading zeros
is a text.
-/

namespace Instrumentation.Yaml.Plain

open Instrumentation.Decimal

/-- The words for an absent value. -/
def isNull (s : String) : Bool := ["null", "Null", "NULL", "~"].contains s

/-- A truth value. -/
def bool? (s : String) : Option Bool :=
  if ["true", "True", "TRUE"].contains s then some true
  else if ["false", "False", "FALSE"].contains s then some false
  else none

/-- A digit to one of the bases up to sixteen. -/
def digitTo? (base : Nat) (c : Char) : Option Nat := (Json.Text.hexDigit? c).filter fun d => d < base

/-- A number of one or more digits to a base. -/
def digitsTo? (base : Nat) (cs : List Char) : Option Nat :=
  if cs.isEmpty then none
  else (cs.mapM (digitTo? base)).map fun ds => ds.foldl (fun n d => n * base + d) 0

/-- Several digits of which the first is zero. -/
def isZeroPadded (cs : List Char) : Bool :=
  decide (1 < cs.length) && cs.head? == some '0' && cs.all Char.isDigit

/-- An integer without a sign. -/
def magnitude? (cs : List Char) : Option Nat :=
  match cs with
  | '0' :: 'x' :: ds => digitsTo? 16 ds
  | '0' :: 'o' :: ds => digitsTo? 8 ds
  | '0' :: 'b' :: ds => digitsTo? 2 ds
  | ds => if isZeroPadded ds then none else digitsTo? 10 ds

/-- Splits off a sign; the flag tells whether it is a minus. -/
def unsigned (cs : List Char) : Bool × List Char :=
  match cs with
  | '-' :: rest => (true, rest)
  | '+' :: rest => (false, rest)
  | _ => (false, cs)

/-- An integer. -/
def integer? (s : String) : Option Int :=
  let (negative, rest) := unsigned s.toList
  (magnitude? rest).map fun n => if negative then -(n : Int) else n

/-- An integer that is written without a minus. -/
def natural? (s : String) : Option Nat :=
  let (negative, rest) := unsigned s.toList
  if negative then none else magnitude? rest

/-- An exponent with its mark. -/
def exponent? (cs : List Char) : Option Int :=
  match cs with
  | [] => some 0
  | c :: rest =>
      if c = 'e' ∨ c = 'E' then
        let (negative, ds) := unsigned rest
        (digitsTo? 10 ds).map fun n => if negative then -(n : Int) else n
      else none

/-- A decimal number without a sign, which may have a point and an exponent. -/
def decimal? (cs : List Char) : Option (Nat × Int) :=
  let whole := cs.takeWhile Char.isDigit
  let rest := cs.dropWhile Char.isDigit
  let (fraction, rest) := match rest with
    | '.' :: rest => (rest.takeWhile Char.isDigit, rest.dropWhile Char.isDigit)
    | _ => ([], rest)
  do
    let significand ← digitsTo? 10 (whole ++ fraction)
    let exponent ← exponent? rest
    some (significand, exponent - (fraction.length : Int))

/-- The words for the infinite double. -/
def isInfinity (cs : List Char) : Bool := [".inf", ".Inf", ".INF"].contains (String.ofList cs)

/-- The words for the double that is no number. -/
def isNotANumber (s : String) : Bool := [".nan", ".NaN", ".NAN"].contains s

/-- A double. Numbers beyond every double are none. -/
def float? (s : String) : Option Float :=
  let (negative, rest) := unsigned s.toList
  let signed (x : Float) : Float := if negative then -x else x
  if isNotANumber s then some (0.0 / 0.0)
  else if isInfinity rest then some (signed (1.0 / 0.0))
  else do
    let (significand, exponent) ← decimal? rest
    (nearest? significand exponent).map signed

/-- An integer fits into 64 bits, signed or unsigned. -/
def isShort (i : Int) : Bool := decide (Int64.minValue.toInt ≤ i) && decide (i < UInt64.size)

/-- How many numbers of 128 bits there are. -/
def longSize : Nat := UInt64.size * UInt64.size

/-- An integer fits into 128 bits, signed or unsigned. Beyond that, its digits are those of a double. -/
def isLong (i : Int) : Bool := decide (-((longSize / 2 : Nat) : Int) ≤ i) && decide (i < longSize)

/-- What a plain scalar stands for. -/
inductive Value where
  | null
  | bool (value : Bool)
  | integer (value : Int)
  | float (value : Float)
  | text
deriving Inhabited

/-- What a plain scalar stands for. -/
def value (s : String) : Value :=
  if s = "" ∨ isNull s then .null
  else
    match bool? s, (integer? s).filter isLong with
    | some b, _ => .bool b
    | none, some i => .integer i
    | none, none =>
        if isZeroPadded (unsigned s.toList).2 then .text
        else
          match float? s with
          | some x => .float x
          | none => .text

/-- A text that reads as a text when it is written plainly. -/
def isText (s : String) : Bool :=
  match value s with
  | .text => !isZeroPadded (unsigned s.toList).2
  | _ => false

end Instrumentation.Yaml.Plain
