set_option autoImplicit false

/-!
# Numbers of the data format

A number is an integer or a double. A literal is an integer when it has neither point nor exponent
and its value fits into 64 bits, signed or unsigned; every other literal is a double. The literal `-0`
is the double negative zero.
-/

namespace Instrumentation.Json

/-- A number: exact while it is an integer of 64 bits, a double otherwise. -/
inductive Number where
  | integer (value : Int)
  | float (value : Float)

/-- A number as it is written: sign, digits before and after the point, and the exponent with its sign.
The point is there exactly when `fraction` is present. -/
structure Literal where
  negative : Bool
  whole : List Nat
  fraction : Option (List Nat)
  exponent : Option (Bool × List Nat)

/-- The largest unsigned number of 64 bits. -/
def maxUnsigned : Nat := UInt64.size - 1

/-- The greatest magnitude of a negative number of 64 bits. -/
def maxNegated : Nat := UInt64.size / 2

/-- The greatest exponent whose digits are looked at. -/
def maxExponent : Nat := UInt32.size / 2 - 1

/-- Takes digits into a significand as long as it fits into 64 bits; returns it with the digits left. -/
def takeDigits (significand : Nat) : List Nat → Nat × List Nat
  | [] => (significand, [])
  | d :: ds =>
      if significand * 10 + d ≤ maxUnsigned then takeDigits (significand * 10 + d) ds
      else (significand, d :: ds)

/-- The value of a list of decimal digits. -/
def digitsValue (ds : List Nat) : Nat := ds.foldl (fun n d => n * 10 + d) 0

/-- The double next to a power of ten with a natural exponent. -/
def powerOfTen (e : Nat) : Float := Float.ofScientific 1 false e

/-- The double `significand / 10 ^ e`, divided by at most `10 ^ 308` at a time. -/
def scaleDown (x : Float) (e : Nat) : Float :=
  if h : e ≤ 308 then x / powerOfTen e
  else if x == 0.0 then x
  else scaleDown (x / powerOfTen 308) (e - 308)
termination_by e

/-- The double `significand * 10 ^ e`; none when it is too large. -/
def scale (significand : Nat) (e : Int) : Option Float :=
  let x := significand.toUInt64.toFloat
  match e with
  | .ofNat k =>
      if k ≤ 308 then
        let y := x * powerOfTen k
        if y.isInf then none else some y
      else if significand = 0 then some x else none
  | .negSucc k => some (scaleDown x (k + 1))

/-- The double of a literal: the digits that fit into 64 bits, scaled by a power of ten. Digits before
the point that do not fit count as places, digits after it are left out. -/
def Literal.toFloat? (l : Literal) : Option Float :=
  let (s, left) := takeDigits 0 l.whole
  let fraction := l.fraction.getD []
  let (s', left') := takeDigits s fraction
  let places : Int := (left.length : Int) - ((fraction.length : Int) - (left'.length : Int))
  let shift : Int := match l.exponent with
    | none => 0
    | some (down, ds) => if down then -(digitsValue ds : Int) else digitsValue ds
  let x : Option Float :=
    match l.exponent with
    | some (down, ds) =>
        if maxExponent < digitsValue ds then
          if s' ≠ 0 && !down then none else some 0.0
        else scale s' (places + shift)
    | none => scale s' places
  x.map fun x => if l.negative then -x else x

/-- The number of a literal; none when it is larger than every double. -/
def Literal.toNumber? (l : Literal) : Option Number :=
  let value := digitsValue l.whole
  match l.fraction, l.exponent with
  | none, none =>
      if !l.negative && decide (value ≤ maxUnsigned) then some (.integer value)
      else if l.negative && decide (value ≠ 0) && decide (value ≤ maxNegated) then
        some (.integer (-(value : Int)))
      else if value ≤ maxUnsigned then some (.float (-value.toUInt64.toFloat))
      else l.toFloat?.map .float
  | _, _ => l.toFloat?.map .float

end Instrumentation.Json
