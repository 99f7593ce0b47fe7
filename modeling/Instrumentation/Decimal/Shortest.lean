set_option autoImplicit false

/-!
# Shortest decimal text of a binary fraction

A positive double is `mantissa * 2 ^ exponent` with whole numbers. The reals that round to it form an
interval around it, whose ends belong to it when the mantissa is even. `shortest` looks for the fewest
decimal digits that name a point of that interval: on the grid of one digit, then of two, and so on up
to seventeen, it tests the two neighbours of the value, and of two hits it takes the nearer one.

All arithmetic is exact, on natural numbers.
-/

namespace Instrumentation.Decimal

/-- A positive binary fraction `mantissa * 2 ^ exponent`. The flag says that the mantissa is the least
one of its binade, where the next double below is only half as far away as the next one above. -/
structure Binary where
  mantissa : Nat
  exponent : Int
  leastOfBinade : Bool

/-- The bit that precedes the fraction of a double. -/
def leadingBit : Nat := Nat.pow 2 52

/-- The sign bit of a double. -/
def signBit : Nat := Nat.pow 2 63

/-- The fields of the bit pattern of a finite double, without its sign. -/
def Binary.ofBits (bits : Nat) : Binary :=
  let fraction := bits % leadingBit
  let biased := bits / leadingBit % 2048
  if biased = 0 then ⟨fraction, -1074, false⟩
  else ⟨leadingBit + fraction, (Int.ofNat biased) - 1075, fraction = 0 && 1 < biased⟩

/-- Decimal digits, most significant first, and the power of ten of the last one. -/
structure Digits where
  digits : List Nat
  exponent : Int
deriving Repr, DecidableEq

/-- The digits of a natural number, most significant first; none for zero. -/
def digitsOf (n : Nat) : List Nat :=
  if _h : n = 0 then [] else digitsOf (n / 10) ++ [n % 10]
termination_by n
decreasing_by omega

/-- The least `j` below the bound with `den ≤ num * 10 ^ j`, or the bound. -/
def scaleUp (num den : Nat) : Nat → Nat → Nat
  | 0, j => j
  | bound + 1, j => if den ≤ num * Nat.pow 10 j then j else scaleUp num den bound (j + 1)

/-- The power of ten of the leading digit of the positive fraction `num / den`. -/
def leadingPower (num den : Nat) : Int :=
  if den ≤ num then ((digitsOf (num / den)).length : Int) - 1
  else -(scaleUp num den 400 1 : Int)

/-- The whole points of a decimal grid next to a value, as far as they lie in an interval. All four
numbers are in quarter units of the last binary place, over a common denominator. -/
def onGrid (value lower upper step : Nat) (closed : Bool) : Option Nat :=
  let below := value / step
  let above := below + 1
  let inside (n : Nat) : Bool :=
    if closed then decide (lower ≤ n * step) && decide (n * step ≤ upper)
    else decide (lower < n * step) && decide (n * step < upper)
  let down := value - below * step
  let up := above * step - value
  match inside below && decide (below ≠ 0), inside above with
  | true, true => if down < up || (down = up && below % 2 = 0) then some below else some above
  | true, false => some below
  | false, true => some above
  | false, false => none

/-- Tries grids of ever more digits, starting at the given power of ten. -/
def search (value lower upper den : Nat) (closed : Bool) (power : Int) : Nat → Option (Nat × Int)
  | 0 => none
  | tries + 1 =>
      let up := power.toNat
      let down := (-power).toNat
      let hit := onGrid (value * Nat.pow 10 down) (lower * Nat.pow 10 down)
        (upper * Nat.pow 10 down) (den * Nat.pow 10 up) closed
      match hit with
      | some n => some (n, power)
      | none => search value lower upper den closed (power - 1) tries

/-- Drops the zeros at the end of a number, counting them into the power of ten. -/
def trimZeros (n : Nat) (power : Int) : Nat × Int :=
  if h : n ≠ 0 ∧ n % 10 = 0 then trimZeros (n / 10) (power + 1) else (n, power)
termination_by n
decreasing_by omega

/-- The shortest decimal digits that round to the binary fraction. -/
def shortest (b : Binary) : Digits :=
  let scale := b.exponent.toNat
  let den := 4 * Nat.pow 2 (-b.exponent).toNat
  let value := 4 * b.mantissa * Nat.pow 2 scale
  let lower := (4 * b.mantissa - if b.leastOfBinade then 1 else 2) * Nat.pow 2 scale
  let upper := (4 * b.mantissa + 2) * Nat.pow 2 scale
  let top := leadingPower value den
  match search value lower upper den (b.mantissa % 2 = 0) top 20 with
  | some (n, power) =>
      let (n, power) := trimZeros n power
      ⟨digitsOf n, power⟩
  | none => ⟨[], 0⟩

/-- The character of a decimal digit. -/
def digitChar (d : Nat) : Char := Char.ofNat (48 + d)

/-- The decimal text of a natural number. -/
def natText (n : Nat) : String :=
  if n = 0 then "0" else String.ofList ((digitsOf n).map digitChar)

/-- The decimal text of an integer. -/
def intText (i : Int) : String :=
  if i < 0 then "-" ++ natText i.natAbs else natText i.natAbs

/-- Where a decimal text changes from positional to scientific notation. -/
structure Layout where
  /-- The least power of ten of the leading digit that is written positionally. -/
  lowest : Int
  /-- The greatest power of ten of the leading digit that is written positionally. -/
  highest : Int

/-- Writes digits positionally, always with a point, or with an exponent. -/
def Digits.render (form : Layout) (d : Digits) : String :=
  let cs := d.digits.map digitChar
  let lead : Int := d.exponent + (d.digits.length : Int) - 1
  if form.lowest ≤ lead ∧ lead ≤ form.highest then
    if 0 ≤ d.exponent then
      String.ofList (cs ++ List.replicate d.exponent.toNat '0' ++ ['.', '0'])
    else if 0 ≤ lead then
      let whole := lead.toNat + 1
      String.ofList (cs.take whole ++ ['.'] ++ cs.drop whole)
    else
      String.ofList (['0', '.'] ++ List.replicate ((-lead).toNat - 1) '0' ++ cs)
  else
    let exponent := if 0 ≤ lead then "e+" ++ natText lead.toNat else "e-" ++ natText (-lead).toNat
    match cs with
    | [] => "0.0"
    | [c] => String.ofList [c] ++ exponent
    | c :: rest => String.ofList (c :: '.' :: rest) ++ exponent

/-- Numbers from a hundred-thousandth up to `10 ^ 16` are written positionally. -/
def wide : Layout := ⟨-5, 15⟩

/-- The text of a finite double. -/
def floatText (x : Float) : String :=
  let bits := x.toBits.toNat
  let sign := if signBit ≤ bits then "-" else ""
  let magnitude := bits % signBit
  if magnitude = 0 then sign ++ "0.0"
  else sign ++ (shortest (Binary.ofBits magnitude)).render wide

end Instrumentation.Decimal
