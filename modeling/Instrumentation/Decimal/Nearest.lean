import Instrumentation.Decimal.Shortest

set_option autoImplicit false

/-!
# The double next to a decimal number

`nearest?` rounds `significand * 10 ^ exponent` to a double. Numbers far beyond the greatest double or far
below the least one are decided by their leading digit alone, so that no huge power of ten is computed.
-/

namespace Instrumentation.Decimal

/-- Every decimal number whose leading digit stands at this power of ten or above is beyond all doubles. -/
def overflowPower : Int := 309

/-- Every decimal number whose leading digit stands below this power of ten rounds to zero. -/
def underflowPower : Int := -325

/-- The double next to `significand * 10 ^ exponent`; none when that is beyond every double. -/
def nearest? (significand : Nat) (exponent : Int) : Option Float :=
  let lead : Int := exponent + ((digitsOf significand).length : Int) - 1
  if significand = 0 ∨ lead < underflowPower then some 0.0
  else if overflowPower ≤ lead then none
  else
    let x := Float.ofScientific significand (decide (exponent < 0)) exponent.natAbs
    if x.isInf then none else some x

end Instrumentation.Decimal
