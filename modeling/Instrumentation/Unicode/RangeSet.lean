import Instrumentation.Unicode.Ranges

set_option autoImplicit false

/-!
# Sets of characters as ranges

`Ranges.normal` writes a set of characters in one way only: its ranges ascend, do not touch and hold no
surrogates, which are no characters. The operations on sets take and give ranges of this form.
-/

namespace Instrumentation.Unicode

/-- The last code point before the surrogates. -/
def lastBeforeSurrogates : Nat := 0xD7FF

/-- The first code point after the surrogates. -/
def firstAfterSurrogates : Nat := 0xE000

/-- The last code point. -/
def lastCodePoint : Nat := 0x10FFFF

/-- The characters of a range of code points. -/
def charactersOf (r : Nat × Nat) : Ranges :=
  (if r.1 ≤ lastBeforeSurrogates then [(r.1, min r.2 lastBeforeSurrogates)] else []) ++
    (if firstAfterSurrogates ≤ r.2 then [(max r.1 firstAfterSurrogates, r.2)] else [])

namespace Ranges

/-- Joins a range with the ranges after it that touch it. The ranges begin in ascending order. -/
def joinFrom (lo hi : Nat) : Ranges → Ranges
  | [] => [(lo, hi)]
  | (a, b) :: rs => if a ≤ hi + 1 then joinFrom lo (max hi b) rs else (lo, hi) :: joinFrom a b rs

/-- Joins ranges that touch. The ranges begin in ascending order. -/
def join : Ranges → Ranges
  | [] => []
  | (a, b) :: rs => joinFrom a b rs

/-- The characters of some ranges in ascending order, without ranges that touch. -/
def normal (rs : Ranges) : Ranges :=
  join ((rs.flatMap charactersOf).mergeSort fun a b => decide (a.1 ≤ b.1))

/-- The characters of two sets. -/
def union (a b : Ranges) : Ranges := normal (a ++ b)

/-- What lies between ascending ranges, from a code point on. -/
def gapsFrom (next : Nat) : Ranges → Ranges
  | [] => if next ≤ lastCodePoint then [(next, lastCodePoint)] else []
  | (a, b) :: rs =>
      (if next < a then [(next, a - 1)] else []) ++ gapsFrom (max next (b + 1)) rs

/-- The characters outside a set. -/
def complement (rs : Ranges) : Ranges := (gapsFrom 0 rs).flatMap charactersOf

/-- The characters that two sets have in common. -/
def inter (a b : Ranges) : Ranges := complement (union (complement a) (complement b))

/-- The characters of the first set that are not in the second. -/
def diff (a b : Ranges) : Ranges := inter a (complement b)

/-- The characters of exactly one of two sets. -/
def symmDiff (a b : Ranges) : Ranges := diff (union a b) (inter a b)

end Ranges

end Instrumentation.Unicode
