import Instrumentation.Unicode.RangeSet

set_option autoImplicit false

/-!
# Sets of characters as sequences of byte ranges

A character is encoded in one to four bytes. `byteSequences` covers the encodings of a set of characters
by sequences of byte ranges: a text of bytes encodes a member exactly if one of the sequences has as many
ranges as the text has bytes, and every byte lies in its range. The sequences ascend.
-/

namespace Instrumentation.Pattern

open Instrumentation.Unicode

/-- A closed range of bytes. -/
structure ByteRange where
  first : UInt8
  last : UInt8
deriving DecidableEq, Repr, Inhabited

/-- The bytes that encode a code point. -/
def encode (n : Nat) : List UInt8 := String.utf8EncodeChar (Char.ofNat n)

/-- The greatest code points that one, two and three bytes encode. -/
def lengthBounds : List Nat := [0x7F, 0x7FF, 0xFFFF]

/-- Splits a range at bounds, so that every part lies on one side of each of them. -/
def splitAtBounds : List Nat → Nat → Nat → Ranges
  | [], lo, hi => [(lo, hi)]
  | b :: bs, lo, hi =>
      if hi ≤ b then [(lo, hi)]
      else if b < lo then splitAtBounds bs lo hi
      else (lo, b) :: splitAtBounds bs (b + 1) hi

/-- Splits a range at the ends of blocks that share all but their last bytes, so that every part is one
sequence of byte ranges. The number of code points of a block grows from level to level: `block` on the
first one, and 64 times as many on each that follows. -/
def splitAtBlocks : Nat → Nat → Nat → Nat → Ranges
  | 0, _, lo, hi => [(lo, hi)]
  | levels + 1, block, lo, hi =>
      if lo / block = hi / block then [(lo, hi)]
      else
        let (head, lo) : Ranges × Nat :=
          if lo % block = 0 then ([], lo)
          else ([(lo, lo / block * block + block - 1)], lo / block * block + block)
        if lo / block = hi / block then head ++ [(lo, hi)]
        else if hi % block = block - 1 then head ++ splitAtBlocks levels (block * 64) lo hi
        else
          head ++ splitAtBlocks levels (block * 64) lo (hi / block * block - 1) ++
            [(hi / block * block, hi)]

/-- The parts of a range that are one sequence of byte ranges each. -/
def uniformParts (r : Nat × Nat) : Ranges :=
  (splitAtBounds lengthBounds r.1 r.2).flatMap fun p =>
    if p.2 < 0x80 then [p] else splitAtBlocks 3 64 p.1 p.2

/-- The byte ranges between the encodings of two characters. -/
def byteRangesBetween (lo hi : Nat) : List ByteRange :=
  List.zipWith ByteRange.mk (encode lo) (encode hi)

/-- The sequences of byte ranges that cover a set of characters. -/
def byteSequences (rs : Ranges) : List (List ByteRange) :=
  rs.flatMap fun r => (uniformParts r).map fun p => byteRangesBetween p.1 p.2

end Instrumentation.Pattern
