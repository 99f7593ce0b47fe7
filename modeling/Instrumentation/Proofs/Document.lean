import Instrumentation.Document

set_option autoImplicit false

/-!
# Numbers in documents

A document of any format that shows a number shows it to the reader of each width that the number fits into.
-/

namespace Instrumentation.Document

variable {δ : Type} [Document δ] {d : δ}

theorem int64?_of_signed {i : Int64} (h : signed? d = some i.toInt) : int64? d = some i := by
  rw [int64?, h]
  show (if Int64.minValue.toInt ≤ i.toInt ∧ i.toInt ≤ Int64.maxValue.toInt then
    some (Int64.ofInt i.toInt) else none) = some i
  rw [if_pos ⟨i.minValue_le_toInt, i.toInt_le⟩, Int64.ofInt_toInt]

theorem int32?_of_signed {i : Int32} (h : signed? d = some i.toInt) : int32? d = some i := by
  rw [int32?, h]
  show (if Int32.minValue.toInt ≤ i.toInt ∧ i.toInt ≤ Int32.maxValue.toInt then
    some (Int32.ofInt i.toInt) else none) = some i
  rw [if_pos ⟨i.minValue_le_toInt, i.toInt_le⟩, Int32.ofInt_toInt]

theorem uint64?_of_unsigned {n : UInt64} (h : unsigned? d = some n.toNat) : uint64? d = some n := by
  rw [uint64?, h]
  show (if n.toNat < UInt64.size then some (UInt64.ofNat n.toNat) else none) = some n
  rw [if_pos n.toNat_lt_size, UInt64.ofNat_toNat]

theorem uint32?_of_unsigned {n : UInt32} (h : unsigned? d = some n.toNat) : uint32? d = some n := by
  rw [uint32?, h]
  show (if n.toNat < UInt32.size then some (UInt32.ofNat n.toNat) else none) = some n
  rw [if_pos n.toNat_lt_size, UInt32.ofNat_toNat]

end Instrumentation.Document
