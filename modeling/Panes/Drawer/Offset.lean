/-!
# Drawer offsets

The drawer reports how far it is out as a single-precision binary number. Only its bits are kept:
what the drawer asks of a sample is whether it is zero, above zero, or neither, and that can be read
off the bits. A negative number and a value that is not a number are neither.
-/

namespace Panes.Drawer

/-- A single-precision binary number, by its bits. -/
structure Offset where
  /-- Sign, exponent and fraction, from the highest bit down. -/
  bits : UInt32
  deriving DecidableEq, Repr

namespace Offset

/-- The bits of positive infinity: all exponent bits and no fraction. -/
def infinityBits : Nat := 0x7f800000

/-- The bit that makes a number negative. -/
def signBit : Nat := 0x80000000

/-- The bits without the sign. -/
def magnitude (offset : Offset) : Nat := offset.bits.toNat % signBit

/-- Both zeros count as zero. -/
def isZero (offset : Offset) : Bool := offset.magnitude == 0

/-- The bits lie beyond those of infinity, so they stand for no number. -/
def isNaN (offset : Offset) : Bool := infinityBits < offset.magnitude

/-- A number above zero, infinity included. -/
def isPositive (offset : Offset) : Bool :=
  0 < offset.bits.toNat && offset.bits.toNat ≤ infinityBits

/-- One of the values that stand for no number. -/
def nan : Offset := ⟨0x7fc00000⟩

/-- Positive infinity. -/
def infinity : Offset := ⟨0x7f800000⟩

/-- Negative infinity. -/
def negativeInfinity : Offset := ⟨0xff800000⟩

/-- No sample is both zero and positive. -/
theorem isPositive_eq_false_of_isZero {offset : Offset} (zero : offset.isZero = true) :
    offset.isPositive = false := by
  have remainder : offset.bits.toNat % 0x80000000 = 0 := by
    simpa only [isZero, magnitude, signBit, beq_iff_eq] using zero
  have bound : offset.bits.toNat < 0x100000000 := offset.bits.toNat_lt
  rw [isPositive, infinityBits, Bool.and_eq_false_iff]
  rcases Nat.eq_zero_or_pos offset.bits.toNat with none | some
  · exact .inl (decide_eq_false (by omega))
  · exact .inr (decide_eq_false (by omega))

end Offset

end Panes.Drawer
