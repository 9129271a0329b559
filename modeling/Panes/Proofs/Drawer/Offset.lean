import Panes.Drawer
import Panes.Wire.Offset
import Mathlib.Algebra.Order.Field.Power
import Mathlib.Algebra.Order.Field.Rat

/-!
# What drawer offsets stand for

The drawer only asks whether a sample is zero or above zero, and reads that off the bits.
`Offset.value` is what the bits stand for, the sign, the exponent and the fraction put together, and
`edge?_value` says that the drawer reads them right.
-/

namespace Panes

/-- The number that a significand and an exponent make up. -/
def Binary.Dyadic.toRat (value : Binary.Dyadic) : ℚ := value.significand * 2 ^ value.exponent

namespace Drawer

/-- What an offset can stand for. -/
inductive Offset.Value
  /-- No number. -/
  | nan
  /-- One of the infinities. -/
  | infinite (negative : Bool)
  /-- A number. Both zeros are the number zero. -/
  | finite (number : ℚ)
  deriving DecidableEq

/-- The edge that a sample lies at. At zero the drawer is closed, and above zero, infinity included,
it is opened. A sample below zero and one that is no number lie at neither. -/
def Offset.Value.edge? : Offset.Value → Option Edge
  | nan => none
  | infinite negative => if negative then none else some .opened
  | finite number =>
    if number = 0 then some .closed else if 0 < number then some .opened else none

namespace Offset

/-- What an offset stands for. -/
def value (offset : Offset) : Value :=
  if offset.isNaN then
    .nan
  else if offset.isFinite then
    let number := offset.toDyadic.toRat
    .finite (if offset.isNegative then -number else number)
  else
    .infinite offset.isNegative

theorem toRat_nonneg (value : Binary.Dyadic) : 0 ≤ value.toRat := by
  have power_pos : (0 : ℚ) < 2 ^ value.exponent := zpow_pos two_pos value.exponent
  exact mul_nonneg (Nat.cast_nonneg _) power_pos.le

section

variable (offset : Offset)

theorem isZero_iff : offset.isZero = true ↔ offset.magnitude = 0 := beq_iff_eq

/-- Only zero has no significand. -/
theorem toRat_toDyadic_eq_zero_iff : offset.toDyadic.toRat = 0 ↔ offset.isZero = true := by
  have power_ne : (2 : ℚ) ^ offset.toDyadic.exponent ≠ 0 := zpow_ne_zero _ two_ne_zero
  rw [Binary.Dyadic.toRat, mul_eq_zero_iff_right power_ne, Nat.cast_eq_zero, isZero_iff]
  unfold toDyadic fractionSize
  dsimp only
  split
  · dsimp only
    omega
  · dsimp only
    omega

theorem isZero_of_nan (nan : offset.isNaN = true) : offset.isZero = false := by
  have beyond : infinityBits < offset.magnitude := of_decide_eq_true nan
  rw [← Bool.not_eq_true, isZero_iff]
  exact Nat.ne_of_gt (Nat.zero_lt_of_lt beyond)

theorem isZero_of_not_finite (infinite : ¬ offset.isFinite = true) : offset.isZero = false := by
  have beyond : ¬ offset.magnitude < infinityBits := mt decide_eq_true infinite
  rw [← Bool.not_eq_true, isZero_iff]
  unfold infinityBits at beyond
  omega

/-- What is above zero is a number without the sign bit, infinity included, but not zero. -/
theorem isPositive_eq :
    offset.isPositive = (!offset.isNegative && !offset.isZero && !offset.isNaN) := by
  have bound : offset.bits.toNat < 0x100000000 := offset.bits.toNat_lt
  rw [Bool.eq_iff_iff, isPositive, isNegative, isZero, isNaN]
  simp only [Bool.and_eq_true, Bool.not_eq_true', decide_eq_true_eq, decide_eq_false_iff_not,
    beq_eq_false_iff_ne]
  unfold magnitude signBit infinityBits
  omega

end

theorem edge?_finite {number : ℚ} (nonneg : 0 ≤ number) (negative : Bool) :
    (Value.finite (if negative then -number else number)).edge? =
      if number = 0 then some .closed else if negative then none else some .opened := by
  by_cases zero : number = 0
  · cases negative <;> simp [Value.edge?, zero]
  · have positive : 0 < number := lt_of_le_of_ne nonneg (Ne.symm zero)
    cases negative with
    | false => simp [Value.edge?, zero, positive]
    | true => simp [Value.edge?, zero, nonneg.not_gt]

/-- The drawer tells from the bits of a sample which edge it lies at. -/
theorem edge?_value (offset : Offset) :
    offset.value.edge? =
      if offset.isZero then some .closed else if offset.isPositive then some .opened else none := by
  rw [value, isPositive_eq]
  by_cases nan : offset.isNaN = true
  · rw [if_pos nan, isZero_of_nan offset nan, nan, Bool.not_true, Bool.and_false]
    rfl
  · rw [if_neg nan, Bool.eq_false_of_not_eq_true nan, Bool.not_false, Bool.and_true]
    by_cases finite : offset.isFinite = true
    · rw [if_pos finite, edge?_finite (toRat_nonneg _)]
      simp only [toRat_toDyadic_eq_zero_iff]
      cases zero : offset.isZero <;> cases offset.isNegative <;> rfl
    · rw [if_neg finite, isZero_of_not_finite offset finite]
      cases offset.isNegative <;> rfl

/-- Minus zero is zero, and infinity is above it, but not with a minus. -/
example :
    [⟨0x80000000⟩, infinity, negativeInfinity, nan].map (·.value.edge?) =
      [some .closed, some .opened, none, none] := by cbv

end Offset

end Drawer

end Panes
