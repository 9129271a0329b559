import Panes.Binary.Shortest
import Panes.Drawer.Offset
import Panes.Wire.Field

/-!
# Written drawer offsets

An offset is written with the fewest digits that give it back, and as `null` when it is no finite
number. Any number can be read: it is rounded to the nearest offset, decimals by way of a double,
and one that is too great becomes infinite.
-/

namespace Panes.Drawer.Offset

open Wire

/-- The bits of the fraction. -/
def fractionSize : Nat := 0x800000

/-- The offset with a sign and a magnitude, which is infinite when none is given. -/
def ofDyadic (negative : Bool) (value : Option Binary.Dyadic) : Offset :=
  let magnitude :=
    match value with
    | some value =>
      value.significand
        + (value.exponent - Binary.Format.single.leastExponent).toNat * fractionSize
    | none => infinityBits
  ⟨(if negative then signBit + magnitude else magnitude).toUInt32⟩

/-- The magnitude of a finite offset. -/
def toDyadic (offset : Offset) : Binary.Dyadic :=
  let field := offset.magnitude / fractionSize
  let fraction := offset.magnitude % fractionSize
  if field = 0 then
    ⟨fraction, Binary.Format.single.leastExponent⟩
  else
    ⟨fraction + fractionSize, Binary.Format.single.leastExponent + (field - 1 : Nat)⟩

/-- The sign bit is set. -/
def isNegative (offset : Offset) : Bool := signBit ≤ offset.bits.toNat

/-- The offset is a finite number. -/
def isFinite (offset : Offset) : Bool := offset.magnitude < infinityBits

/-- The offset nearest to a number. -/
def ofNumber : Json.Number → Offset
  | .int value => ofDyadic (value < 0) (Binary.Format.single.round ⟨value.natAbs, 1⟩)
  | .decimal value =>
    ofDyadic value.negative <|
      value.double?.bind fun double => Binary.Format.single.round double.quotient

/-- An offset as a value. -/
def toJson (offset : Offset) : Json :=
  if offset.isFinite then
    let scientific := Binary.Format.single.shortest offset.toDyadic
    .number (.decimal ⟨offset.isNegative, scientific.digits, scientific.exponent⟩)
  else
    .null

/-- The offset that a value denotes. -/
def ofJson? : Json → Option Offset
  | .number number => some (ofNumber number)
  | _ => none

end Panes.Drawer.Offset
