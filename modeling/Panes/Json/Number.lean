import Panes.Binary.Round

/-!
# Numbers in JSON

A number without fraction and exponent that fits 64 bits, signed or unsigned, is an integer. Any
other number is a decimal: at most 64 bits of digits and a power of ten. Minus zero is a decimal. A
decimal stands for a double, and one whose double would be infinite is refused.
-/

namespace Panes.Json

/-- The number `± digits · 10 ^ exponent`. -/
structure Decimal where
  /-- The number has a minus sign. -/
  negative : Bool
  /-- The digits, read as a natural number. -/
  digits : Nat
  /-- The exponent of ten. -/
  exponent : Int
  deriving DecidableEq, Repr

/-- A number. -/
inductive Number
  /-- An integer. -/
  | int (value : Int)
  /-- A number with a fraction or an exponent, or one that is too great for an integer. -/
  | decimal (value : Decimal)
  deriving DecidableEq, Repr

/-- The greatest natural number of 64 bits. -/
def maxUnsigned : Nat := 0xffffffffffffffff

/-- The magnitude of the least integer of 64 bits. -/
def maxMagnitude : Nat := 0x8000000000000000

/-- The greatest power of ten that is a double. -/
def maxPower : Nat := 308

/-- A power of ten as a double. -/
def powerOfTen (exponent : Nat) : Binary.Dyadic :=
  (Binary.Format.double.round ⟨Nat.pow 10 exponent, 1⟩).getD ⟨0, 0⟩

/-- A double times a power of ten, by steps that are each rounded. -/
def scaleByTen (value : Binary.Dyadic) (exponent : Int) : Option Binary.Dyadic :=
  if exponent.natAbs ≤ maxPower then
    if 0 ≤ exponent then
      Binary.multiply value (powerOfTen exponent.natAbs)
    else
      Binary.divide value (powerOfTen exponent.natAbs)
  else if value.significand = 0 then
    some value
  else if 0 ≤ exponent then
    none
  else
    match Binary.divide value (powerOfTen maxPower) with
    | some smaller => scaleByTen smaller (exponent + maxPower)
    | none => none
termination_by exponent.natAbs
decreasing_by simp [maxPower] at *; omega

namespace Decimal

/-- The double that a decimal stands for, without its sign, unless it would be infinite. -/
def double? (decimal : Decimal) : Option Binary.Dyadic := do
  let digits ← Binary.Format.double.round ⟨decimal.digits, 1⟩
  scaleByTen digits decimal.exponent

end Decimal

/-- A number as it stands in a text, cut into its parts. -/
structure Numeral where
  /-- There is a minus sign. -/
  negative : Bool
  /-- The digits before the point. -/
  whole : List Nat
  /-- The digits after the point, if there is one. -/
  fraction : Option (List Nat)
  /-- Sign and digits of the exponent, if there is one; `true` means minus. -/
  exponent : Option (Bool × List Nat)
  deriving DecidableEq, Repr

/-- The natural number that digits write. -/
def ofDigits (digits : List Nat) : Nat := digits.foldl (fun number digit => number * 10 + digit) 0

/-- Take digits before the point until they pass 64 bits, and count the digits left over. -/
def takeWhole : Nat → List Nat → Nat × Nat
  | number, [] => (number, 0)
  | number, digit :: digits =>
    if number * 10 + digit ≤ maxUnsigned then
      takeWhole (number * 10 + digit) digits
    else
      (number, digits.length + 1)

/-- Take digits after the point until they pass 64 bits, and count the digits taken. -/
def takeFraction : Nat → List Nat → Nat × Nat
  | number, [] => (number, 0)
  | number, digit :: digits =>
    if number * 10 + digit ≤ maxUnsigned then
      let (taken, count) := takeFraction (number * 10 + digit) digits
      (taken, count + 1)
    else
      (number, 0)

namespace Numeral

/-- The decimal that a numeral writes. -/
def decimal (numeral : Numeral) : Decimal :=
  let (whole, left) := takeWhole 0 numeral.whole
  let (digits, taken) := takeFraction whole (numeral.fraction.getD [])
  let power : Int :=
    match numeral.exponent with
    | some (true, digits) => -(ofDigits digits : Int)
    | some (false, digits) => ofDigits digits
    | none => 0
  ⟨numeral.negative, digits, power + left - taken⟩

/-- The integer that a numeral writes, if it writes one. -/
def integer? (numeral : Numeral) : Option Int :=
  let value := ofDigits numeral.whole
  if numeral.fraction.isSome ∨ numeral.exponent.isSome then none
  else if numeral.negative then
    if 0 < value ∧ value ≤ maxMagnitude then some (-(value : Int)) else none
  else
    if value ≤ maxUnsigned then some value else none

/-- The number that a numeral writes, unless it is too great. -/
def number? (numeral : Numeral) : Option Number :=
  match numeral.integer? with
  | some value => some (.int value)
  | none => if numeral.decimal.double?.isSome then some (.decimal numeral.decimal) else none

end Numeral

end Panes.Json
