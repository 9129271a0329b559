/-!
# Binary rounding

Binary floating numbers without sign are a significand times a power of two. `Format.round` takes a
quotient of natural numbers to the nearest number of a format, and a tie to the even significand.
-/

namespace Panes.Binary

/-- A floating format. -/
structure Format where
  /-- Significands have at most this many bits. -/
  precision : Nat
  /-- The exponent of the least positive number. -/
  leastExponent : Int
  /-- The exponent of the greatest number. -/
  greatestExponent : Int
  deriving DecidableEq, Repr

/-- Single precision. -/
def Format.single : Format := ⟨24, -149, 104⟩

/-- Double precision. -/
def Format.double : Format := ⟨53, -1074, 971⟩

/-- The number `significand · 2 ^ exponent`. -/
structure Dyadic where
  /-- The significand. -/
  significand : Nat
  /-- The exponent of two. -/
  exponent : Int
  deriving DecidableEq, Repr

/-- A number as a quotient of natural numbers. -/
structure Quotient where
  /-- What is divided. -/
  numerator : Nat
  /-- What it is divided by. -/
  denominator : Nat
  deriving DecidableEq, Repr

namespace Quotient

/-- The quotient times a power of two. -/
def scale (quotient : Quotient) (exponent : Int) : Quotient :=
  ⟨quotient.numerator * Nat.pow 2 exponent.toNat,
    quotient.denominator * Nat.pow 2 (-exponent).toNat⟩

/-- The nearest integer, and the even one of two that are equally near. -/
def roundHalfEven (quotient : Quotient) : Nat :=
  let whole := quotient.numerator / quotient.denominator
  let twice := 2 * (quotient.numerator % quotient.denominator)
  if quotient.denominator < twice ∨ (twice = quotient.denominator ∧ whole % 2 = 1) then
    whole + 1
  else
    whole

end Quotient

namespace Dyadic

/-- The number as a quotient. -/
def quotient (value : Dyadic) : Quotient := (Quotient.mk value.significand 1).scale value.exponent

end Dyadic

namespace Format

/-- The exponent at which a quotient has a significand of full precision, unless that is below the
least exponent. Zero has the least exponent. -/
def exponentFor (format : Format) (quotient : Quotient) : Int :=
  if quotient.numerator = 0 then format.leastExponent else
  let estimate : Int :=
    (quotient.numerator.log2 : Int) - quotient.denominator.log2 - format.precision
  let scaled := quotient.scale (-(estimate + format.precision))
  let exponent := if scaled.denominator ≤ scaled.numerator then estimate + 1 else estimate
  max format.leastExponent exponent

/-- The number of the format that is nearest to a quotient, or `none` when it is too great. -/
def round (format : Format) (quotient : Quotient) : Option Dyadic :=
  let exponent := format.exponentFor quotient
  let significand := (quotient.scale (-exponent)).roundHalfEven
  let rounded : Dyadic :=
    if significand = Nat.pow 2 format.precision then
      ⟨Nat.pow 2 (format.precision - 1), exponent + 1⟩
    else
      ⟨significand, exponent⟩
  if format.greatestExponent < rounded.exponent then none else some rounded

end Format

/-- The product of two doubles, rounded. -/
def multiply (left right : Dyadic) : Option Dyadic :=
  Format.double.round
    ((Quotient.mk (left.significand * right.significand) 1).scale (left.exponent + right.exponent))

/-- The quotient of two doubles, rounded. -/
def divide (left right : Dyadic) : Option Dyadic :=
  Format.double.round
    ((Quotient.mk left.significand right.significand).scale (left.exponent - right.exponent))

end Panes.Binary
