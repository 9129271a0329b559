import Panes.Binary.Round

/-!
# Shortest decimal digits

A positive binary number is written with the fewest decimal digits that round back to it. The reals
that round to it form an interval, which holds its ends iff the significand is even. Grids of
multiples of a power of ten are tried from coarse to fine: the first grid with a point in the
interval wins. If both neighbours of the number on that grid are inside, the nearer is taken, and
the even one of two that are equally near.
-/

namespace Panes.Binary

/-- A decimal number `digits · 10 ^ exponent`. -/
structure Scientific where
  /-- The digits, read as a natural number. -/
  digits : Nat
  /-- The exponent of ten. -/
  exponent : Int
  deriving DecidableEq, Repr

/-- The reals that round to a number, measured in quarters of its last place. -/
structure Basin where
  /-- The lower end. -/
  low : Nat
  /-- The number itself. -/
  centre : Nat
  /-- The upper end. -/
  high : Nat
  /-- The ends belong to the interval. -/
  closed : Bool
  deriving DecidableEq, Repr

/-- The interval of a number of a format. Below a power of two the numbers lie twice as close. -/
def Format.basin (format : Format) (value : Dyadic) : Basin where
  low :=
    if value.significand = Nat.pow 2 (format.precision - 1) ∧
        format.leastExponent < value.exponent then
      4 * value.significand - 1
    else
      4 * value.significand - 2
  centre := 4 * value.significand
  high := 4 * value.significand + 2
  closed := value.significand % 2 = 0

/-- The point `count · 10 ^ grid` lies in the interval. Both sides are multiplied by what makes
them integers: `step` for the grid, `quarter` for the quarters. -/
def Basin.holds (basin : Basin) (step quarter count : Nat) : Bool :=
  let point := count * step
  if basin.closed then
    basin.low * quarter ≤ point && point ≤ basin.high * quarter
  else
    basin.low * quarter < point && point < basin.high * quarter

/-- The best point of a grid, if any lies in the interval. -/
def Basin.pick? (basin : Basin) (step quarter : Nat) : Option Nat :=
  let centre := basin.centre * quarter
  let below := centre / step
  let above := below + 1
  match basin.holds step quarter below, basin.holds step quarter above with
  | true, true =>
    let down := centre - below * step
    let up := above * step - centre
    some (if down < up ∨ (down = up ∧ below % 2 = 0) then below else above)
  | true, false => some below
  | false, true => some above
  | false, false => none

/-- Try grids of ever smaller powers of ten. -/
def searchGrids (basin : Basin) (exponent : Int) : Nat → Int → Option Scientific
  | 0, _ => none
  | attempts + 1, grid =>
    let step := Nat.pow 10 grid.toNat * Nat.pow 2 (-exponent).toNat
    let quarter := Nat.pow 10 (-grid).toNat * Nat.pow 2 exponent.toNat
    match basin.pick? step quarter with
    | some count => some ⟨count, grid⟩
    | none => searchGrids basin exponent attempts (grid - 1)

/-- A power of ten above a number. -/
def gridAbove (value : Dyadic) : Int :=
  (((value.significand.log2 : Int) + 1 + value.exponent) * 30103).fdiv 100000 + 1

/-- The fewest digits that round to a number of a format. Zero is written with one digit. -/
def Format.shortest (format : Format) (value : Dyadic) : Scientific :=
  if value.significand = 0 then
    ⟨0, 0⟩
  else
    (searchGrids (format.basin value) (value.exponent - 2) 32 (gridAbove value)).getD ⟨0, 0⟩

end Panes.Binary
