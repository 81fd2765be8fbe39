/-
**The fewest decimal digits that read back.**

A floating-point value `m · 2^q` is what every real number of an interval around it rounds to; the
ends belong to the interval if `m` is even. `shortest` finds the coarsest decimal grid with a point
in that interval. If a grid has one, one of the value's two neighbours on the grid is one, so only
these two are tried; of two hits the nearer is taken, and a tie goes as told.

All arithmetic is exact, in natural numbers.
-/

import PointerForecast.Scalar.Double

namespace PointerForecast

/-- A layout of floating-point bits: a sign, a biased exponent and a fraction. -/
structure BinaryFormat where
  /-- How many bits the fraction has. -/
  fractionBits : Nat
  /-- How many bits the exponent has. -/
  exponentBits : Nat

namespace BinaryFormat

/-- Double precision. -/
def double : BinaryFormat := ⟨52, 11⟩

/-- Single precision. -/
def single : BinaryFormat := ⟨23, 8⟩

/-- The exponent of the least positive value. -/
def leastExponent (format : BinaryFormat) : Int :=
  2 - Nat.pow 2 (format.exponentBits - 1) - format.fractionBits

end BinaryFormat

/-- The size of a finite value: `significand · 2 ^ exponent`. -/
structure BinarySize where
  /-- The significand. -/
  significand : Nat
  /-- The exponent. -/
  exponent : Int
  /-- Holds if the next value below is only half as far away as the next one above. -/
  narrowBelow : Bool
deriving DecidableEq, Repr

/-- What floating-point bits denote. -/
inductive BinaryValue where
  /-- No number. -/
  | nan
  /-- An infinity. -/
  | infinite (negative : Bool)
  /-- A finite number. -/
  | finite (negative : Bool) (size : BinarySize)
deriving DecidableEq, Repr

namespace BinaryValue

/-- The value that some bits denote. -/
def ofBits (format : BinaryFormat) (bits : Nat) : BinaryValue :=
  let fraction := bits % Nat.pow 2 format.fractionBits
  let biased := bits / Nat.pow 2 format.fractionBits % Nat.pow 2 format.exponentBits
  let negative := Nat.pow 2 (format.fractionBits + format.exponentBits) ≤ bits
  if biased = Nat.pow 2 format.exponentBits - 1 then
    if fraction = 0 then .infinite negative else .nan
  else if biased = 0 then .finite negative ⟨fraction, format.leastExponent, false⟩
  else
    .finite negative
      ⟨Nat.pow 2 format.fractionBits + fraction, format.leastExponent + (biased - 1 : Nat),
        fraction = 0 && 1 < biased⟩

/-- A value in double precision. -/
def ofDouble (value : Float) : BinaryValue := ofBits .double value.toBits.toNat

/-- The nearest value in single precision. -/
def ofSingle (value : Float) : BinaryValue := ofBits .single (nearestSingle value).toBits.toNat

end BinaryValue

/-- A number `digits · 10 ^ exponent`. -/
structure Decimal where
  /-- The significant digits. -/
  digits : Nat
  /-- The exponent of the last digit. -/
  exponent : Int
deriving DecidableEq, Repr

/-- Which of two equally near decimals is taken. -/
inductive TieRule where
  /-- The larger one. -/
  | up
  /-- The one with the even last digit. -/
  | even
deriving DecidableEq, Repr

namespace Decimal

/-- A value, the ends of its interval and the step of a grid, as multiples of a common unit. -/
structure Placement where
  /-- The lower end. -/
  low : Nat
  /-- The value. -/
  value : Nat
  /-- The upper end. -/
  high : Nat
  /-- Holds if the ends belong to the interval. -/
  closed : Bool
  /-- The step of the grid. -/
  step : Nat

/-- A power with an exponent of either sign, as a numerator and a denominator. -/
def powerRatio (base : Nat) (exponent : Int) : Nat × Nat :=
  (Nat.pow base exponent.toNat, Nat.pow base (-exponent).toNat)

/-- Places a size on the grid of multiples of `10 ^ grid`. A quarter of the value's last place is
the unit, so that the ends of the interval are whole multiples too. -/
def Placement.of (size : BinarySize) (grid : Int) : Placement :=
  let (upTwo, downTwo) := powerRatio 2 (size.exponent - 2)
  let (upTen, downTen) := powerRatio 10 grid
  let unit := upTwo * downTen
  let quarters := 4 * size.significand
  { low := (quarters - if size.narrowBelow then 1 else 2) * unit
    value := quarters * unit
    high := (quarters + 2) * unit
    closed := size.significand % 2 = 0
    step := upTen * downTwo }

namespace Placement

/-- Holds of the multiples of the step that lie in the interval. -/
def holds (placement : Placement) (multiple : Nat) : Bool :=
  let point := multiple * placement.step
  if placement.closed then placement.low ≤ point && point ≤ placement.high
  else placement.low < point && point < placement.high

/-- The multiple of the step in the interval that is nearest to the value. -/
def nearest? (rule : TieRule) (placement : Placement) : Option Nat :=
  let below := placement.value / placement.step
  let above := below + 1
  match placement.holds below, placement.holds above with
  | false, false => none
  | true, false => some below
  | false, true => some above
  | true, true =>
    let gapBelow := placement.value - below * placement.step
    let gapAbove := above * placement.step - placement.value
    if gapBelow < gapAbove then some below
    else if gapAbove < gapBelow then some above
    else match rule with
      | .up => some above
      | .even => some (if below % 2 = 0 then below else above)

end Placement

/-- Tries ever finer grids. -/
def refine (rule : TieRule) (size : BinarySize) : Nat → Int → Decimal
  | 0, grid =>
    let placement := Placement.of size grid
    ⟨placement.value / placement.step, grid⟩
  | fuel + 1, grid =>
    match (Placement.of size grid).nearest? rule with
    | some digits => ⟨digits, grid⟩
    | none => refine rule size fuel (grid - 1)

/-- The exponent of a power of ten above a size: three tenths of the binary exponent and a little
more. -/
def gridAbove (size : BinarySize) : Int :=
  (size.significand.log2 + 1 + size.exponent) * 30103 / 100000 + 2

/-- How many grids are tried: seventeen digits always read back. -/
def gridCount : Nat := 24

/-- The decimal with the fewest digits that reads back as the size, and the nearest one of those. -/
def shortest (rule : TieRule) (size : BinarySize) : Decimal :=
  if size.significand = 0 then ⟨0, 0⟩ else refine rule size gridCount (gridAbove size)

end Decimal

end PointerForecast
