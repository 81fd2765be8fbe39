/-
**How a decimal is written.**

A layout says which numbers are written with an exponent and whether a whole number gets a fraction.
Digits are never dropped and never invented beyond zeros that place the point.
-/

import PointerForecast.Decimal.Shortest

namespace PointerForecast

/-- The decisions of a number format. -/
structure NumberLayout where
  /-- Which of two equally near shortest decimals is written. -/
  tie : TieRule
  /-- The least and the greatest exponent of a leading digit that is written without an exponent;
  none if all are. -/
  positional : Option (Int × Int)
  /-- Whether a whole number ends in `.0`. -/
  keepsFraction : Bool

namespace NumberLayout

/-- Numbers in messages: never an exponent, and whole numbers without a fraction. -/
def message : NumberLayout := ⟨.up, none, false⟩

/-- Numbers of single precision in output records. -/
def recordSingle : NumberLayout := ⟨.even, some (-6, 12), true⟩

/-- Numbers of double precision in output records. -/
def recordDouble : NumberLayout := ⟨.even, some (-5, 15), true⟩

/-- The digits of a natural number. -/
def digitText (number : Nat) : List Char := Nat.toDigits 10 number

/-- A decimal without an exponent. -/
def fixed (layout : NumberLayout) (decimal : Decimal) : List Char :=
  let digits := digitText decimal.digits
  if 0 ≤ decimal.exponent then
    digits ++ List.replicate decimal.exponent.toNat '0'
      ++ (if layout.keepsFraction then ['.', '0'] else [])
  else
    let places := decimal.exponent.natAbs
    let padded := List.replicate (places + 1 - digits.length) '0' ++ digits
    let whole := padded.length - places
    padded.take whole ++ '.' :: padded.drop whole

/-- A decimal with one digit before the point and an exponent with its sign. -/
def scientific (decimal : Decimal) (leading : Int) : List Char :=
  let mantissa := match digitText decimal.digits with
    | first :: [] => [first]
    | first :: rest => first :: '.' :: rest
    | [] => []
  mantissa ++ 'e' :: (if leading < 0 then '-' else '+') :: digitText leading.natAbs

/-- A decimal as a layout writes it. -/
def write (layout : NumberLayout) (negative : Bool) (decimal : Decimal) : String :=
  let leading := decimal.exponent + (digitText decimal.digits).length - 1
  let isFixed := match layout.positional with
    | none => true
    | some (least, greatest) =>
      decimal.digits = 0 || (least ≤ leading && leading ≤ greatest)
  let size := if isFixed then layout.fixed decimal else scientific decimal leading
  String.ofList (if negative then '-' :: size else size)

/-- A finite value as a layout writes it, with the fewest digits that read back; none for a value
that is not finite. -/
def finite? (layout : NumberLayout) : BinaryValue → Option String
  | .finite negative size => some (layout.write negative (Decimal.shortest layout.tie size))
  | _ => none

end NumberLayout

/-- A number as messages show it. -/
def messageNumber (value : Float) : String :=
  match BinaryValue.ofDouble value with
  | .nan => "NaN"
  | .infinite negative => if negative then "-inf" else "inf"
  | .finite negative size =>
    NumberLayout.message.write negative (Decimal.shortest NumberLayout.message.tie size)

end PointerForecast
