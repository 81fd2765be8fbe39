/-
**Numbers in JSON.**

The grammar of a number, and the value that is read from it.

* `JsonNumeral.ofChars?` — **the grammar**: no leading zero, and digits around a point and after an
  exponent mark.
* `JsonNumeral.value?` — **the value**: an integer if it is written as one and fits a 64-bit word,
  else a double computed as significand times or over a power of ten. The significand keeps the
  leading digits that fit 64 bits; what does not fit moves the exponent. The value is none if it is
  too large for a double.
-/

import PointerForecast.Digits
import PointerForecast.Scalar.Double

namespace PointerForecast

/-- A number as it is written. -/
structure JsonNumeral where
  /-- Holds if a minus sign stands in front. -/
  negative : Bool
  /-- The digits before the point. -/
  whole : List Nat
  /-- The digits after the point, if there is a point. -/
  fraction : Option (List Nat)
  /-- The exponent, if there is one: whether it is negative, and its digits. -/
  exponent : Option (Bool × List Nat)
deriving DecidableEq, Repr

/-- What is read from a number. -/
inductive JsonNumber where
  /-- An integer that fits a 64-bit word, signed or unsigned. -/
  | integer (value : Int)
  /-- Any other number. -/
  | real (value : Float)

namespace JsonNumeral

/-! ### Grammar -/

/-- Holds of the characters that occur in numbers. -/
def isNumeric (c : Char) : Bool :=
  c.isDigit || c == '-' || c == '+' || c == '.' || c == 'e' || c == 'E'

/-- The exponent that stands after its mark. -/
def exponent? (text : List Char) : Option (Bool × List Nat) :=
  let (negative, digits) := takeSign text
  (digits? 10 digits).map (negative, ·)

/-- The digits before the point: a zero stands alone. -/
def whole? (text : List Char) : Option (List Nat) :=
  (digits? 10 text).filter fun digits => digits.length == 1 || digits.head? != some 0

/-- The number that a text is, as a whole. -/
def ofChars? (text : List Char) : Option JsonNumeral := do
  let negative := text.head? == some '-'
  let unsigned := if negative then text.tail else text
  let isMark (c : Char) : Bool := c == 'e' || c == 'E'
  let mantissa := unsigned.takeWhile (!isMark ·)
  let exponent ← match unsigned.dropWhile (!isMark ·) with
    | _ :: mark => (exponent? mark).map some
    | [] => some none
  let whole ← whole? (mantissa.takeWhile (· != '.'))
  let fraction ← match mantissa.dropWhile (· != '.') with
    | _ :: digits => (digits? 10 digits).map some
    | [] => some none
  return ⟨negative, whole, fraction, exponent⟩

/-! ### Value -/

/-- A significand of 64 bits and the power of ten that belongs to it. -/
structure Scaled where
  /-- The leading digits. -/
  significand : Nat
  /-- The power of ten. -/
  exponent : Int

namespace Scaled

/-- The significand with one more digit, if it still fits. -/
def push? (significand digit : Nat) : Option Nat :=
  let next := significand * 10 + digit
  if next ≤ maxWord then some next else none

/-- Takes the digits before the point: from the first one that does not fit, each is worth a power
of ten. -/
def whole : Nat → List Nat → Scaled
  | significand, [] => ⟨significand, 0⟩
  | significand, digit :: rest =>
    match push? significand digit with
    | some next => whole next rest
    | none => ⟨significand, (digit :: rest).length⟩

/-- Takes the digits after the point: the first one that does not fit ends the significand. -/
def fraction : Scaled → List Nat → Scaled
  | scaled, [] => scaled
  | scaled, digit :: rest =>
    match push? scaled.significand digit with
    | some next => fraction ⟨next, scaled.exponent - 1⟩ rest
    | none => scaled

end Scaled

/-- The greatest power of ten in a double. -/
def maxPower : Nat := 308

/-- The power of ten, correctly rounded. -/
def powerOfTen (exponent : Nat) : Float := Float.ofScientific 1 false exponent

/-- A value over a power of ten that may be greater than the greatest one: that one is divided by as
often as needed. -/
def divide (value : Float) (exponent : Nat) : Float :=
  if exponent ≤ maxPower then value / powerOfTen exponent
  else if value == 0 then value
  else divide (value / powerOfTen maxPower) (exponent - maxPower)
termination_by exponent
decreasing_by simp only [maxPower] at *; omega

/-- The double that a significand and a power of ten denote, unless it is too large. -/
def Scaled.toFloat? (scaled : Scaled) : Option Float :=
  let value := Float.ofNat scaled.significand
  if scaled.exponent < 0 then some (divide value scaled.exponent.natAbs)
  else if scaled.exponent.toNat ≤ maxPower then
    (some (value * powerOfTen scaled.exponent.toNat)).filter fun product => !product.isInf
  else if scaled.significand = 0 then some value
  else none

/-- The largest exponent that can be written. -/
def maxExponent : Nat := Nat.pow 2 31 - 1

/-- A sum kept within the range of a 32-bit exponent. -/
def addExponent (a b : Int) : Int := (Int32.ofIntClamp (a + b)).toInt

/-- The size of a number that is not an integer, unless it is too large. -/
def size? (numeral : JsonNumeral) : Option Float :=
  let whole := Scaled.whole 0 numeral.whole
  let scaled := match numeral.fraction with
    | some digits => whole.fraction digits
    | none => whole
  match numeral.exponent with
  | none => scaled.toFloat?
  | some (negative, digits) =>
    let exponent := ofDigits 10 digits
    if maxExponent < exponent then
      if negative || scaled.significand = 0 then some 0 else none
    else
      { scaled with exponent := addExponent scaled.exponent (signed negative exponent) }.toFloat?

/-- What is read from a number, unless it is too large. A negative zero is not an integer. -/
def value? (numeral : JsonNumeral) : Option JsonNumber :=
  let size := ofDigits 10 numeral.whole
  let isInteger := numeral.fraction.isNone && numeral.exponent.isNone
  if isInteger && !numeral.negative && size ≤ maxWord then some (.integer size)
  else if isInteger && numeral.negative && 0 < size && size ≤ Nat.pow 2 63 then
    some (.integer (-size))
  else numeral.size?.map fun value => .real (if numeral.negative then -value else value)

end JsonNumeral

namespace JsonNumber

/-- The single-precision value of a number, held in double precision: an integer is rounded once. -/
def toSingle : JsonNumber → Float
  | integer value => singleOfInt value
  | real value => roundSingle value

/-- The integer that a number was read as, if it lies within some bounds. -/
def toInt? (low high : Int) : JsonNumber → Option Int
  | integer value => if low ≤ value ∧ value ≤ high then some value else none
  | real _ => none

end JsonNumber

end PointerForecast
