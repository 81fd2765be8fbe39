/-
**Double precision.**

The instance `Scalar Float`, and the passage between double and single precision. A finite value is
a sign, a significand and an exponent, so either passage is one rounding of that triple to the
other format: to the nearest value, ties to the even significand, to infinity above the range.

* `nearestSingle`, `widenSingle` — **the two passages.** The second loses nothing.
* `roundSingle` — the nearest value of single precision, held in double precision.
* `ceilWord` — the ceiling as a natural number, saturating at the largest 64-bit word.
-/

import PointerForecast.Scalar

namespace PointerForecast

open Float.Model (Format UnpackedFloat)

/-- The nearest single-precision value, ties to even. -/
def nearestSingle (value : Float) : Float32 :=
  match value.toModel.unpack with
  | .finite sign significand exponent _ =>
    .ofModel (.pack (UnpackedFloat.round Format.binary32 sign significand exponent))
  | other => .ofModel (.pack other)

/-- The same value in double precision. -/
def widenSingle (value : Float32) : Float :=
  match value.toModel.unpack with
  | .finite sign significand exponent _ =>
    .ofModel (.pack (UnpackedFloat.round Format.binary64 sign significand exponent))
  | other => .ofModel (.pack other)

/-- The nearest single-precision value, held in double precision. -/
def roundSingle (value : Float) : Float := widenSingle (nearestSingle value)

/-- The nearest single-precision value to an integer, by one rounding. -/
def singleOfInt (value : Int) : Float := widenSingle (Float32.ofInt value)

/-- The largest natural number that a 64-bit word holds. -/
def maxWord : Nat := UInt64.size - 1

/-- The least natural number not below the value, saturating: the truncated value, or one more if
something was cut off. -/
def ceilWord (value : Float) : Nat :=
  let whole := value.toUInt64
  if whole.toFloat < value then Nat.min (whole.toNat + 1) maxWord else whole.toNat

instance : Scalar Float where
  zero := 0
  one := 1
  intCast := Float.ofInt
  decideLT := inferInstance
  sqrt := Float.sqrt
  isNaN := Float.isNaN
  isFinite := Float.isFinite
  ceilNat := ceilWord
  single := roundSingle

end PointerForecast
