/-
**The arithmetic of a forecast.**

Every definition between an observed sample and a predicted one is written over a scalar type `α`
with the operations of the class `Scalar`:

* `PointerForecast.Scalar.Double` makes it run, with `α` the double-precision numbers;
* exact arithmetic is another instance, in which `single` is the identity and nothing is ever
  `isNaN`.

The comparisons are those of IEEE 754: any comparison with a value that is not a number is false.
`max` and `min` therefore prefer the other operand to such a value, and `clamp` keeps it.
-/

namespace PointerForecast

/-- The operations that estimation and projection need of their numbers. -/
class Scalar (α : Type) extends
    Zero α, One α, Add α, Sub α, Mul α, Div α, LT α, BEq α, IntCast α, OfScientific α where
  /-- The order is decided. -/
  decideLT : DecidableLT α
  /-- The square root. -/
  sqrt : α → α
  /-- Holds of values that are not numbers, such as the quotient of two zeros. -/
  isNaN : α → Bool
  /-- Holds of values that are neither infinite nor `isNaN`. -/
  isFinite : α → Bool
  /-- The least natural number that is not below the argument: zero for what is negative or not a
  number, and never more than the largest 64-bit word. -/
  ceilNat : α → Nat
  /-- The nearest value of single precision, the precision of all coordinates. -/
  single : α → α

namespace Scalar

variable {α : Type} [Scalar α]

instance : DecidableLT α := decideLT

/-- The larger of two values; a value that is not a number gives way to the other one. -/
def max (a b : α) : α := if isNaN a || a < b then b else a

/-- The smaller of two values; a value that is not a number gives way to the other one. -/
def min (a b : α) : α := if isNaN a || b < a then b else a

/-- The value moved into `[low, high]`; what is not a number stays. -/
def clamp (a low high : α) : α := if a < low then low else if high < a then high else a

/-- The sum from left to right, starting with the first term; zero without terms. -/
def sum : List α → α
  | [] => 0
  | first :: rest => rest.foldl (· + ·) first

/-- The mean of the terms, summed from left to right; zero without terms. -/
def mean : List α → α
  | [] => 0
  | terms => sum terms / ((terms.length : Int) : α)

end Scalar

end PointerForecast
