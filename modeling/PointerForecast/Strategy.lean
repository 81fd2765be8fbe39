/-
**Prediction strategies.**

A strategy is what the two ways to predict differ in. It keeps a memory of the current stroke, knows
from it which sample was accepted last, says how far it would predict, and walks that far. Everything
else (which samples are accepted, the report rate, the target, the padding) is the same for both and
belongs to `PointerForecast.Session`.
-/

import PointerForecast.Projection

namespace PointerForecast

/-- What a strategy makes of a memory: the samples ahead, and the point that is stored for later. -/
structure Forecast (α : Type) where
  /-- The samples, nearest first. -/
  samples : List (Coords α)
  /-- The furthest point predicted, if there is one. -/
  furthest : Option (Coords α)
deriving DecidableEq

/-- A way to predict from a memory `M` of the current stroke. Where a time is meant, it is in
milliseconds. -/
structure Strategy (α M : Type) where
  /-- The memory at the start of a stroke. -/
  blank : M
  /-- The memory after one more accepted sample. -/
  absorb : M → Moment α → M
  /-- The sample that was accepted last, if there is one. -/
  last : M → Option (Moment α)
  /-- Holds of a memory that is rich enough to predict from when the rate is an estimate. -/
  isReady : M → Bool
  /-- How many samples to walk for a target at a rate. -/
  horizon : M → (target rate : α) → Nat
  /-- Walks a number of samples at a rate, when an earlier walk has stored a point. -/
  walk : M → (stored : Option (Coords α)) → (rate : α) → (steps : Nat) → Forecast α
  /-- The pressure of a pointer that stays where it is. -/
  restPressure : M → α
  /-- Nothing is accepted at the start of a stroke. -/
  last_blank : last blank = none
  /-- A memory never forgets the sample that it took in last. -/
  last_absorb (memory : M) (moment : Moment α) : last (absorb memory moment) = some moment

variable {α : Type} [Scalar α]

/-- The position of the sample that was accepted last, or the origin. -/
def lastPosition (last : Option (Moment α)) : Planar α :=
  match last with
  | some moment => ⟨moment.coords.x, moment.coords.y⟩
  | none => 0

/-- The sample at a position, with the pressure cut off outside `[0, 1]`. -/
def boundedSample (position : Planar α) (pressure : α) : Coords α :=
  ⟨Scalar.single position.x, Scalar.single position.y, Scalar.single (Scalar.clamp pressure 0 1)⟩

end PointerForecast
