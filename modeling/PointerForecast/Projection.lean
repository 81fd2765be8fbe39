/-
**How far to predict, and the walk that predicts.**

A slow pointer gains little from a prediction, and an erratic one is predicted badly: `confidence`
scales the horizon down for both. `project` then walks the kinematic state forward, a fixed share of
each rate of change per sample, until the horizon is reached or the pressure falls so low that the
pointer is about to lift.
-/

import PointerForecast.Estimator

namespace PointerForecast

variable {α : Type} [Scalar α]

/-- Maps `[low, high]` linearly onto `[0, 1]`, cut off outside. -/
def normalize (a low high : α) : α :=
  Scalar.min (Scalar.max ((a - low) / (high - low)) 0) 1

/-- The speed, in units per millisecond, at or below which nothing is predicted. -/
def lowSpeed : α := 0.0

/-- The speed, in units per millisecond, from which the whole horizon is used. -/
def highSpeed : α := 2.0

/-- The jank up to which the whole horizon is used. -/
def lowJank : α := 0.02

/-- The jank from which nothing is predicted. -/
def highJank : α := 0.2

/-- The share of the horizon that a speed and a jank allow. -/
def confidence (speed jank : α) : α :=
  normalize speed lowSpeed highSpeed * (1 - normalize jank lowJank highJank)

/-- The number of samples that reach a target, scaled by a confidence and rounded up. -/
def horizon (target rate confidence : α) : Nat := Scalar.ceilNat (target / rate * confidence)

/-- The share of the jank that one sample adds to the acceleration. -/
def jankInfluence : α := 0.1

/-- The share of the acceleration that one sample adds to the velocity. -/
def accelerationInfluence : α := 0.5

/-- The share of the velocity that one sample adds to the position. -/
def velocityInfluence : α := 1.0

/-- The pressure below which the pointer is about to lift. -/
def liftOffPressure : α := 0.1

namespace Kinematics

/-- The state one sample later. -/
def advance (start : Kinematics α) : Kinematics α :=
  let acceleration := start.acceleration + start.jank * (jankInfluence : α)
  let velocity := start.velocity + acceleration * (accelerationInfluence : α)
  { start with
    acceleration := acceleration
    velocity := velocity
    position := start.position + velocity * (velocityInfluence : α)
    pressure := start.pressure + start.pressureChange }

/-- The state with its pressure cut off at full pressure. -/
def capPressure (state : Kinematics α) : Kinematics α :=
  { state with pressure := Scalar.min state.pressure 1 }

/-- The sample at the position of a state. -/
def sample (state : Kinematics α) : Coords α :=
  ⟨Scalar.single state.position.x, Scalar.single state.position.y, Scalar.single state.pressure⟩

end Kinematics

/-- Where a walk led. -/
structure Projection (α : Type) where
  /-- The samples passed, nearest first. -/
  samples : List (Coords α)
  /-- The position of the last step. -/
  position : Planar α
  /-- The pressure of the last step, which may be that of a lift. -/
  pressure : α
  /-- Holds if the walk ended early because the pointer is about to lift. -/
  lifted : Bool
deriving DecidableEq

/-- Walks a state forward by a number of samples, or until the pointer is about to lift. -/
def project : Nat → Kinematics α → Projection α
  | 0, state => ⟨[], state.position, state.pressure, false⟩
  | steps + 1, state =>
    let next := state.advance
    if next.pressure < liftOffPressure then ⟨[], next.position, next.pressure, true⟩
    else
      let passed := next.capPressure
      let rest := project steps passed
      { rest with samples := passed.sample :: rest.samples }

end PointerForecast
