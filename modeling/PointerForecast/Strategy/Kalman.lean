/-
**Prediction by the kinematic estimate.**

The memory is the estimator of the pointer, with the sample that was accepted last beside it. The
horizon is scaled by the confidence in the estimate, and the walk is `project`, from the accepted
position with the estimated rates of change. It is solid up to 25 ms ahead; where the display is slow,
errors show, and 20 ms is better.
-/

import PointerForecast.Strategy

namespace PointerForecast

/-- What is remembered of a stroke: the estimate, and the sample that was accepted last. -/
@[ext]
structure Tracker (α : Type) extends Estimator α where
  /-- The sample that was accepted last. -/
  last : Option (Moment α)
deriving DecidableEq

variable {α : Type} [Scalar α]

/-- The confidence in an estimate, when samples come at a rate. -/
def Estimator.confidence (estimator : Estimator α) (rate : α) : α :=
  let state := estimator.kinematics
  PointerForecast.confidence (state.velocity.norm / rate) state.jank.norm

namespace Tracker

/-- Nothing accepted yet. -/
def blank : Tracker α := ⟨.blank, none⟩

/-- The memory after one more accepted sample. -/
def absorb (noise : Noise α) (tracker : Tracker α) (moment : Moment α) : Tracker α :=
  ⟨tracker.toEstimator.absorb noise moment.coords, some moment⟩

/-- Walks on from the position accepted last, or from the origin. -/
def walk (tracker : Tracker α) (steps : Nat) : Forecast α :=
  let projection := project steps
    { tracker.kinematics with position := lastPosition tracker.last }
  { samples := projection.samples
    furthest := some (boundedSample projection.position projection.pressure) }

end Tracker

/-- The strategy that follows the kinematic estimate of the pointer. -/
def kalman (noise : Noise α) : Strategy α (Tracker α) where
  blank := .blank
  absorb := Tracker.absorb noise
  last := Tracker.last
  isReady tracker := tracker.isConverged
  horizon tracker target rate := horizon target rate (tracker.confidence rate)
  walk tracker _ _ steps := tracker.walk steps
  restPressure tracker := tracker.kinematics.pressure
  last_blank := rfl
  last_absorb _ _ := rfl

end PointerForecast
