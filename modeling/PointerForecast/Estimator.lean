/-
**The kinematic state of one pointer.**

Each axis runs a filter over position, velocity, acceleration and jank (the rate of change of the
acceleration), pressure one over pressure and its change, with a time step of one sample:

    p' = p + v + a/2 + j/6        v' = v + a + j/2        a' = a + j        j' = j

The noise is a noisy force on the pointer. A small process noise favours smooth estimates that lag;
the measurement noise is the variance of an observed coordinate. The first sample places the
position and the pressure; every later one is followed by the filters.
-/

import PointerForecast.Estimator.Channel
import PointerForecast.Event
import PointerForecast.Planar

namespace PointerForecast

/-- The tuning of the filters. -/
structure Noise (α : Type) where
  /-- How noisy the force on the pointer is. -/
  process : α
  /-- The variance of an observed coordinate. -/
  measurement : α
deriving DecidableEq

/-- Position, pressure and their rates of change per sample. -/
@[ext]
structure Kinematics (α : Type) where
  /-- The position. -/
  position : Planar α
  /-- The change of the position per sample. -/
  velocity : Planar α
  /-- The change of the velocity per sample. -/
  acceleration : Planar α
  /-- The change of the acceleration per sample. -/
  jank : Planar α
  /-- The pressure. -/
  pressure : α
  /-- The change of the pressure per sample. -/
  pressureChange : α
deriving DecidableEq

/-- The filters of one pointer. -/
@[ext]
structure Estimator (α : Type) where
  /-- The filter of the horizontal axis. -/
  x : Channel α 4
  /-- The filter of the vertical axis. -/
  y : Channel α 4
  /-- The filter of the pressure. -/
  pressure : Channel α 2
  /-- How many samples were taken into account. -/
  count : Nat
deriving DecidableEq

variable {α : Type} [Scalar α]

/-- The tuning for ink: quick to follow a turn, and smooth on a line. -/
def Noise.ink : Noise α := ⟨0.01, 1.0⟩

/-- The model of one axis. -/
def axisModel (noise : Noise α) : ChannelModel α 4 :=
  let half : α := 0.5
  let sixth : α := 1.0 / 6.0
  .ofImpact
    ⟨#v[#v[1, 1, half, sixth],
        #v[0, 1, 1, half],
        #v[0, 0, 1, 1],
        #v[0, 0, 0, 1]]⟩
    ⟨#v[#v[sixth], #v[half], #v[1], #v[1]]⟩
    noise.process noise.measurement

/-- The model of the pressure. -/
def pressureModel (noise : Noise α) : ChannelModel α 2 :=
  .ofImpact ⟨#v[#v[1, 1], #v[0, 1]]⟩ ⟨#v[#v[0.5], #v[1]]⟩ noise.process noise.measurement

namespace Estimator

/-- How many samples the derivatives need before they can be trusted. -/
def warmUp : Nat := 4

/-- No sample taken into account. -/
def blank : Estimator α := ⟨.blank, .blank, .blank, 0⟩

/-- Takes one sample into account. -/
def absorb (noise : Noise α) (estimator : Estimator α) (sample : Coords α) : Estimator α :=
  if estimator.count = 0 then
    { x := estimator.x.seed sample.x
      y := estimator.y.seed sample.y
      pressure := estimator.pressure.seed sample.pressure
      count := 1 }
  else
    let axis := axisModel noise
    { x := estimator.x.follow axis sample.x
      y := estimator.y.follow axis sample.y
      pressure := estimator.pressure.follow (pressureModel noise) sample.pressure
      count := estimator.count + 1 }

/-- Holds once the derivatives can be trusted. -/
def isConverged (estimator : Estimator α) : Bool := warmUp ≤ estimator.count

/-- The estimated state of the pointer. -/
def kinematics (estimator : Estimator α) : Kinematics α where
  position := ⟨estimator.x.component 0, estimator.y.component 0⟩
  velocity := ⟨estimator.x.component 1, estimator.y.component 1⟩
  acceleration := ⟨estimator.x.component 2, estimator.y.component 2⟩
  jank := ⟨estimator.x.component 3, estimator.y.component 3⟩
  pressure := estimator.pressure.component 0
  pressureChange := estimator.pressure.component 1

end Estimator

end PointerForecast
