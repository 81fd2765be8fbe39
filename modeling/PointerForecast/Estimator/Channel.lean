/-
**A recursive estimate of `n` states of which the first is observed.**

The filter of one channel. With the transition `F`, the process noise `Q`, the measurement noise
`r` and the observation row `H = [1, 0, …, 0]`, an estimate of state `x` and covariance `P`

* is propagated to `x := F x`, `P := F P Fᵀ + Q` (`Channel.propagate`),
* is corrected by a measurement `z` with the innovation `y = z - H x`, its variance
  `s = H P Hᵀ + r` and the gain `K = P Hᵀ / s`, to `x := x + K y`, `P := (I - K H) P`
  (`Channel.correct`).

The measurement is a scalar, so the gain is a division and no matrix is inverted.
-/

import PointerForecast.Mat

namespace PointerForecast

/-- How the states of a channel evolve and how they are observed. -/
structure ChannelModel (α : Type) (n : Nat) where
  /-- The states one sample later, from the states now. -/
  transition : Mat α n n
  /-- The covariance that one sample of the model adds. -/
  processNoise : Mat α n n
  /-- The variance of one measurement. -/
  measurementNoise : α

/-- An estimate of the states of a channel. -/
@[ext]
structure Channel (α : Type) (n : Nat) where
  /-- The estimated states. -/
  state : Mat α n 1
  /-- Their covariance. -/
  covariance : Mat α n n
deriving DecidableEq

namespace Channel

variable {α : Type} [Scalar α] {n : Nat}

/-- The row that observes the first state. -/
def observation : Mat α 1 n := .ofFn fun _ j => if j.val = 0 then 1 else 0

/-- Nothing known: zero states with unit covariance. -/
def blank : Channel α n := ⟨0, 1⟩

/-- Places the observed state at a measurement and leaves all else. -/
def seed (channel : Channel α n) (measurement : α) : Channel α n :=
  { channel with
    state := .ofFn fun i j => if i.val = 0 then measurement else channel.state i j }

/-- One sample of the model. -/
def propagate (model : ChannelModel α n) (channel : Channel α n) : Channel α n where
  state := model.transition * channel.state
  covariance :=
    model.transition * channel.covariance * model.transition.transpose + model.processNoise

/-- One of the estimated states. -/
def component (channel : Channel α n) (i : Fin n) : α := channel.state i 0

/-- The observed part of the states. -/
def observed (channel : Channel α n) : α :=
  let seen : Mat α 1 1 := (observation : Mat α 1 n) * channel.state
  seen 0 0

/-- The variance of the innovation. -/
def innovationVariance (model : ChannelModel α n) (channel : Channel α n) : α :=
  let row : Mat α 1 n := observation
  let spread : Mat α 1 1 := row * channel.covariance * row.transpose
  spread 0 0 + model.measurementNoise

/-- How far each state follows the innovation. -/
def gain (model : ChannelModel α n) (channel : Channel α n) : Mat α n 1 :=
  let row : Mat α 1 n := observation
  channel.covariance * row.transpose / channel.innovationVariance model

/-- Takes one measurement of the first state into account. -/
def correct (model : ChannelModel α n) (channel : Channel α n) (measurement : α) :
    Channel α n :=
  let row : Mat α 1 n := observation
  let gain := channel.gain model
  { state := channel.state + gain * (measurement - channel.observed)
    covariance := (1 - gain * row) * channel.covariance }

/-- One sample of the model and the measurement at its end. -/
def follow (model : ChannelModel α n) (channel : Channel α n) (measurement : α) : Channel α n :=
  (channel.propagate model).correct model measurement

end Channel

/-- The model driven by a noisy unit force whose impact on the states is `impact`: the process noise
is the outer square of the impact, scaled. -/
def ChannelModel.ofImpact {α : Type} [Scalar α] {n : Nat} (transition : Mat α n n)
    (impact : Mat α n 1) (processNoise measurementNoise : α) : ChannelModel α n where
  transition := transition
  processNoise := impact * impact.transpose * processNoise
  measurementNoise := measurementNoise

end PointerForecast
