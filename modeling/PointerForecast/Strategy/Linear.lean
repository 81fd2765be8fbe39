/-
**Prediction by extrapolation.**

The memory holds the latest samples of the stroke and exponentially smoothed derivatives, per
millisecond. The walk follows `v t + a t² / 2` from the accepted position, never further than a
fixed distance, and a pointer that is too slow is not predicted at all.
-/

import PointerForecast.Strategy

namespace PointerForecast

/-- The tuning of the extrapolation. -/
@[ext]
structure LinearTuning (α : Type) where
  /-- How many samples are remembered; fewer than `Motion.leastHistory` count as that many. -/
  historySize : Nat
  /-- The weight of the latest velocity in the smoothed one. -/
  velocitySmoothing : α
  /-- The weight of the latest acceleration in the smoothed one. -/
  accelerationSmoothing : α
  /-- The greatest distance of a prediction from the accepted position. -/
  maxDistance : α
  /-- The speed, in units per millisecond, below which nothing is predicted. -/
  minSpeed : α
deriving DecidableEq

/-- The latest samples of a stroke and the smoothed derivatives. -/
@[ext]
structure Motion (α : Type) where
  /-- The samples remembered, latest first. -/
  history : List (Moment α)
  /-- The smoothed velocity. -/
  velocity : Planar α
  /-- The smoothed acceleration. -/
  acceleration : Planar α
deriving DecidableEq

variable {α : Type}

/-- The position of an observation. -/
def Moment.position (moment : Moment α) : Planar α := ⟨moment.coords.x, moment.coords.y⟩

variable [Scalar α]

/-- The milliseconds from one observation to a later one. A difference that leaves the range of times
wraps around. -/
def Moment.since (later earlier : Moment α) : α := ((later.time - earlier.time).toInt : α)

/-- The usual tuning. -/
def LinearTuning.usual : LinearTuning α where
  historySize := 8
  velocitySmoothing := 0.4
  accelerationSmoothing := 0.2
  maxDistance := 100.0
  minSpeed := 0.05

/-- The smoothed value after one more observation of the given weight. -/
def smooth (smoothed observed : Planar α) (weight : α) : Planar α :=
  observed * weight + smoothed * (1 - weight)

namespace Motion

/-- The samples that the three-point acceleration needs. -/
def leastHistory : Nat := 3

/-- Nothing observed. -/
def blank : Motion α := ⟨[], 0, 0⟩

/-- The velocity from the latest two samples, unless no time passed between them. -/
def observedVelocity? : List (Moment α) → Option (Planar α)
  | recent :: previous :: _ =>
    let elapsed := recent.since previous
    if 0 < elapsed then some ((recent.position - previous.position) / elapsed) else none
  | _ => none

/-- The acceleration from the latest three samples, unless no time passed between two of them. -/
def observedAcceleration? : List (Moment α) → Option (Planar α)
  | recent :: middle :: previous :: _ =>
    let late := recent.since middle
    let early := middle.since previous
    if 0 < late ∧ 0 < early then
      let lateVelocity := (recent.position - middle.position) / late
      let earlyVelocity := (middle.position - previous.position) / early
      some ((lateVelocity - earlyVelocity) / ((late + early) / (2.0 : α)))
    else none
  | _ => none

/-- How many samples a tuning remembers. -/
def depth (tuning : LinearTuning α) : Nat := Nat.max tuning.historySize leastHistory

omit [Scalar α] in
theorem leastHistory_le_depth (tuning : LinearTuning α) : leastHistory ≤ depth tuning :=
  Nat.le_max_right _ _

/-- The memory after one more sample. -/
def absorb (tuning : LinearTuning α) (motion : Motion α) (moment : Moment α) : Motion α :=
  let history := (moment :: motion.history).take (depth tuning)
  { history := history
    velocity :=
      match observedVelocity? history with
      | some observed => smooth motion.velocity observed tuning.velocitySmoothing
      | none => motion.velocity
    acceleration :=
      match observedAcceleration? history with
      | some observed => smooth motion.acceleration observed tuning.accelerationSmoothing
      | none => motion.acceleration }

/-- The latest sample is among those remembered, however few they are. -/
theorem head?_absorb (tuning : LinearTuning α) (motion : Motion α) (moment : Moment α) :
    (motion.absorb tuning moment).history.head? = some moment := by
  have kept : depth tuning ≠ 0 := by
    have least := leastHistory_le_depth tuning
    unfold leastHistory at least
    omega
  show ((moment :: motion.history).take (depth tuning)).head? = some moment
  rw [List.head?_take, if_neg kept, List.head?_cons]

/-- The smoothed speed. -/
def speed (motion : Motion α) : α := motion.velocity.norm

/-- The displacement after a time, cut off at the greatest distance. -/
def displacement (tuning : LinearTuning α) (motion : Motion α) (time : α) : Planar α :=
  let offset := motion.velocity * time + motion.acceleration * ((0.5 : α) * time * time)
  if tuning.maxDistance < offset.norm then offset * (tuning.maxDistance / offset.norm)
  else offset

/-- Walks on from an accepted sample, with its pressure. -/
def walk (tuning : LinearTuning α) (motion : Motion α) (last : Moment α) (rate : α)
    (steps : Nat) : List (Coords α) :=
  (List.range steps).map fun step =>
    let time := (((step + 1 : Nat) : Int) : α) * rate
    boundedSample (last.position + motion.displacement tuning time) last.coords.pressure

end Motion

/-- The strategy that extrapolates the smoothed motion. The sample accepted last is the latest one of
the history. Without one there is nowhere to start from, and the stored point stays as it is. -/
def linear (tuning : LinearTuning α) : Strategy α (Motion α) where
  blank := .blank
  absorb := Motion.absorb tuning
  last motion := motion.history.head?
  isReady motion := Motion.leastHistory ≤ motion.history.length
  horizon motion target rate :=
    if motion.history.isEmpty || motion.speed < tuning.minSpeed then 0
    else Scalar.ceilNat (target / rate)
  walk motion stored rate steps :=
    match motion.history.head? with
    | some last =>
      let samples := motion.walk tuning last rate steps
      { samples := samples, furthest := samples.getLast? }
    | none => { samples := [], furthest := stored }
  restPressure motion :=
    match motion.history.head? with
    | some last => last.coords.pressure
    | none => 0
  last_blank := rfl
  last_absorb := Motion.head?_absorb tuning

section Extrapolation

variable (tuning : LinearTuning α) {motion : Motion α}

/-- An extrapolation walks from the sample accepted last. -/
theorem linear_walk_of_some {last : Moment α} (known : motion.history.head? = some last)
    (stored : Option (Coords α)) (rate : α) (steps : Nat) :
    (linear tuning).walk motion stored rate steps =
      { samples := motion.walk tuning last rate steps
        furthest := (motion.walk tuning last rate steps).getLast? } := by
  unfold linear
  dsimp only
  rw [known]

/-- Without a sample it stays where it is. -/
theorem linear_walk_of_none (unknown : motion.history.head? = none) (stored : Option (Coords α))
    (rate : α) (steps : Nat) :
    (linear tuning).walk motion stored rate steps = { samples := [], furthest := stored } := by
  unfold linear
  dsimp only
  rw [unknown]

/-- How far it walks with a sample to start from. -/
theorem linear_horizon_of_some {last : Moment α} (known : motion.history.head? = some last)
    (target rate : α) :
    (linear tuning).horizon motion target rate =
      if motion.speed < tuning.minSpeed then 0 else Scalar.ceilNat (target / rate) := by
  obtain ⟨earlier, history⟩ := List.head?_eq_some_iff.mp known
  unfold linear
  simp [history]

theorem linear_restPressure_of_some {last : Moment α} (known : motion.history.head? = some last) :
    (linear tuning).restPressure motion = last.coords.pressure := by
  unfold linear
  dsimp only
  rw [known]

theorem linear_restPressure_of_none (unknown : motion.history.head? = none) :
    (linear tuning).restPressure motion = 0 := by
  unfold linear
  dsimp only
  rw [unknown]

end Extrapolation

end PointerForecast
