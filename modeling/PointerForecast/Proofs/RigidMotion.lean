/-
**Both strategies follow a motion of the plane.**

Suppose that every observation of a second run is where a fixed motion of the plane takes that of the
first one. A displacement is then turned, its length stays, and a position is carried along. The
strategies add displacements to positions and decide by lengths alone, so they predict where the motion
takes the first prediction. Before any sample was accepted a prediction starts at the origin, which
stays where it is.

* `Correspondence.Rigid`: a correspondence that moves the plane as a whole.
* `project_turned`: **the walk of the filter** is carried along.
* `kalman_carries`: the filter, if its estimates of motion are turned.
* `Motion.Turned.absorb`, `linear_carries`: **the extrapolation**, if the times measured are the same.
* `Correspondence.InPlace`: the motion that moves nothing.
-/

import PointerForecast.Proofs.Correspondence

namespace PointerForecast

variable {α : Type} [Scalar α]

/-- A correspondence that moves the plane as a whole: `turn` is what becomes of a displacement, and
`carry` what becomes of a position, which is known or not. -/
structure Correspondence.Rigid (along : Correspondence α) (turn : Planar α → Planar α)
    (carry : Bool → Planar α → Planar α) : Prop where
  zero : turn 0 = 0
  add (v w : Planar α) : turn (v + w) = turn v + turn w
  sub (v w : Planar α) : turn (v - w) = turn v - turn w
  scale (v : Planar α) (s : α) : turn (v * s) = turn v * s
  div (v : Planar α) (s : α) : turn (v / s) = turn v / s
  norm (v : Planar α) : (turn v).norm = v.norm
  origin : carry false 0 = 0
  carry_add (known : Bool) (p v : Planar α) : carry known (p + v) = carry known p + turn v
  carry_sub (known : Bool) (p q : Planar α) : carry known p - carry known q = turn (p - q)
  position {next later : Moment α} (now : along.seen next later) :
    later.position = carry true next.position
  pressure {next later : Moment α} (now : along.seen next later) :
    later.coords.pressure = next.coords.pressure
  placed (known : Bool) (p : Planar α) (pressure : α) :
    (⟨Scalar.single (carry known p).x, Scalar.single (carry known p).y, pressure⟩ : Coords α) =
      along.placed known ⟨Scalar.single p.x, Scalar.single p.y, pressure⟩

variable {along : Correspondence α} {turn : Planar α → Planar α}
  {carry : Bool → Planar α → Planar α}

namespace Correspondence.Rigid

theorem boundedSample_carry (rigid : along.Rigid turn carry) (known : Bool) (p : Planar α)
    (pressure : α) :
    boundedSample (carry known p) pressure = along.placed known (boundedSample p pressure) :=
  rigid.placed known p _

theorem lastPosition (rigid : along.Rigid turn carry) {last other : Option (Moment α)}
    (known : Option.Rel along.seen last other) :
    lastPosition other = carry last.isSome (lastPosition last) := by
  cases known with
  | none => exact rigid.origin.symm
  | some now => exact rigid.position now

end Correspondence.Rigid

/-! ### The filter -/

/-- States of which the second one has the turned rates of change of the first one. -/
structure Kinematics.Turned (turn : Planar α → Planar α) (first second : Kinematics α) : Prop where
  velocity : second.velocity = turn first.velocity
  acceleration : second.acceleration = turn first.acceleration
  jank : second.jank = turn first.jank
  pressure : second.pressure = first.pressure
  pressureChange : second.pressureChange = first.pressureChange

namespace Kinematics.Turned

variable {first second : Kinematics α}

theorem advance (rigid : along.Rigid turn carry) (turned : first.Turned turn second) :
    first.advance.Turned turn second.advance := by
  obtain ⟨velocity, acceleration, jank, pressure, change⟩ := turned
  constructor <;>
    simp only [Kinematics.advance, velocity, acceleration, jank, pressure, change, rigid.add,
      rigid.scale]

theorem position_advance (rigid : along.Rigid turn carry) (turned : first.Turned turn second)
    {known : Bool} (place : second.position = carry known first.position) :
    second.advance.position = carry known first.advance.position := by
  simp only [Kinematics.advance, place, turned.velocity, turned.acceleration, turned.jank,
    rigid.carry_add, rigid.add, rigid.scale]

theorem capPressure (turned : first.Turned turn second) :
    first.capPressure.Turned turn second.capPressure :=
  { turned with pressure := congrArg (Scalar.min · 1) turned.pressure }

end Kinematics.Turned

/-- The walk with other samples, to another position. -/
def Projection.carried (placed : Coords α → Coords α) (carry : Planar α → Planar α)
    (projection : Projection α) : Projection α :=
  { projection with
    samples := projection.samples.map placed
    position := carry projection.position }

/-- **The walk of the filter is carried along.** -/
theorem project_turned (rigid : along.Rigid turn carry) (known : Bool) (steps : Nat)
    {first second : Kinematics α} (turned : first.Turned turn second)
    (place : second.position = carry known first.position) :
    project steps second =
      (project steps first).carried (along.placed known) (carry known) := by
  -- The pressures are the same, so both walks end early at the same step.
  induction steps generalizing first second with
  | zero =>
    simp only [project, place, turned.pressure]
    rfl
  | succ steps ih =>
    have next := turned.advance rigid
    have there := turned.position_advance rigid place
    by_cases lift : first.advance.pressure < liftOffPressure
    · simp only [project, next.pressure, if_pos lift, there]
      rfl
    · have sample : second.advance.capPressure.sample =
          along.placed known first.advance.capPressure.sample := by
        unfold Kinematics.sample
        rw [next.capPressure.pressure, show second.advance.capPressure.position =
          carry known first.advance.capPressure.position from there]
        exact rigid.placed known _ _
      simp only [project, next.pressure, if_neg lift, ih next.capPressure there, sample]
      rfl

/-- What two runs of the filter remember: estimates in a relation, and corresponding samples accepted
last. -/
structure Tracker.Corresponds (along : Correspondence α)
    (estimate : Estimator α → Estimator α → Prop) (first second : Tracker α) : Prop where
  estimate : estimate first.toEstimator second.toEstimator
  last : Option.Rel along.seen first.last second.last

/-- **The filter follows**, if corresponding estimates have turned rates of change. -/
theorem kalman_carries (noise : Noise α) (rigid : along.Rigid turn carry)
    {estimate : Estimator α → Estimator α → Prop} (blank : estimate .blank .blank)
    (absorb : ∀ {first second}, estimate first second → ∀ {moment other},
      along.seen moment other →
        estimate (first.absorb noise moment.coords) (second.absorb noise other.coords))
    (count : ∀ {first second}, estimate first second → second.count = first.count)
    (kinematics : ∀ {first second}, estimate first second →
      first.kinematics.Turned turn second.kinematics) :
    (kalman noise).Carries along (Tracker.Corresponds along estimate) where
  stores := kalman_storesInStroke noise
  blank := ⟨blank, .none⟩
  absorb same _ _ seen := ⟨absorb same.estimate seen, .some seen⟩
  last same := same.last
  isReady same := by
    show decide _ = decide _
    rw [count same.estimate]
  horizon same target rate := by
    obtain ⟨velocity, _, jank, _, _⟩ := kinematics same.estimate
    simp only [kalman, Estimator.confidence, velocity, jank, rigid.norm]
  walk := by
    intro first second ⟨estimates, known⟩ rate steps
    obtain ⟨velocity, acceleration, jank, pressure, change⟩ := kinematics estimates
    have turned : Kinematics.Turned turn
        { first.kinematics with position := PointerForecast.lastPosition first.last }
        { second.kinematics with position := PointerForecast.lastPosition second.last } :=
      ⟨velocity, acceleration, jank, pressure, change⟩
    have walked :=
      project_turned rigid first.last.isSome steps turned (rigid.lastPosition known)
    simp only [kalman, Tracker.walk, walked, Projection.carried, rigid.boundedSample_carry]
    rfl
  rest := by
    intro first second ⟨estimates, known⟩
    simp only [kalman, (kinematics estimates).pressure, rigid.lastPosition known,
      rigid.boundedSample_carry]

/-! ### The extrapolation -/

namespace Motion

/-- Memories of which the second one remembers corresponding samples and turned rates of change. -/
structure Turned (along : Correspondence α) (turn : Planar α → Planar α)
    (first second : Motion α) : Prop where
  history : List.Forall₂ along.seen first.history second.history
  velocity : second.velocity = turn first.velocity
  acceleration : second.acceleration = turn first.acceleration

omit [Scalar α] in
theorem Turned.last {first second : Motion α} (turned : first.Turned along turn second) :
    Option.Rel along.seen first.history.head? second.history.head? := by
  rw [List.head?_eq_getElem?, List.head?_eq_getElem?]
  exact rel_getElem? turned.history 0

variable {history others : List (Moment α)}

theorem since_turned (rigid : along.Rigid turn carry) {previous earlier next later : Moment α}
    (last : along.seen previous earlier) (now : along.seen next later) :
    later.position - earlier.position = turn (next.position - previous.position) := by
  rw [rigid.position now, rigid.position last, rigid.carry_sub]

theorem observedVelocity?_turned (rigid : along.Rigid turn carry) (steady : along.Steady)
    (alike : List.Forall₂ along.seen history others) :
    observedVelocity? others = (observedVelocity? history).map turn := by
  cases alike with
  | nil => rfl
  | cons recent alike =>
    cases alike with
    | nil => rfl
    | cons previous _ =>
      simp only [observedVelocity?, steady.since previous recent,
        since_turned rigid previous recent, ← rigid.div]
      split <;> rfl

theorem observedAcceleration?_turned (rigid : along.Rigid turn carry) (steady : along.Steady)
    (alike : List.Forall₂ along.seen history others) :
    observedAcceleration? others = (observedAcceleration? history).map turn := by
  cases alike with
  | nil => rfl
  | cons recent alike =>
    cases alike with
    | nil => rfl
    | cons middle alike =>
      cases alike with
      | nil => rfl
      | cons previous _ =>
        simp only [observedAcceleration?, steady.since middle recent, steady.since previous middle,
          since_turned rigid middle recent, since_turned rigid previous middle, ← rigid.div,
          ← rigid.sub]
        split <;> rfl

theorem smooth_turned (rigid : along.Rigid turn carry) (smoothed observed : Planar α) (weight : α) :
    smooth (turn smoothed) (turn observed) weight = turn (smooth smoothed observed weight) := by
  unfold smooth
  rw [rigid.add, rigid.scale, rigid.scale]

theorem Turned.absorb (rigid : along.Rigid turn carry) (steady : along.Steady)
    (tuning : LinearTuning α) {first second : Motion α} (turned : first.Turned along turn second)
    {next later : Moment α} (seen : along.seen next later) :
    (first.absorb tuning next).Turned along turn (second.absorb tuning later) := by
  have remembered : List.Forall₂ along.seen
      ((next :: first.history).take (depth tuning)) ((later :: second.history).take (depth tuning)) :=
    List.forall₂_take _ (.cons seen turned.history)
  have fast := observedVelocity?_turned rigid steady remembered
  have turning := observedAcceleration?_turned rigid steady remembered
  refine ⟨remembered, ?_, ?_⟩
  · simp only [Motion.absorb, fast, turned.velocity]
    cases observedVelocity? ((next :: first.history).take (depth tuning)) with
    | none => rfl
    | some observed => exact smooth_turned rigid _ _ _
  · simp only [Motion.absorb, turning, turned.acceleration]
    cases observedAcceleration? ((next :: first.history).take (depth tuning)) with
    | none => rfl
    | some observed => exact smooth_turned rigid _ _ _

theorem Turned.displacement (rigid : along.Rigid turn carry) (tuning : LinearTuning α)
    {first second : Motion α} (turned : first.Turned along turn second) (time : α) :
    second.displacement tuning time = turn (first.displacement tuning time) := by
  simp only [Motion.displacement, turned.velocity, turned.acceleration, ← rigid.scale, ← rigid.add,
    rigid.norm]
  split <;> rfl

end Motion

/-- **The extrapolation follows**, if the times measured are the same. -/
theorem linear_carries (tuning : LinearTuning α) (rigid : along.Rigid turn carry)
    (steady : along.Steady) : (linear tuning).Carries along (Motion.Turned along turn) where
  stores := linear_storesInStroke tuning
  blank := ⟨.nil, rigid.zero.symm, rigid.zero.symm⟩
  absorb := fun turned _ _ seen => turned.absorb rigid steady tuning seen
  last := Motion.Turned.last
  isReady := by
    intro first second turned
    show decide (_ ≤ second.history.length) = decide (_ ≤ first.history.length)
    rw [turned.history.length_eq]
  horizon := by
    intro first second turned target rate
    show (if second.history.isEmpty || second.velocity.norm < tuning.minSpeed then 0 else _) =
      if first.history.isEmpty || first.velocity.norm < tuning.minSpeed then 0 else _
    rw [isEmpty_of_forall₂ turned.history, turned.velocity, rigid.norm]
  walk := by
    intro first second turned rate steps
    rcases rel_cases turned.last with ⟨one, two⟩ | ⟨last, other, one, two, now⟩
    · rw [linear_walk_of_none tuning one, linear_walk_of_none tuning two]
      rfl
    · have samples : second.walk tuning other rate steps =
          (first.walk tuning last rate steps).map (along.placed true) := by
        simp only [Motion.walk, List.map_map]
        refine List.map_congr_left fun step _ => ?_
        rw [rigid.position now, rigid.pressure now, turned.displacement rigid, ← rigid.carry_add,
          rigid.boundedSample_carry]
        rfl
      have known : ((linear tuning).last first).isSome = true := Option.isSome_iff_exists.mpr ⟨_, one⟩
      rw [linear_walk_of_some tuning one, linear_walk_of_some tuning two, samples, known,
        List.getLast?_map]
      rfl
  rest := by
    intro first second turned
    have pressure : (linear tuning).restPressure second = (linear tuning).restPressure first := by
      rcases rel_cases turned.last with ⟨one, two⟩ | ⟨last, other, one, two, now⟩
      · rw [linear_restPressure_of_none tuning one, linear_restPressure_of_none tuning two]
      · rw [linear_restPressure_of_some tuning one, linear_restPressure_of_some tuning two,
          rigid.pressure now]
    rw [pressure, ← rigid.boundedSample_carry]
    exact congrArg (boundedSample · _) (rigid.lastPosition turned.last)

/-! ### Observations that stay in place -/

/-- A correspondence that changes no coordinates, neither observed nor predicted ones. -/
structure Correspondence.InPlace (along : Correspondence α) : Prop where
  coords {next later : Moment α} (now : along.seen next later) : later.coords = next.coords
  placed (known : Bool) : along.placed known = id

theorem Correspondence.InPlace.rigid (inPlace : along.InPlace) : along.Rigid id fun _ => id where
  zero := rfl
  add _ _ := rfl
  sub _ _ := rfl
  scale _ _ := rfl
  div _ _ := rfl
  norm _ := rfl
  origin := rfl
  carry_add _ _ _ := rfl
  carry_sub _ _ _ := rfl
  position now := by
    unfold Moment.position
    rw [inPlace.coords now]
    rfl
  pressure now := by rw [inPlace.coords now]
  placed known _ _ := by
    rw [inPlace.placed known]
    rfl

/-- The filter estimates from nothing of an observation but its coordinates. -/
theorem Correspondence.InPlace.kalman_carries (inPlace : along.InPlace) (noise : Noise α) :
    (kalman noise).Carries along (Tracker.Corresponds along Eq) := by
  refine PointerForecast.kalman_carries noise inPlace.rigid rfl ?_ ?_ ?_
  · rintro first _ rfl moment other now
    rw [inPlace.coords now]
  · rintro first _ rfl
    rfl
  · rintro first _ rfl
    exact ⟨rfl, rfl, rfl, rfl, rfl⟩

end PointerForecast
