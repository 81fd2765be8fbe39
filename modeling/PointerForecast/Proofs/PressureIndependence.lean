/-
**Pressure never moves a prediction.**

Two sessions are given the same commands, except that the pressures observed differ. Which samples
are accepted, the target, the rate and what is known about it, and everything that is estimated of
the motion stay the same. So does where a prediction leads: with the extrapolation every predicted
position is the same, and with the filter one prediction can only end earlier than the other, where
its pressure says that the pointer is about to lift.

* `Coords.bare`, `Moment.bare`, `MotionEvent.bare`: **what is left without pressures.**
* `Strategy.IgnoresPressure`: what makes a strategy ignore them; `kalman_ignoresPressure`,
  `linear_ignoresPressure`: both do.
* `Session.Alike`: two sessions apart from pressures; `Session.Alike.apply`: **one command.**
* `project_follows`: of two walks, one goes the way of the other until it ends.
* `Session.pressure_isIgnored`: **any two runs.**
-/

import PointerForecast.Proofs.Run
import PointerForecast.Proofs.Readiness

namespace PointerForecast

variable {α M : Type} [Scalar α]

/-! ### Without pressures -/

/-- The same coordinates without their pressure. -/
def Coords.bare (coords : Coords α) : Coords α := { coords with pressure := 0 }

/-- The same observation without its pressure. -/
def Moment.bare (moment : Moment α) : Moment α := { moment with coords := moment.coords.bare }

/-- The same batch without its pressures. -/
def Batch.bare (batch : Batch α) : Batch α := { batch with coords := batch.coords.map Coords.bare }

/-- The same event without its pressures. -/
def MotionEvent.bare (event : MotionEvent α) : MotionEvent α :=
  { event with batches := event.batches.map Batch.bare }

/-- The same prediction without its pressures. -/
def Prediction.bare (prediction : Prediction α) : Prediction α :=
  { prediction with samples := prediction.samples.map Coords.bare }

omit [Scalar α] in
/-- Two optional values with the same image are both absent or both present. -/
theorem map_eq_map_cases {β γ : Type} {f : β → γ} {first second : Option β}
    (same : first.map f = second.map f) :
    (first = none ∧ second = none) ∨
      ∃ one two, first = some one ∧ second = some two ∧ f one = f two := by
  cases first with
  | none => cases second with
    | none => exact Or.inl ⟨rfl, rfl⟩
    | some two => cases same
  | some one => cases second with
    | none => cases same
    | some two => exact Or.inr ⟨one, two, rfl, rfl, Option.some.inj same⟩

theorem Moment.time_congr {first second : Moment α} (same : first.bare = second.bare) :
    first.time = second.time := by
  show first.bare.time = second.bare.time
  rw [same]

theorem Moment.x_congr {first second : Moment α} (same : first.bare = second.bare) :
    first.coords.x = second.coords.x := by
  show first.bare.coords.x = second.bare.coords.x
  rw [same]

theorem Moment.y_congr {first second : Moment α} (same : first.bare = second.bare) :
    first.coords.y = second.coords.y := by
  show first.bare.coords.y = second.bare.coords.y
  rw [same]

theorem Moment.position_congr {first second : Moment α} (same : first.bare = second.bare) :
    first.position = second.position := by
  show first.bare.position = second.bare.position
  rw [same]

theorem MotionEvent.history_bare (event : MotionEvent α) (index : Nat) :
    event.bare.history index = (event.history index).map Moment.bare := by
  unfold history bare
  rw [List.filterMap_map, List.map_filterMap]
  refine List.filterMap_congr fun batch _ => ?_
  show ((batch.coords.map Coords.bare)[index]?).map _ = _
  rw [List.getElem?_map, Option.map_map, Option.map_map]
  rfl

theorem MotionEvent.trackOf_bare (event : MotionEvent α) (pointer : PointerId) :
    event.bare.trackOf pointer = (event.trackOf pointer).map (List.map Moment.bare) := by
  unfold trackOf
  rw [Option.map_map]
  show Option.map event.bare.history (event.indexOf? pointer) = _
  exact congrArg (Option.map · _) (funext fun index => event.history_bare index)

/-- The position of a sample does not depend on its pressure. -/
theorem bare_boundedSample (position : Planar α) (pressure other : α) :
    (boundedSample position pressure).bare = (boundedSample position other).bare := rfl

theorem lastPosition_congr {first second : Option (Moment α)}
    (same : first.map Moment.bare = second.map Moment.bare) :
    lastPosition first = lastPosition second := by
  rcases map_eq_map_cases same with ⟨rfl, rfl⟩ | ⟨moment, other, rfl, rfl, bare⟩
  · rfl
  · exact Moment.position_congr bare

/-! ### Strategies -/

/-- Holds of a strategy that ignores pressures. Memories in the first relation are told apart by
pressures only, and so are the points in the second one that a walk leads to. -/
structure Strategy.IgnoresPressure (strategy : Strategy α M) (memory : M → M → Prop)
    (furthest : Option (Coords α) → Option (Coords α) → Prop) : Prop where
  blank : memory strategy.blank strategy.blank
  absorb {first second : M} (same : memory first second) {moment other : Moment α}
    (bare : moment.bare = other.bare) :
    memory (strategy.absorb first moment) (strategy.absorb second other)
  isReady {first second : M} (same : memory first second) :
    strategy.isReady first = strategy.isReady second
  last {first second : M} (same : memory first second) :
    (strategy.last first).map Moment.bare = (strategy.last second).map Moment.bare
  horizon {first second : M} (same : memory first second) (target rate : α) :
    strategy.horizon first target rate = strategy.horizon second target rate
  nowhere : furthest none none
  walk {first second : M} (same : memory first second) {stored other : Option (Coords α)}
    (points : furthest stored other) (rate : α) (steps : Nat) :
    furthest (strategy.walk first stored rate steps).furthest
      (strategy.walk second other rate steps).furthest

/-- What is remembered of a stroke, apart from pressures: the same estimates of the motion, and the same
place and time of the sample accepted last. -/
structure Tracker.SameMotion (first second : Tracker α) : Prop where
  x : first.x = second.x
  y : first.y = second.y
  count : first.count = second.count
  last : first.last.map Moment.bare = second.last.map Moment.bare

theorem Tracker.SameMotion.absorb (noise : Noise α) {first second : Tracker α}
    (same : first.SameMotion second) {moment other : Moment α} (bare : moment.bare = other.bare) :
    (first.absorb noise moment).SameMotion (second.absorb noise other) := by
  obtain ⟨x, y, count, _⟩ := same
  unfold Tracker.absorb Estimator.absorb
  rw [count, x, y, Moment.x_congr bare, Moment.y_congr bare]
  split <;> exact ⟨rfl, rfl, rfl, congrArg some bare⟩

theorem kalman_ignoresPressure (noise : Noise α) :
    (kalman noise).IgnoresPressure Tracker.SameMotion fun _ _ => True where
  blank := ⟨rfl, rfl, rfl, rfl⟩
  absorb := fun same _ _ bare => same.absorb noise bare
  isReady := by
    rintro first second ⟨_, _, count, _⟩
    show first.isConverged = second.isConverged
    unfold Estimator.isConverged
    rw [count]
  last := Tracker.SameMotion.last
  horizon := by
    rintro first second ⟨x, y, _, _⟩ target rate
    show horizon target rate (first.confidence rate) = horizon target rate (second.confidence rate)
    unfold Estimator.confidence Estimator.kinematics
    rw [x, y]
  nowhere := trivial
  walk := by
    intros
    trivial

namespace Motion

/-- Memories that agree in all but the pressures. -/
def SameMotion (first second : Motion α) : Prop :=
  first.history.map Moment.bare = second.history.map Moment.bare ∧
    first.velocity = second.velocity ∧ first.acceleration = second.acceleration

theorem observedVelocity?_bare (history : List (Moment α)) :
    observedVelocity? (history.map Moment.bare) = observedVelocity? history := by
  match history with
  | [] => rfl
  | [_] => rfl
  | _ :: _ :: _ => rfl

theorem observedAcceleration?_bare (history : List (Moment α)) :
    observedAcceleration? (history.map Moment.bare) = observedAcceleration? history := by
  match history with
  | [] => rfl
  | [_] => rfl
  | [_, _] => rfl
  | _ :: _ :: _ :: _ => rfl

theorem SameMotion.absorb (tuning : LinearTuning α) {first second : Motion α}
    (same : first.SameMotion second) {moment other : Moment α} (bare : moment.bare = other.bare) :
    (first.absorb tuning moment).SameMotion (second.absorb tuning other) := by
  obtain ⟨history, velocity, acceleration⟩ := same
  have remembered : ((moment :: first.history).take (depth tuning)).map Moment.bare =
      ((other :: second.history).take (depth tuning)).map Moment.bare := by
    rw [List.map_take, List.map_take, List.map_cons, List.map_cons, bare, history]
  have fast := (observedVelocity?_bare _).symm.trans
    ((congrArg observedVelocity? remembered).trans (observedVelocity?_bare _))
  have turning := (observedAcceleration?_bare _).symm.trans
    ((congrArg observedAcceleration? remembered).trans (observedAcceleration?_bare _))
  refine ⟨remembered, ?_, ?_⟩
  · simp only [Motion.absorb, fast, velocity]
  · simp only [Motion.absorb, turning, acceleration]

theorem displacement_congr (tuning : LinearTuning α) {first second : Motion α}
    (same : first.SameMotion second) (time : α) :
    first.displacement tuning time = second.displacement tuning time := by
  obtain ⟨_, velocity, acceleration⟩ := same
  unfold displacement
  rw [velocity, acceleration]

theorem SameMotion.head? {first second : Motion α} (same : first.SameMotion second) :
    first.history.head?.map Moment.bare = second.history.head?.map Moment.bare := by
  rw [← List.head?_map, ← List.head?_map, same.1]

theorem bare_walk (tuning : LinearTuning α) {first second : Motion α}
    (same : first.SameMotion second) {last other : Moment α} (bare : last.bare = other.bare)
    (rate : α) (steps : Nat) :
    (first.walk tuning last rate steps).map Coords.bare =
      (second.walk tuning other rate steps).map Coords.bare := by
  unfold Motion.walk
  rw [List.map_map, List.map_map]
  refine List.map_congr_left fun step _ => ?_
  dsimp only [Function.comp_apply]
  rw [displacement_congr tuning same, Moment.position_congr bare]
  exact bare_boundedSample _ _ _

/-- **The extrapolation leads to the same positions**, those that it passes and the one that it
stores. -/
theorem bare_forecast (tuning : LinearTuning α) {first second : Motion α}
    (same : first.SameMotion second) {stored other : Option (Coords α)}
    (points : stored.map Coords.bare = other.map Coords.bare) (rate : α) (steps : Nat) :
    let one := (linear tuning).walk first stored rate steps
    let two := (linear tuning).walk second other rate steps
    one.samples.map Coords.bare = two.samples.map Coords.bare ∧
      one.furthest.map Coords.bare = two.furthest.map Coords.bare := by
  rcases map_eq_map_cases same.head? with ⟨one, two⟩ | ⟨last, earlier, one, two, bare⟩
  · rw [linear_walk_of_none tuning one, linear_walk_of_none tuning two]
    exact ⟨rfl, points⟩
  · have samples := bare_walk tuning same bare rate steps
    rw [linear_walk_of_some tuning one, linear_walk_of_some tuning two]
    refine ⟨samples, ?_⟩
    dsimp only
    rw [← List.getLast?_map, ← List.getLast?_map, samples]

end Motion

theorem linear_ignoresPressure (tuning : LinearTuning α) :
    (linear tuning).IgnoresPressure Motion.SameMotion
      fun first second => first.map Coords.bare = second.map Coords.bare where
  blank := ⟨rfl, rfl, rfl⟩
  absorb := fun same _ _ bare => same.absorb tuning bare
  isReady := by
    rintro first second ⟨history, _, _⟩
    have length := congrArg List.length history
    rw [List.length_map, List.length_map] at length
    show decide (_ ≤ first.history.length) = decide (_ ≤ second.history.length)
    rw [length]
  last := Motion.SameMotion.head?
  horizon := by
    rintro first second ⟨history, velocity, _⟩ target rate
    have known : first.history.isEmpty = second.history.isEmpty := by
      rw [← List.isEmpty_map (f := Moment.bare), history, List.isEmpty_map]
    show (if first.history.isEmpty || first.velocity.norm < tuning.minSpeed then 0 else _) =
      if second.history.isEmpty || second.velocity.norm < tuning.minSpeed then 0 else _
    rw [known, velocity]
  nowhere := rfl
  walk same _ _ points rate steps := (Motion.bare_forecast tuning same points rate steps).2

/-! ### Sessions -/

/-- Commands that are the same apart from the pressures of an observed event. Predictions to be
filled up may differ, since they may be what was predicted. -/
inductive Command.SameMotion : Command α → Command α → Prop where
  | setTarget (milliseconds : Int32) : SameMotion (.setTarget milliseconds) (.setTarget milliseconds)
  | setRate (milliseconds : Int32) : SameMotion (.setRate milliseconds) (.setRate milliseconds)
  | beginStroke (pointer : PointerId) : SameMotion (.beginStroke pointer) (.beginStroke pointer)
  | observe {event other : MotionEvent α} (bare : event.bare = other.bare) :
      SameMotion (.observe event) (.observe other)
  | predict : SameMotion .predict .predict
  | pad (prediction other : Option (Prediction α)) : SameMotion (.pad prediction) (.pad other)

namespace Session

/-- Two sessions that are the same apart from pressures. -/
structure Alike (memory : M → M → Prop) (furthest : Option (Coords α) → Option (Coords α) → Prop)
    (first second : Session α M) : Prop where
  pointer : first.pointer = second.pointer
  target : first.target = second.target
  rate : first.rate = second.rate
  memory : memory first.memory second.memory
  furthest : furthest first.furthest second.furthest

namespace Alike

variable {strategy : Strategy α M} {memory : M → M → Prop}
  {furthest : Option (Coords α) → Option (Coords α) → Prop} {first second : Session α M}

theorem expected? (alike : first.Alike memory furthest second) :
    first.expected? = second.expected? := by
  unfold Session.expected? Session.targetTime
  rw [alike.rate, alike.target]

theorem last (ignores : strategy.IgnoresPressure memory furthest)
    (alike : first.Alike memory furthest second) :
    (first.last strategy).map Moment.bare = (second.last strategy).map Moment.bare :=
  ignores.last alike.memory

theorem isRepetition (ignores : strategy.IgnoresPressure memory furthest)
    (alike : first.Alike memory furthest second) {moment other : Moment α}
    (bare : moment.bare = other.bare) :
    first.isRepetition strategy moment = second.isRepetition strategy other := by
  have ignored (last : Option (Moment α)) (next : Moment α) :
      (last.map Moment.bare).any (·.isRepeatedBy next.bare) = last.any (·.isRepeatedBy next) := by
    cases last <;> rfl
  rw [isRepetition_eq_any, isRepetition_eq_any, ← ignored (first.last strategy),
    ← ignored (second.last strategy), alike.last ignores, bare]

/-- **One accepted sample.** -/
theorem accept (ignores : strategy.IgnoresPressure memory furthest)
    (alike : first.Alike memory furthest second) {moment other : Moment α}
    (bare : moment.bare = other.bare) :
    (first.accept strategy moment).Alike memory furthest (second.accept strategy other) where
  pointer := alike.pointer
  target := alike.target
  rate := by
    unfold Session.accept
    rw [alike.rate, Moment.time_congr bare]
    rcases map_eq_map_cases (alike.last ignores) with ⟨one, two⟩ | ⟨previous, earlier, one, two, last⟩
    · rw [one, two]
    · rw [one, two]
      simp only [Moment.time_congr last]
  memory := ignores.absorb alike.memory bare
  furthest := alike.furthest

theorem take (ignores : strategy.IgnoresPressure memory furthest)
    (alike : first.Alike memory furthest second) {moment other : Moment α}
    (bare : moment.bare = other.bare) :
    (first.take strategy moment).Alike memory furthest (second.take strategy other) := by
  unfold Session.take
  rw [alike.isRepetition ignores bare]
  split
  · exact alike
  · exact alike.accept ignores bare

theorem foldl_take (ignores : strategy.IgnoresPressure memory furthest)
    (alike : first.Alike memory furthest second) {moments others : List (Moment α)}
    (bare : moments.map Moment.bare = others.map Moment.bare) :
    (moments.foldl (Session.take strategy) first).Alike memory furthest
      (others.foldl (Session.take strategy) second) := by
  induction moments generalizing others first second with
  | nil =>
    rw [List.map_eq_nil_iff.mp bare.symm]
    exact alike
  | cons moment rest ih =>
    obtain ⟨other, later, rfl, one, more⟩ := List.map_eq_cons_iff.mp bare.symm
    exact ih (alike.take ignores one.symm) more.symm

theorem clear (ignores : strategy.IgnoresPressure memory furthest)
    (alike : first.Alike memory furthest second) :
    (first.clear strategy).Alike memory furthest (second.clear strategy) where
  pointer := alike.pointer
  target := alike.target
  rate := alike.rate
  memory := ignores.blank
  furthest := ignores.nowhere

/-- **One event.** -/
theorem observe (ignores : strategy.IgnoresPressure memory furthest)
    (alike : first.Alike memory furthest second) {event other : MotionEvent α}
    (bare : event.bare = other.bare) :
    (first.observe strategy event).1.Alike memory furthest (second.observe strategy other).1 ∧
      (first.observe strategy event).2 = (second.observe strategy other).2 := by
  have action : event.isCancel = other.isCancel := by
    show event.bare.isCancel = other.bare.isCancel
    rw [bare]
  have track : (event.trackOf first.pointer).map (List.map Moment.bare) =
      (other.trackOf second.pointer).map (List.map Moment.bare) := by
    rw [← event.trackOf_bare, ← other.trackOf_bare, bare, alike.pointer]
  unfold Session.observe
  rw [action]
  by_cases cancelled : other.isCancel = true
  · rw [if_pos cancelled, if_pos cancelled]
    exact ⟨alike.clear ignores, rfl⟩
  · rw [if_neg cancelled, if_neg cancelled]
    rcases map_eq_map_cases track with ⟨one, two⟩ | ⟨moments, others, one, two, bare⟩
    · rw [one, two]
      exact ⟨alike, rfl⟩
    · rw [one, two]
      exact ⟨alike.foldl_take ignores bare, rfl⟩

/-! ### Predictions -/

theorem canPredict (ignores : strategy.IgnoresPressure memory furthest)
    (alike : first.Alike memory furthest second) :
    first.canPredict strategy = second.canPredict strategy := by
  unfold Session.canPredict
  rw [alike.expected?, ignores.isReady alike.memory, alike.rate]

theorem steps (ignores : strategy.IgnoresPressure memory furthest)
    (alike : first.Alike memory furthest second) :
    first.steps strategy = second.steps strategy := by
  unfold Session.steps Session.targetTime
  rw [ignores.horizon alike.memory, alike.target, alike.rate, alike.expected?]

theorem predict (ignores : strategy.IgnoresPressure memory furthest)
    (alike : first.Alike memory furthest second) :
    (first.predict strategy).1.Alike memory furthest (second.predict strategy).1 := by
  unfold Session.predict
  rw [alike.canPredict ignores]
  split
  · refine { alike with furthest := ?_ }
    show furthest (first.forecast strategy).furthest (second.forecast strategy).furthest
    unfold Session.forecast
    rw [alike.rate, alike.steps ignores]
    exact ignores.walk alike.memory alike.furthest _ _
  · exact alike

/-! ### Commands -/

/-- **One command.** -/
theorem apply (ignores : strategy.IgnoresPressure memory furthest)
    (alike : first.Alike memory furthest second) {command other : Command α}
    (same : command.SameMotion other) :
    (first.apply strategy command).1.Alike memory furthest (second.apply strategy other).1 := by
  cases same with
  | setTarget milliseconds => exact { alike with target := rfl }
  | setRate milliseconds =>
    unfold Session.apply answer setRate
    by_cases refused : milliseconds ≤ 0
    · simp only [if_pos refused]
      exact alike
    · simp only [if_neg refused]
      exact { alike with rate := rfl }
  | beginStroke pointer => exact { alike.clear ignores with pointer := rfl }
  | observe bare => exact (alike.observe ignores bare).1
  | predict => exact alike.predict ignores
  | pad prediction other => exact alike

theorem stateAfter (ignores : strategy.IgnoresPressure memory furthest)
    (alike : first.Alike memory furthest second) {commands others : List (Command α)}
    (same : List.Forall₂ Command.SameMotion commands others) :
    (stateAfter (Session.apply strategy) first commands).Alike memory furthest
      (PointerForecast.stateAfter (Session.apply strategy) second others) := by
  induction same generalizing first second with
  | nil => exact alike
  | cons one _ ih => exact ih (alike.apply ignores one)

theorem start (ignores : strategy.IgnoresPressure memory furthest) :
    (Session.start strategy).Alike memory furthest (Session.start strategy) :=
  ⟨rfl, rfl, rfl, ignores.blank, ignores.nowhere⟩

end Alike

/-- Holds of two sessions between which no decision tells: they know the same of target and rate,
handle the same events, and can predict at the same times. -/
structure DecidesAlike (strategy : Strategy α M) (first second : Session α M) : Prop where
  pointer : first.pointer = second.pointer
  target : first.target = second.target
  rate : first.rate = second.rate
  expected? : first.expected? = second.expected?
  handled (event other : MotionEvent α) : event.bare = other.bare →
    (first.observe strategy event).2 = (second.observe strategy other).2
  answered : (first.predict strategy).2.isSome = (second.predict strategy).2.isSome

theorem Alike.decides {strategy : Strategy α M} {memory : M → M → Prop}
    {furthest : Option (Coords α) → Option (Coords α) → Prop} {first second : Session α M}
    (ignores : strategy.IgnoresPressure memory furthest)
    (alike : first.Alike memory furthest second) : first.DecidesAlike strategy second where
  pointer := alike.pointer
  target := alike.target
  rate := alike.rate
  expected? := alike.expected?
  handled _ _ bare := (alike.observe ignores bare).2
  answered := by
    unfold Session.predict
    rw [alike.canPredict ignores]
    split <;> rfl

end Session

/-! ### The walk of the filter -/

/-- States of motion that agree in all but the pressure. -/
structure Kinematics.SameMotion (first second : Kinematics α) : Prop where
  position : first.position = second.position
  velocity : first.velocity = second.velocity
  acceleration : first.acceleration = second.acceleration
  jank : first.jank = second.jank

theorem Kinematics.SameMotion.advance {first second : Kinematics α}
    (same : first.SameMotion second) : first.advance.SameMotion second.advance := by
  obtain ⟨position, velocity, acceleration, jank⟩ := same
  constructor <;> simp only [Kinematics.advance, position, velocity, acceleration, jank]

theorem Kinematics.SameMotion.capPressure {first second : Kinematics α}
    (same : first.SameMotion second) : first.capPressure.SameMotion second.capPressure :=
  ⟨same.position, same.velocity, same.acceleration, same.jank⟩

theorem Kinematics.SameMotion.bare_sample {first second : Kinematics α}
    (same : first.SameMotion second) : first.sample.bare = second.sample.bare := by
  simp only [Kinematics.sample, Coords.bare, same.position]

theorem Tracker.SameMotion.kinematics {first second : Tracker α}
    (same : first.SameMotion second) : first.kinematics.SameMotion second.kinematics := by
  obtain ⟨x, y, _, _⟩ := same
  constructor <;> simp only [Estimator.kinematics, x, y]

/-- Holds if the first walk goes the way of the second one, and ends earlier only where the pointer
is about to lift. -/
def Projection.Follows (first second : Projection α) : Prop :=
  first.samples.map Coords.bare <+: second.samples.map Coords.bare ∧
    (first.lifted = true ∨ first.samples.map Coords.bare = second.samples.map Coords.bare)

theorem Projection.Follows.cons {first second : Projection α} (follows : first.Follows second)
    {passed other : Coords α} (bare : passed.bare = other.bare) :
    Projection.Follows { first with samples := passed :: first.samples }
      { second with samples := other :: second.samples } := by
  obtain ⟨shorter, ended⟩ := follows
  simp only [Projection.Follows, List.map_cons, bare, List.cons_prefix_cons, true_and,
    List.cons.injEq]
  exact ⟨shorter, ended⟩

/-- **Of two walks with the same motion, one follows the other.** -/
theorem project_follows (steps : Nat) {first second : Kinematics α}
    (same : first.SameMotion second) :
    (project steps first).Follows (project steps second) ∨
      (project steps second).Follows (project steps first) := by
  induction steps generalizing first second with
  | zero => exact Or.inl ⟨List.prefix_rfl, Or.inr rfl⟩
  | succ steps ih =>
    have next := same.advance
    unfold project
    -- a lift in either walk ends it at once, before the other one can part from it
    by_cases lift : first.advance.pressure < liftOffPressure
    · simp only [if_pos lift]
      exact Or.inl ⟨List.nil_prefix, Or.inl rfl⟩
    · by_cases other : second.advance.pressure < liftOffPressure
      · simp only [if_pos other]
        exact Or.inr ⟨List.nil_prefix, Or.inl rfl⟩
      · simp only [if_neg lift, if_neg other]
        have bare := next.capPressure.bare_sample
        exact (ih next.capPressure).imp (·.cons bare) (·.cons bare.symm)

/-- The walk that a session with the filter makes to predict. -/
def Session.projection (noise : Noise α) (session : Session α (Tracker α)) : Projection α :=
  project (session.steps (kalman noise))
    { session.memory.kinematics with position := lastPosition session.memory.last }

theorem Session.samples_predict_kalman {noise : Noise α} {session : Session α (Tracker α)}
    {own : Prediction α} (answered : (session.predict (kalman noise)).2 = some own) :
    own.samples = (session.projection noise).samples := by
  unfold Session.predict at answered
  split at answered
  · rw [← Option.some.inj answered]
    rfl
  · cases answered

namespace Session.Alike

theorem projection {noise : Noise α}
    {furthest : Option (Coords α) → Option (Coords α) → Prop}
    {first second : Session α (Tracker α)}
    (ignores : (kalman noise).IgnoresPressure Tracker.SameMotion furthest)
    (alike : first.Alike Tracker.SameMotion furthest second) :
    (first.projection noise).Follows (second.projection noise) ∨
      (second.projection noise).Follows (first.projection noise) := by
  have motion := alike.memory.kinematics
  unfold Session.projection
  rw [alike.steps ignores, lastPosition_congr alike.memory.last]
  exact project_follows _ ⟨rfl, motion.velocity, motion.acceleration, motion.jank⟩

/-! ### Predictions of the extrapolation -/

variable {first second : Session α (Motion α)}

theorem bare_predict_linear (tuning : LinearTuning α)
    (alike : first.Alike Motion.SameMotion
      (fun one two => one.map Coords.bare = two.map Coords.bare) second) :
    (first.predict (linear tuning)).2.map Prediction.bare =
      (second.predict (linear tuning)).2.map Prediction.bare := by
  have ignores := linear_ignoresPressure tuning
  have samples : (first.forecast (linear tuning)).samples.map Coords.bare =
      (second.forecast (linear tuning)).samples.map Coords.bare := by
    unfold Session.forecast
    rw [alike.rate, alike.steps ignores]
    exact (Motion.bare_forecast tuning alike.memory alike.furthest _ _).1
  unfold Session.predict
  rw [alike.canPredict ignores]
  split
  · simp only [Option.map_some, Prediction.bare, alike.pointer, samples]
  · rfl

theorem bare_padding_linear (tuning : LinearTuning α)
    (alike : first.Alike Motion.SameMotion
      (fun one two => one.map Coords.bare = two.map Coords.bare) second) :
    (first.padding (linear tuning)).bare = (second.padding (linear tuning)).bare := by
  have last := lastPosition_congr (alike.last (linear_ignoresPressure tuning))
  unfold Session.padding
  rcases map_eq_map_cases alike.furthest with ⟨one, two⟩ | ⟨point, other, one, two, bare⟩
  · rw [one, two, Option.getD_none, Option.getD_none, last]
    exact bare_boundedSample _ _ _
  · rw [one, two]
    exact bare

theorem bare_pad_linear (tuning : LinearTuning α)
    (alike : first.Alike Motion.SameMotion
      (fun one two => one.map Coords.bare = two.map Coords.bare) second)
    {prediction other : Option (Prediction α)}
    (bare : prediction.map Prediction.bare = other.map Prediction.bare) :
    (first.pad (linear tuning) prediction).map Prediction.bare =
      (second.pad (linear tuning) other).map Prediction.bare := by
  have held : (prediction.map (·.length)).getD 0 = (other.map (·.length)).getD 0 := by
    have counted (one : Option (Prediction α)) :
        ((one.map Prediction.bare).map (·.length)).getD 0 = (one.map (·.length)).getD 0 := by
      cases one <;> simp [Prediction.bare, Prediction.length]
    rw [← counted prediction, ← counted other, bare]
  have begun : (prediction.getD ⟨first.pointer, []⟩).bare =
      (other.getD ⟨second.pointer, []⟩).bare := by
    have defaulted (one : Option (Prediction α)) (pointer : PointerId) :
        (one.getD ⟨pointer, []⟩).bare = (one.map Prediction.bare).getD ⟨pointer, []⟩ := by
      cases one <;> rfl
    rw [defaulted, defaulted, bare, alike.pointer]
  have appended (one : Prediction α) (batch : List (Coords α)) :
      (one.append batch).bare = one.bare.append (batch.map Coords.bare) := by
    simp [Prediction.append, Prediction.bare]
  unfold Session.pad
  rw [alike.expected?]
  cases second.expected? with
  | none => exact bare
  | some expected =>
    dsimp only
    rw [held]
    by_cases full : expected ≤ (other.map (·.length)).getD 0
    · simp only [if_pos full]
      exact bare
    · simp only [if_neg full, Option.map_some, appended, begun, List.map_replicate,
        alike.bare_padding_linear]

end Session.Alike

namespace Session

/-- **Pressure never moves a prediction.** Two runs of commands that are the same apart from the
pressures observed lead to sessions between which no decision tells, and which estimate the same
motion. With the filter one prediction is the other one, or its beginning up to where the pointer is
about to lift; with the extrapolation all positions are the same, also those filled up. -/
theorem pressure_isIgnored (noise : Noise α) (tuning : LinearTuning α)
    {commands others : List (Command α)}
    (same : List.Forall₂ Command.SameMotion commands others) :
    (let strategy := kalman noise
      let first := stateAfter (apply strategy) (start strategy) commands
      let second := stateAfter (apply strategy) (start strategy) others
      first.DecidesAlike strategy second ∧
        first.memory.count = second.memory.count ∧
        first.memory.kinematics.SameMotion second.memory.kinematics ∧
        ∀ own other, (first.predict strategy).2 = some own →
          (second.predict strategy).2 = some other →
          own.samples = (first.projection noise).samples ∧
            other.samples = (second.projection noise).samples ∧
            ((first.projection noise).Follows (second.projection noise) ∨
              (second.projection noise).Follows (first.projection noise))) ∧
    (let strategy := linear tuning
      let first := stateAfter (apply strategy) (start strategy) commands
      let second := stateAfter (apply strategy) (start strategy) others
      first.DecidesAlike strategy second ∧
        first.memory.history.length = second.memory.history.length ∧
        first.memory.velocity = second.memory.velocity ∧
        first.memory.acceleration = second.memory.acceleration ∧
        (first.predict strategy).2.map Prediction.bare =
          (second.predict strategy).2.map Prediction.bare ∧
        ∀ own other, own.map Prediction.bare = other.map Prediction.bare →
          (first.pad strategy own).map Prediction.bare =
            (second.pad strategy other).map Prediction.bare) := by
  refine ⟨?_, ?_⟩
  · intro strategy first second
    have ignores := kalman_ignoresPressure noise
    have alike := (Alike.start ignores).stateAfter ignores same
    refine ⟨alike.decides ignores, alike.memory.count, alike.memory.kinematics, ?_⟩
    intro own other one two
    exact ⟨samples_predict_kalman one, samples_predict_kalman two, alike.projection ignores⟩
  · intro strategy first second
    have ignores := linear_ignoresPressure tuning
    have alike := (Alike.start ignores).stateAfter ignores same
    have history := congrArg List.length alike.memory.1
    rw [List.length_map, List.length_map] at history
    exact ⟨alike.decides ignores, history, alike.memory.2.1, alike.memory.2.2,
      alike.bare_predict_linear tuning, fun _ _ bare => alike.bare_pad_linear tuning bare⟩

/-- Two samples, of which the second is pressed or about to lift. The decisions are the same, and the
extrapolation predicts the same eight positions, although the pressures differ. -/
theorem pressure_isIgnored_lifting :
    let stroke (pressure : Float) : List (Command Float) :=
      [.setTarget 8, .setRate 1, .beginStroke 1,
        .observe ⟨.move, [1], [⟨0, [⟨0, 0, 0.5⟩]⟩, ⟨1, [⟨2, 0, pressure⟩]⟩]⟩]
    let filter := kalman (α := Float) .ink
    let extrapolation := linear (α := Float) .usual
    let own {M : Type} (strategy : Strategy Float M) (pressure : Float) :=
      ((stateAfter (apply strategy) (start strategy) (stroke pressure)).predict strategy).2
    List.Forall₂ Command.SameMotion (stroke 0.5) (stroke 0) ∧
      (own filter 0.5).isSome = (own filter 0).isSome ∧
      (own extrapolation 0.5).map (·.length) = some 8 ∧
      own extrapolation 0.5 ≠ own extrapolation 0 ∧
      (own extrapolation 0.5).map Prediction.bare = (own extrapolation 0).map Prediction.bare := by
  intro stroke filter extrapolation own
  have same : List.Forall₂ Command.SameMotion (stroke 0.5) (stroke 0) :=
    .cons (.setTarget 8) (.cons (.setRate 1) (.cons (.beginStroke 1) (.cons (.observe
      (by simp [MotionEvent.bare, Batch.bare, Coords.bare])) .nil)))
  obtain ⟨⟨decides, _⟩, _, _, _, _, positions, _⟩ := pressure_isIgnored .ink .usual same
  exact ⟨same, decides.answered, by decide +kernel, by decide +kernel, positions⟩

end Session

end PointerForecast
