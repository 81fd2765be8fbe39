/-
**The pressure of a predicted sample.**

A sample on the way of a walk has a pressure from 0.1 to 1. A sample that fills a prediction up has
the pressure where the walk ended, cut off outside `[0, 1]`, and cutting off keeps what is not a
number. Among the pressures of a trace there is no such value, so the extrapolation never predicts
one. The estimate can become one: an infinite pressure is enough. If the filter then walks no step at
all, the samples that fill its prediction up have no pressure from 0 to 1; in every other case all
samples have.

* `inUnit_project`: **the samples on the way**; `isNaN_project`: where a walk ends.
* `Session.inUnit_predictPadded_kalman`, `Session.inUnit_predictPadded_linear`: one prediction.
* `Predictor.pressures_of_loadTrace`: **the pressures in all frames of a replay of a trace.**
-/

import PointerForecast.Proofs.Readiness
import PointerForecast.Proofs.StoredPoint
import PointerForecast.Proofs.TraceNumbers
import PointerForecast.Proofs.Walk

namespace PointerForecast

open Double

/-! ### Samples on the way -/

/-- The pressure of a lift is positive. -/
theorem unpack_liftOffPressure : (liftOffPressure : Float).toModel.unpack =
    .finite .positive 0x1999999999999a (-56) (by decide) := by
  rfl

/-- **Every sample on the way of a walk has a pressure from zero to one.** -/
theorem inUnit_project (steps : Nat) (state : Kinematics Float) :
    ∀ sample ∈ (project steps state).samples, InUnit sample.pressure := by
  intro sample member
  obtain ⟨before, passes, rfl⟩ := Kinematics.exists_of_mem_samples member
  exact inUnit_roundSingle (inUnit_min unpack_liftOffPressure passes)

/-- A walk ends with a pressure that is not a number only where it starts. -/
theorem isNaN_project (steps : Nat) (state : Kinematics Float) :
    (project steps state).pressure.isNaN = (steps == 0 && state.pressure.isNaN) := by
  induction steps generalizing state with
  | zero => rfl
  | succ steps ih =>
    by_cases lifts : state.Lifts
    · rw [Kinematics.project_of_lifts lifts]
      exact (not_isNaN_of_lt lifts).1
    · have capped : state.passed.pressure.isNaN = false := not_isNaN_min _ not_isNaN_one
      have rest := ih state.passed
      rw [capped, Bool.and_false] at rest
      rw [Kinematics.project_of_passes lifts]
      exact rest

/-! ### Samples that fill up -/

theorem inUnit_boundedSample (position : Planar Float) {pressure : Float}
    (number : pressure.isNaN = false) : InUnit (boundedSample position pressure).pressure :=
  inUnit_roundSingle (inUnit_clamp number)

theorem isNaN_boundedSample (position : Planar Float) {pressure : Float}
    (special : pressure.isNaN = true) : (boundedSample position pressure).pressure.isNaN = true := by
  show (roundSingle (Scalar.clamp pressure 0 1)).isNaN = true
  rw [isNaN_roundSingle, clamp_of_isNaN special]
  exact special

/-! ### One prediction -/

namespace Session

/-- Holds of a session that predicts samples without a pressure: the estimated pressure is not a
number, and no step is walked although samples are expected. -/
def lacksPressure (noise : Noise Float) (session : Session Float (Tracker Float)) : Bool :=
  session.expected?.isSome && session.steps (kalman noise) == 0 &&
    session.memory.kinematics.pressure.isNaN

/-- The sample that fills up a prediction by the estimate. -/
theorem padding_kalman (noise : Noise Float) (session : Session Float (Tracker Float)) :
    let padding := { session with furthest := (session.forecast (kalman noise)).furthest }.padding
      (kalman noise)
    if session.steps (kalman noise) == 0 && session.memory.kinematics.pressure.isNaN then
      padding.pressure.isNaN = true
    else InUnit padding.pressure := by
  intro padding
  let walked := project (session.steps (kalman noise))
    { session.memory.kinematics with position := lastPosition session.memory.last }
  have ends : walked.pressure.isNaN =
      (session.steps (kalman noise) == 0 && session.memory.kinematics.pressure.isNaN) :=
    isNaN_project _ _
  have cutOff : padding = boundedSample walked.position walked.pressure := rfl
  rw [cutOff, ← ends]
  by_cases special : walked.pressure.isNaN = true
  · rw [if_pos special]
    exact isNaN_boundedSample _ special
  · rw [if_neg special]
    exact inUnit_boundedSample _ (Bool.eq_false_iff.mpr special)

/-- **The pressures of a prediction by the estimate.** -/
theorem inUnit_predictPadded_kalman {noise : Noise Float} {session : Session Float (Tracker Float)}
    (sound : session.setup.RateIsGiven) {prediction : Prediction Float}
    (answered : (session.predictPadded (kalman noise)).2 = some prediction) :
    if session.lacksPressure noise then ∀ sample ∈ prediction.samples, sample.pressure.isNaN = true
    else ∀ sample ∈ prediction.samples, InUnit sample.pressure := by
  obtain ⟨k, unexpected, samples⟩ := samples_of_predictPadded (kalman noise) sound answered
  have own : ∀ sample ∈ (session.forecast (kalman noise)).samples, InUnit sample.pressure :=
    inUnit_project _ _
  have filling := padding_kalman noise session
  rw [samples]
  by_cases lacks : session.lacksPressure noise = true
  · rw [if_pos lacks]
    obtain ⟨⟨_, still⟩, special⟩ := by simpa only [lacksPressure, Bool.and_eq_true] using lacks
    rw [if_pos (Bool.and_eq_true_iff.mpr ⟨still, special⟩)] at filling
    have none := samples_forecast_of_still (kalman_keepsHorizon noise) (beq_iff_eq.mp still)
    rw [none, List.nil_append]
    intro sample copied
    rw [List.eq_of_mem_replicate copied]
    exact filling
  · rw [if_neg lacks]
    intro sample member
    rcases List.mem_append.mp member with onTheWay | copied
    · exact own sample onTheWay
    · have expecting : session.expected?.isSome = true := by
        cases known : session.expected? with
        | some expected => rfl
        | none => rw [unexpected known] at copied; cases copied
      rw [lacksPressure, Bool.and_assoc, expecting, Bool.true_and] at lacks
      rw [if_neg lacks] at filling
      rw [List.eq_of_mem_replicate copied]
      exact filling

/-- The forecast of an extrapolation, and the sample that fills it up. -/
theorem inUnit_forecast_linear {tuning : LinearTuning Float} {session : Session Float (Motion Float)}
    (renewed : session.IsRenewed (linear tuning))
    (numeric : ∀ moment ∈ session.last (linear tuning), moment.coords.pressure.isNaN = false) :
    let forecast := session.forecast (linear tuning)
    (∀ sample ∈ forecast.samples, InUnit sample.pressure) ∧
      InUnit ({ session with furthest := forecast.furthest }.padding (linear tuning)).pressure := by
  intro forecast
  cases known : session.last (linear tuning) with
  | none =>
    have nothing : forecast = ⟨[], none⟩ := forecast_of_no_last renewed known
    rw [nothing]
    refine ⟨nofun, inUnit_boundedSample _ ?_⟩
    rw [linear_restPressure_of_none tuning known]
    exact not_isNaN_zero
  | some last =>
    have number := numeric last known
    have walked : forecast = _ := forecast_of_last known
    have own : ∀ sample ∈ forecast.samples, InUnit sample.pressure := by
      rw [walked]
      intro sample member
      obtain ⟨step, _, rfl⟩ := List.mem_map.mp member
      exact inUnit_boundedSample _ number
    refine ⟨own, ?_⟩
    unfold padding
    cases furthest : forecast.furthest with
    | some reached =>
      refine own reached ?_
      rw [walked] at furthest ⊢
      exact List.mem_of_getLast? furthest
    | none =>
      refine inUnit_boundedSample _ ?_
      rw [linear_restPressure_of_some tuning known]
      exact number

/-- **The pressures of a prediction by extrapolation.** -/
theorem inUnit_predictPadded_linear {tuning : LinearTuning Float}
    {session : Session Float (Motion Float)} (sound : session.setup.RateIsGiven)
    (renewed : session.IsRenewed (linear tuning))
    (numeric : ∀ moment ∈ session.last (linear tuning), moment.coords.pressure.isNaN = false)
    {prediction : Prediction Float}
    (answered : (session.predictPadded (linear tuning)).2 = some prediction) :
    ∀ sample ∈ prediction.samples, InUnit sample.pressure := by
  obtain ⟨k, _, samples⟩ := samples_of_predictPadded (linear tuning) sound answered
  obtain ⟨own, filling⟩ := inUnit_forecast_linear renewed numeric
  rw [samples]
  intro sample member
  rcases List.mem_append.mp member with onTheWay | copied
  · exact own sample onTheWay
  · rw [List.eq_of_mem_replicate copied]
    exact filling

end Session

/-! ### All predictions of a replay -/

namespace Predictor

/-- Holds of a predictor that predicts samples without a pressure. -/
def lacksPressure : Predictor Float → Bool
  | .kalman noise session => session.lacksPressure noise
  | .linear _ _ => false

theorem prediction_step {predictor : Predictor Float} {event : MotionEvent Float}
    {prediction : Prediction Float}
    (answered : (predictor.step event).2.prediction = some prediction) :
    (predictor.record event).1.predict.2 = some prediction := by
  rw [step_eq] at answered
  split at answered
  · exact answered
  · cases answered

/-- **The pressures in all frames of a replay.** Whatever settings are accepted and whatever trace is
loaded, a prediction holds pressures from zero to one, with one exception: where samples are expected
of an estimated pressure that is not a number and the filter walks no step, none of the predicted
pressures is a number. -/
theorem pressures_of_loadTrace {settings : Settings Float} (accepted : settings.fault? = none)
    {path : String} {content : FileContent} {events : List (MotionEvent Float)}
    (loaded : loadTrace path content = .ok events) :
    ∃ start, ofSettings settings.predictor = .ok start ∧
      ∀ before event after, events = before ++ event :: after →
        let recorded := ((start.run before).1.record event).1
        ∃ frame, (start.replay events).frames[before.length]? = some frame ∧
          ∀ prediction, frame.prediction = some prediction →
            if recorded.lacksPressure then
              ∀ sample ∈ prediction.samples, sample.pressure.isNaN = true
            else ∀ sample ∈ prediction.samples, 0 ≤ sample.pressure ∧ sample.pressure ≤ 1 := by
  obtain ⟨start, built⟩ := ofSettings_of_accepted accepted
  refine ⟨start, built, ?_⟩
  rintro before event after rfl recorded
  refine ⟨_, frame_replay start before event after, fun prediction answered => ?_⟩
  have predicted : recorded.predict.2 = some prediction := prediction_step answered
  have point : recorded = stateAfter serve start (start.commandsUntil before event) :=
    record_run start before event
  have sound := rateIsGiven_stateAfter (rateIsGiven_ofSettings built)
    (start.commandsUntil before event)
  have renewed := (IsRenewed.ofSettings built).stateAfter (start.commandsUntil before event)
  have numeric := isNumeric_of_loadTrace loaded
  clear_value recorded
  subst point
  rcases ofSettings_eq_ok built with ⟨_, session, configured, rfl⟩ | ⟨_, session, configured, rfl⟩
  · rw [stateAfter_kalman] at sound predicted ⊢
    exact Session.inUnit_predictPadded_kalman sound predicted
  · rw [stateAfter_linear] at sound renewed predicted ⊢
    refine Session.inUnit_predictPadded_linear sound renewed (fun moment last => ?_) predicted
    have follows := Session.Follows.replayed configured (.linear settings.predictor.linear session)
      before event
    rw [follows.last] at last
    have fore : before ++ event :: after = (before ++ [event]) ++ after := by
      rw [List.append_assoc, List.singleton_append]
    rw [fore] at numeric
    exact (Chronicle.forall_current (P := Coords.IsNumeric)
      (fun other member => numeric other (List.mem_append_left after member)) moment
      (List.mem_of_getLast? last)).2.2

/-! ### A trace of infinite pressures -/

/-- The usual settings with a rate. -/
def paced : Settings Float :=
  { (Settings.usual : Settings Float) with
    predictor := { PredictorSettings.usual with rate? := some 8 } }

/-- The text of a contact and a move in the same place, with a pressure beyond single precision. -/
def heavyText : String :=
  "[[\"down\",[0],[[0,[[0,0,1e39]]]]],[\"move\",[0],[[30,[[0,0,1e39]]]]]]"

/-- The contact of that text. -/
def heavyContact : MotionEvent Float := ⟨.down, [0], [⟨0, [⟨0, 0, 1 / 0⟩]⟩]⟩

/-- The move of that text. -/
def heavyMove : MotionEvent Float := ⟨.move, [0], [⟨30, [⟨0, 0, 1 / 0⟩]⟩]⟩

theorem loadTrace_heavyText :
    loadTrace "heavy.json" (.ok heavyText.toUTF8) = .ok [heavyContact, heavyMove] :=
  eq_ok_of_toOption (by decide +kernel)

/-- After the contact, the pressures are cut off at one. After the move, there are none. -/
theorem pressures_of_loadTrace_heavyText :
    ∃ start contact move, ofSettings paced.predictor = .ok start ∧
      (start.replay [heavyContact, heavyMove]).frames[0]? = some contact ∧
      (start.replay [heavyContact, heavyMove]).frames[1]? = some move ∧
      (∀ prediction ∈ contact.prediction,
        ∀ sample ∈ prediction.samples, 0 ≤ sample.pressure ∧ sample.pressure ≤ 1) ∧
      ∀ prediction ∈ move.prediction,
        ∀ sample ∈ prediction.samples, sample.pressure.isNaN = true := by
  have accepted : paced.fault? = none := rfl
  obtain ⟨start, built, frames⟩ := pressures_of_loadTrace accepted loadTrace_heavyText
  obtain ⟨contact, first, early⟩ := frames [] heavyContact [heavyMove] rfl
  obtain ⟨move, second, late⟩ := frames [heavyContact] heavyMove [] rfl
  have lacks : ∃ same, ofSettings paced.predictor = .ok same ∧
      ((same.run []).1.record heavyContact).1.lacksPressure = false ∧
      ((same.run [heavyContact]).1.record heavyMove).1.lacksPressure = true :=
    ⟨_, rfl, by decide +kernel, by decide +kernel⟩
  obtain ⟨same, again, clipped, missing⟩ := lacks
  obtain rfl := Except.ok.inj (built.symm.trans again)
  simp only [clipped, Bool.false_eq_true, if_false] at early
  simp only [missing, if_true] at late
  exact ⟨start, contact, move, built, first, second, early, late⟩

/-- **Not every predicted pressure lies between zero and one.** -/
theorem pressure_leaves_unit :
    ¬ ∀ (settings : Settings Float) (path : String) (content : FileContent)
      (events : List (MotionEvent Float)) (start : Predictor Float), settings.fault? = none →
      loadTrace path content = .ok events → ofSettings settings.predictor = .ok start →
      ∀ frame ∈ (start.replay events).frames, ∀ prediction ∈ frame.prediction,
        ∀ sample ∈ prediction.samples, 0 ≤ sample.pressure ∧ sample.pressure ≤ 1 := by
  intro claim
  have bounds := claim paced _ _ _ _ rfl loadTrace_heavyText rfl
  revert bounds
  decide +kernel

end Predictor

end PointerForecast
