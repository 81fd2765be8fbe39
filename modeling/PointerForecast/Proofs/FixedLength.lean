/-
**With an explicit rate, a prediction has a fixed length.**

Once a rate was given, by the settings or by a command, every prediction of a predictor holds as many
samples as the target takes at that rate, rounded up. The samples of the strategy come first, and one
sample, repeated, fills what is missing. Nothing that happened before matters for the length: no
sample may have been accepted, or the strategy may walk fewer steps.

* `length_project_le`, `kalman_keepsHorizon`, `linear_keepsHorizon`: no strategy walks further than
  it is asked to.
* `Session.pad_of_expected?`, `Session.samples_of_predictPadded`: what padding adds to a prediction.
* `Session.predictPadded_of_expected?`: the law for one session.
* `Predictor.predict_fixedLength`: **the law after any run.**
-/

import PointerForecast.Proofs.ExplicitRate
import PointerForecast.Proofs.Walk

namespace PointerForecast

variable {α M : Type} [Scalar α]

/-! ### No strategy walks further than it is asked to -/

/-- Holds of a strategy that never walks more steps than it is asked to. -/
def Strategy.KeepsHorizon (strategy : Strategy α M) : Prop :=
  ∀ memory stored rate steps, (strategy.walk memory stored rate steps).samples.length ≤ steps

theorem length_project_le (steps : Nat) (state : Kinematics α) :
    (project steps state).samples.length ≤ steps := by
  obtain ⟨count, stops, same⟩ := Kinematics.exists_stops steps state
  rw [same, Kinematics.length_walked]
  exact stops.le

theorem kalman_keepsHorizon (noise : Noise α) : (kalman noise).KeepsHorizon :=
  fun _ _ _ steps => length_project_le steps _

theorem linear_keepsHorizon (tuning : LinearTuning α) : (linear tuning).KeepsHorizon := by
  intro motion stored rate steps
  cases known : motion.history.head? with
  | none =>
    rw [linear_walk_of_none tuning known]
    exact Nat.zero_le steps
  | some last => rw [linear_walk_of_some tuning known, Motion.walk, List.length_map, List.length_range]

/-! ### One prediction -/

namespace Session

variable (strategy : Strategy α M)

theorem steps_le {session : Session α M} {expected : Nat}
    (known : session.expected? = some expected) : session.steps strategy ≤ expected := by
  unfold steps
  rw [known]
  exact Nat.min_le_right _ _

/-- A walk of no step passes no sample. -/
theorem samples_forecast_of_still {strategy : Strategy α M} (keeps : strategy.KeepsHorizon)
    {session : Session α M} (still : session.steps strategy = 0) :
    (session.forecast strategy).samples = [] := by
  have short : (session.forecast strategy).samples.length ≤ session.steps strategy :=
    keeps _ _ _ _
  rw [still] at short
  exact List.eq_nil_of_length_eq_zero (Nat.le_zero.mp short)

theorem expected?_predict (session : Session α M) :
    (session.predict strategy).1.expected? = session.expected? := by
  unfold predict
  split <;> rfl

/-- **Padding a prediction** appends copies of one sample, none if it is long enough. -/
theorem pad_of_expected? {session : Session α M} {expected : Nat}
    (known : session.expected? = some expected) (prediction : Prediction α) :
    session.pad strategy (some prediction) = some (prediction.append
      (List.replicate (expected - prediction.length) (session.padding strategy))) := by
  unfold pad
  rw [known]
  simp only [Option.map_some, Option.getD_some]
  by_cases full : expected ≤ prediction.length
  · rw [if_pos full, Nat.sub_eq_zero_of_le full, List.replicate_zero]
    simp [Prediction.append]
  · rw [if_neg full]

/-- The prediction of a session that can predict: the strategy's samples, and copies of the furthest
point. -/
theorem predictPadded_of_ready {session : Session α M}
    (ready : session.canPredict strategy = true) :
    let forecast := session.forecast strategy
    (session.predictPadded strategy).2 = some ⟨session.pointer, forecast.samples ++
      List.replicate (session.expected?.getD 0 - forecast.samples.length)
        (forecast.furthest.getD (boundedSample (lastPosition (session.last strategy))
          (strategy.restPressure session.memory)))⟩ := by
  intro forecast
  have own : session.predict strategy = ({ session with furthest := forecast.furthest },
      some ⟨session.pointer, forecast.samples⟩) := by
    unfold predict
    rw [if_pos ready]
  have unchanged := expected?_predict strategy session
  unfold predictPadded
  rw [own] at unchanged ⊢
  cases known : session.expected? with
  | none =>
    rw [known] at unchanged
    simp [pad, unchanged]
  | some expected =>
    rw [known] at unchanged
    exact pad_of_expected? strategy unchanged _

/-- **What a prediction holds**: the samples of the strategy and, if samples are expected, copies of
the one that fills up. -/
theorem samples_of_predictPadded [Scalar.HoldsRates α] {session : Session α M}
    (sound : session.setup.RateIsGiven) {prediction : Prediction α}
    (answered : (session.predictPadded strategy).2 = some prediction) :
    ∃ k, (session.expected? = none → k = 0) ∧
      prediction.samples = (session.forecast strategy).samples ++
        List.replicate k
          ({ session with furthest := (session.forecast strategy).furthest }.padding strategy) := by
  by_cases ready : session.canPredict strategy = true
  · rw [predictPadded_of_ready strategy ready] at answered
    obtain rfl := Option.some.inj answered
    refine ⟨_, fun unexpected => ?_, rfl⟩
    rw [unexpected, Option.getD_none, Nat.zero_sub]
  · rw [predictPadded_of_waiting strategy sound ready] at answered
    cases answered

/-- **The fixed length of one prediction**: the strategy's own samples and copies of one sample. -/
theorem predictPadded_of_expected? [Scalar.HoldsRates α] (keeps : strategy.KeepsHorizon)
    {session : Session α M} (sound : session.setup.RateIsGiven) {expected : Nat}
    (known : session.expected? = some expected) :
    ∃ own padding, (session.predict strategy).2 = some own ∧ own.pointer = session.pointer ∧
      own.length ≤ expected ∧
      (session.predictPadded strategy).2 =
        some (own.append (List.replicate (expected - own.length) padding)) := by
  have ready := canPredict_of_expected? strategy sound known
  let own : Prediction α := ⟨session.pointer, (session.forecast strategy).samples⟩
  have answered : (session.predict strategy).2 = some own := by
    unfold predict
    rw [if_pos ready]
  have fits : own.length ≤ expected := (keeps _ _ _ _).trans (steps_le strategy known)
  have padded := predictPadded_of_ready strategy ready
  rw [known] at padded
  exact ⟨own, _, answered, rfl, fits, padded⟩

end Session

/-! ### After any run -/

namespace Predictor

/-- The prediction of the strategy itself, not filled up. -/
def ownPrediction : Predictor α → Option (Prediction α)
  | .kalman noise session => (session.predict (PointerForecast.kalman noise)).2
  | .linear tuning session => (session.predict (PointerForecast.linear tuning)).2

theorem predict_of_given [Scalar.HoldsRates α] {predictor : Predictor α}
    (sound : predictor.setup.RateIsGiven) {rate : α} (given : predictor.setup.rate? = some rate) :
    ∃ own padding, predictor.ownPrediction = some own ∧ own.pointer = predictor.setup.pointer ∧
      own.length ≤ Scalar.ceilNat ((predictor.setup.target.toInt : α) / rate) ∧
      predictor.predict.2 = some (own.append (List.replicate
        (Scalar.ceilNat ((predictor.setup.target.toInt : α) / rate) - own.length) padding)) := by
  cases predictor with
  | kalman noise session =>
    exact Session.predictPadded_of_expected? _ (kalman_keepsHorizon noise) sound
      (Session.expected?_of_given given)
  | linear tuning session =>
    exact Session.predictPadded_of_expected? _ (linear_keepsHorizon tuning) sound
      (Session.expected?_of_given given)

/-- **The fixed length of every prediction.** After any run of a predictor that was ever given a
rate, a prediction is answered. It is about the tracked pointer and holds exactly the samples that
the latest target, a negative one counted as zero, takes at the latest rate: first the strategy's
own, never more than that, then copies of one sample. -/
theorem predict_fixedLength {settings : PredictorSettings Float} {start : Predictor Float}
    (built : ofSettings settings = .ok start) (commands : List (Command Float)) {rate : Int32}
    (given : (latest? Command.rate? commands).or settings.rate? = some rate) :
    let predictor := stateAfter serve start commands
    let target := (latest? Command.target? commands).getD settings.target
    let expected := Scalar.ceilNat (((max 0 target.toInt : Int) : Float) / (rate.toInt : Float))
    ∃ own prediction padding, predictor.ownPrediction = some own ∧
      predictor.predict.2 = some prediction ∧
      prediction.pointer = (latest? Command.pointer? commands).getD 0 ∧
      prediction.length = expected ∧ own.length ≤ expected ∧
      prediction.samples = own.samples ++ List.replicate (expected - own.length) padding := by
  intro predictor target expected
  obtain ⟨setup, _⟩ := setup_ofSettings built
  have sound : predictor.setup.RateIsGiven :=
    rateIsGiven_stateAfter (rateIsGiven_ofSettings built) commands
  have pointer : predictor.setup.pointer = (latest? Command.pointer? commands).getD 0 := by
    rw [pointer_stateAfter, setup]
  have targets : predictor.setup.target = targetInForce target := by
    rw [target_stateAfter, setup]
    cases asked : latest? Command.target? commands <;> simp only [target, asked] <;> rfl
  have rates : predictor.setup.rate? = some (rate.toInt : Float) := by
    rw [given?_stateAfter, setup, ← Option.map_or, given]
    rfl
  obtain ⟨own, padding, answered, tracked, fits, padded⟩ := predict_of_given sound rates
  rw [targets, toInt_targetInForce] at fits padded
  refine ⟨own, _, padding, answered, padded, tracked.trans pointer, ?_, fits, rfl⟩
  show (own.samples ++ List.replicate _ _).length = _
  rw [List.length_append, List.length_replicate]
  exact Nat.add_sub_of_le fits

/-- A contact of pointer 4 without samples, at a target of 30 ms: the rate of 7 ms stays, since one
of 0 ms is refused, and five samples are predicted. -/
theorem predict_fixedLength_five :
    let settings : PredictorSettings Float := { PredictorSettings.usual with rate? := some 8 }
    let commands : List (Command Float) :=
      [.setTarget 30, .setRate 7, .setRate 0, .observe ⟨.down, [4], []⟩]
    ∃ start, ofSettings settings = .ok start ∧
      (latest? Command.rate? commands).or settings.rate? = some 7 ∧
      ∃ prediction, (stateAfter serve start commands).predict.2 = some prediction ∧
        prediction.pointer = 4 ∧ prediction.length = 5 := by
  intro settings commands
  obtain ⟨start, built⟩ : ∃ start, ofSettings settings = .ok start := ⟨_, rfl⟩
  have given : (latest? Command.rate? commands).or settings.rate? = some 7 := rfl
  obtain ⟨own, prediction, padding, _, answered, pointer, length, _, _⟩ :=
    predict_fixedLength built commands given
  exact ⟨start, built, given, prediction, answered, pointer, length.trans (by decide)⟩

end Predictor

end PointerForecast
