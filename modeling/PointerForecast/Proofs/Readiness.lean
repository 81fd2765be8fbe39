/-
**When a predictor is ready.**

A predictor to which no rate was ever given estimates the rate from what it has observed: it is the
mean of the first differences in time, taken over all strokes and kept once enough of them were seen.
Such a predictor predicts if and only if time can be divided by that rate and the current stroke is
long enough for its strategy. Both can be read off the chronicle of the run.

* `ReportRate.foldl_record`: the differences that an estimate rests on.
* `Estimator.foldl_absorb`, `Motion.length_foldl_absorb`: what each strategy remembers of a stroke.
* `kalman_isReady_iff`, `linear_isReady_iff`: how long a stroke each strategy needs.
* `Predictor.isReady_stateAfter`: **the rate and the readiness after any run.**
-/

import PointerForecast.Proofs.Chronicle
import PointerForecast.Proofs.FixedLength
import PointerForecast.Proofs.Lockstep
import Mathlib.Data.List.Induction

namespace PointerForecast

variable {α M : Type} [Scalar α]

/-! ### The estimated rate -/

namespace ReportRate

/-- **An estimate rests on the first differences**, and on no others once there are enough. -/
theorem foldl_record (deltas : List α) :
    deltas.foldl record .unknown =
      if deltas.length < capacity then .accumulating deltas
      else .capped (Scalar.mean (deltas.take capacity)) := by
  induction deltas using List.reverseRecOn with
  | nil => rfl
  | append_singleton before delta ih =>
    rw [List.foldl_append, List.foldl_cons, List.foldl_nil, ih, List.length_append,
      List.length_singleton]
    by_cases few : before.length < capacity
    · rw [if_pos few, record_accumulating]
      by_cases enough : before.length + 1 = capacity
      · have whole : (before ++ [delta]).take capacity = before ++ [delta] :=
          List.take_of_length_le (by rw [List.length_append, List.length_singleton]; omega)
        rw [if_pos enough, if_neg (by omega), whole]
      · rw [if_neg enough, if_pos (by omega)]
    · rw [if_neg few, if_neg (by omega), List.take_append_of_le_length (by omega)]
      rfl

theorem milliseconds_foldl_record (deltas : List α) :
    (deltas.foldl record .unknown).milliseconds = Scalar.mean (deltas.take capacity) := by
  rw [foldl_record]
  by_cases few : deltas.length < capacity
  · rw [if_pos few, List.take_of_length_le (Nat.le_of_lt few)]
    rfl
  · rw [if_neg few]
    rfl

/-- A rate that was given stays, and observing gives none. -/
theorem given?_foldl_record (initial : ReportRate α) (deltas : List α) :
    (deltas.foldl record initial).given? = initial.given? := by
  induction deltas generalizing initial with
  | nil => rfl
  | cons delta rest ih => rw [List.foldl_cons, ih, Session.given?_record]

end ReportRate

/-! ### The memory of a stroke -/

/-- The channel after some measurements: the first one places the observed state, and every later
one is followed. -/
def Channel.track {n : Nat} (model : ChannelModel α n) : List α → Channel α n
  | [] => .blank
  | first :: rest => rest.foldl (follow model) (blank.seed first)

/-- **The estimate of a stroke** tracks its coordinates. -/
theorem Estimator.foldl_absorb (noise : Noise α) (samples : List (Coords α)) :
    samples.foldl (absorb noise) blank =
      { x := .track (axisModel noise) (samples.map (·.x))
        y := .track (axisModel noise) (samples.map (·.y))
        pressure := .track (pressureModel noise) (samples.map (·.pressure))
        count := samples.length } := by
  induction samples using List.reverseRecOn with
  | nil => rfl
  | append_singleton before sample ih =>
    rw [List.foldl_append, ih, List.foldl_cons, List.foldl_nil]
    cases before with
    | nil => rfl
    | cons first rest =>
      have started : rest.length + 1 ≠ 0 := Nat.succ_ne_zero _
      unfold absorb
      simp only [if_neg started, List.cons_append, List.map_append, List.map_cons, List.map_nil,
        Channel.track, List.foldl_append, List.foldl_cons, List.foldl_nil, List.length_cons,
        List.length_append, List.length_nil, Nat.zero_add]

/-- The sample kept beside the estimate has no part in it. -/
theorem Tracker.toEstimator_foldl_absorb (noise : Noise α) (tracker : Tracker α)
    (moments : List (Moment α)) :
    (moments.foldl (absorb noise) tracker).toEstimator =
      (moments.map Moment.coords).foldl (Estimator.absorb noise) tracker.toEstimator := by
  induction moments generalizing tracker with
  | nil => rfl
  | cons moment rest ih => exact ih (tracker.absorb noise moment)

theorem Motion.length_foldl_absorb (tuning : LinearTuning α) (motion : Motion α)
    (kept : motion.history.length ≤ depth tuning) (moments : List (Moment α)) :
    (moments.foldl (absorb tuning) motion).history.length =
      min (depth tuning) (motion.history.length + moments.length) := by
  induction moments generalizing motion with
  | nil => exact (Nat.min_eq_right kept).symm
  | cons moment rest ih =>
    have length := length_absorb tuning motion moment
    rw [List.foldl_cons, ih _ (by omega), length, List.length_cons]
    omega

/-- The estimate needs four samples. -/
theorem kalman_isReady_iff (noise : Noise α) (moments : List (Moment α)) :
    (kalman noise).isReady (moments.foldl (kalman noise).absorb (kalman noise).blank) = true ↔
      4 ≤ moments.length := by
  show Estimator.isConverged (moments.foldl (Tracker.absorb noise) .blank).toEstimator = true ↔ _
  rw [Tracker.toEstimator_foldl_absorb]
  show Estimator.isConverged (_ : Estimator α) = true ↔ _
  rw [show (Tracker.blank : Tracker α).toEstimator = .blank from rfl, Estimator.foldl_absorb]
  unfold Estimator.isConverged
  rw [List.length_map]
  exact decide_eq_true_iff

/-- The extrapolation needs three samples. -/
theorem linear_isReady_iff (tuning : LinearTuning α) (moments : List (Moment α)) :
    (linear tuning).isReady (moments.foldl (linear tuning).absorb (linear tuning).blank) = true ↔
      3 ≤ moments.length := by
  have length := Motion.length_foldl_absorb tuning .blank (Nat.zero_le _) moments
  have least := Motion.leastHistory_le_depth tuning
  rw [show (Motion.blank : Motion α).history.length = 0 from rfl, Nat.zero_add] at length
  refine decide_eq_true_iff.trans ?_
  show Motion.leastHistory ≤ (moments.foldl (Motion.absorb tuning) .blank).history.length ↔ _
  rw [length]
  unfold Motion.leastHistory at *
  omega

/-! ### One session -/

namespace Session

variable {strategy : Strategy α M} {session : Session α M} {chronicle : Chronicle α}

theorem isSome_predict (strategy : Strategy α M) (session : Session α M) :
    (session.predict strategy).2.isSome = session.canPredict strategy := by
  unfold predict
  by_cases able : session.canPredict strategy = true
  · rw [if_pos able, able]
    rfl
  · rw [if_neg able, Bool.eq_false_iff.mpr able]
    rfl

theorem isSome_expected? (session : Session α M) :
    session.expected?.isSome = session.rate.given?.isSome := by
  rw [expected?_eq_map, Option.isSome_map]
  rfl

/-- Nothing is padded as long as no rate was given. -/
theorem predictPadded_of_unexpected (unexpected : session.expected? = none) :
    (session.predictPadded strategy).2 = (session.predict strategy).2 := by
  show (session.predict strategy).1.pad strategy (session.predict strategy).2 = _
  unfold pad
  rw [expected?_predict, unexpected]

namespace Follows

theorem milliseconds (follows : session.Follows strategy .unknown chronicle) :
    session.rate.milliseconds = Scalar.mean (chronicle.differences.take 20) := by
  rw [follows.rate]
  exact ReportRate.milliseconds_foldl_record chronicle.differences

theorem isSome_expected? {initial : ReportRate α}
    (follows : session.Follows strategy initial chronicle) :
    session.expected?.isSome = initial.given?.isSome := by
  rw [Session.isSome_expected?, follows.rate, ReportRate.given?_foldl_record]

/-- **A session can predict if its rate can be used, and was given or the stroke is long enough.** -/
theorem isSome_predict {initial : ReportRate α}
    (follows : session.Follows strategy initial chronicle) {least : Nat}
    (needs : ∀ moments : List (Moment α),
      strategy.isReady (moments.foldl strategy.absorb strategy.blank) = true ↔
        least ≤ moments.length) :
    (session.predict strategy).2.isSome ↔
      (initial.given?.isSome = true ∨ least ≤ chronicle.current.length) ∧
        session.rate.isUsable = true := by
  rw [Session.isSome_predict, canPredict, follows.isSome_expected?, Bool.and_eq_true,
    Bool.or_eq_true, follows.memory, needs]

/-- **Without a rate that was given**, that decides whether anything is predicted. -/
theorem isSome_predictPadded (follows : session.Follows strategy .unknown chronicle) {least : Nat}
    (needs : ∀ moments : List (Moment α),
      strategy.isReady (moments.foldl strategy.absorb strategy.blank) = true ↔
        least ≤ moments.length) :
    (session.predictPadded strategy).2.isSome ↔
      (Scalar.isFinite session.rate.milliseconds = true ∧ 0 < session.rate.milliseconds) ∧
        least ≤ chronicle.current.length := by
  have unexpected : session.expected? = none := by
    rw [← Option.not_isSome_iff_eq_none, follows.isSome_expected?]
    exact Bool.false_ne_true
  have adaptive : ¬ (ReportRate.unknown : ReportRate α).given?.isSome = true := Bool.false_ne_true
  rw [predictPadded_of_unexpected unexpected, follows.isSome_predict needs, ReportRate.isUsable,
    Bool.and_eq_true, decide_eq_true_iff, or_iff_right adaptive]
  exact And.comm

end Follows

end Session

/-! ### After any run -/

namespace Predictor

/-- **The rate and the readiness after any run** to which no rate is given. The rate is the mean of
the first twenty differences in time between consecutive samples of the same stroke, summed from left
to right, and zero without any. A prediction is answered if and only if that is positive and finite
and the current stroke has four samples, or three for the extrapolation. -/
theorem isReady_stateAfter {settings : PredictorSettings α} {start : Predictor α}
    (built : ofSettings settings = .ok start) (adaptive : settings.rate? = none)
    {commands : List (Command α)} (silent : ∀ command ∈ commands, command.rate? = none) :
    let predictor := stateAfter serve start commands
    let chronicle := Chronicle.ofRun commands
    let differences := chronicle.differences
    let rate := predictor.rate.milliseconds
    let least := match settings.strategy with
      | .kalman => 4
      | .linear => 3
    rate = (if differences.length = 0 then 0
        else Scalar.sum (differences.take 20) / ((min 20 differences.length : Nat) : Int)) ∧
      (predictor.predict.2.isSome ↔
        (Scalar.isFinite rate = true ∧ 0 < rate) ∧ least ≤ chronicle.current.length) := by
  intro predictor chronicle differences rate least
  have mean : Scalar.mean (differences.take 20) = if differences.length = 0 then 0
      else Scalar.sum (differences.take 20) / ((min 20 differences.length : Nat) : Int) := by
    rw [← List.length_take]
    cases differences <;> rfl
  rw [← mean]
  have unknown : settings.initialRate = .unknown := by
    unfold PredictorSettings.initialRate
    rw [adaptive]
  rcases ofSettings_eq_ok built with
    ⟨chosen, session, configured, rfl⟩ | ⟨chosen, session, configured, rfl⟩
  · have follows := unknown ▸ Session.Follows.configured configured silent
    have asked : predictor = .kalman settings.noise _ := stateAfter_kalman _ session commands
    simp only [least, rate, chosen, asked]
    exact ⟨follows.milliseconds, follows.isSome_predictPadded (kalman_isReady_iff settings.noise)⟩
  · have follows := unknown ▸ Session.Follows.configured configured silent
    have asked : predictor = .linear settings.linear _ := stateAfter_linear _ session commands
    simp only [least, rate, chosen, asked]
    exact ⟨follows.milliseconds, follows.isSome_predictPadded (linear_isReady_iff settings.linear)⟩

/-- Two strokes of two and three samples, 8 and 12 ms apart; a repetition in the first one does not
count. The rate is the mean of three differences, and the extrapolation predicts. -/
theorem isReady_stateAfter_two :
    let settings : PredictorSettings Float := { PredictorSettings.usual with strategy := .linear }
    let first : MotionEvent Float :=
      ⟨.down, [1], [⟨0, [⟨1, 2, 0.5⟩]⟩, ⟨8, [⟨3, 4, 0.5⟩]⟩, ⟨9, [⟨3, 4, 0.5⟩]⟩]⟩
    let second : MotionEvent Float :=
      ⟨.down, [4], [⟨50, [⟨7, 7, 0.5⟩]⟩, ⟨62, [⟨8, 7, 0.5⟩]⟩, ⟨74, [⟨9, 7, 0.5⟩]⟩]⟩
    let commands : List (Command Float) := [.observe first, .predict, .observe second]
    ∃ start, ofSettings settings = .ok start ∧
      (stateAfter serve start commands).rate.milliseconds = (8 + 12 + 12) / 3 ∧
      (stateAfter serve start commands).predict.2.isSome := by
  intro settings first second commands
  obtain ⟨start, built⟩ : ∃ start, ofSettings settings = .ok start := ⟨_, rfl⟩
  have silent : ∀ command ∈ commands, command.rate? = none := by simp [commands, Command.rate?]
  obtain ⟨rate, ready⟩ := isReady_stateAfter built rfl silent
  have differences : (Chronicle.ofRun commands).differences = [8, 12, 12] := by decide +kernel
  have current : (Chronicle.ofRun commands).current.length = 3 := by decide +kernel
  rw [differences] at rate
  rw [current, rate] at ready
  refine ⟨start, built, ?_, ready.mpr ?_⟩
  · rw [rate]
    decide +kernel
  · decide +kernel

end Predictor

end PointerForecast
