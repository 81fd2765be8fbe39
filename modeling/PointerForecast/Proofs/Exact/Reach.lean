/-
**How far an extrapolation reaches.**

In exact arithmetic, a displacement that is longer than the greatest distance is scaled down to it. Its
length is then more than that distance, which accepted settings make positive, so nothing is divided by
zero. Every sample of the walk is therefore in reach of the position accepted last, however many steps
are walked and however fast the pointer is. What fills a prediction up is the last sample of the same
walk, or the accepted position itself: a prediction never reads the point that an older one led to.

* `Planar.norm_scale`, `Motion.norm_displacement_le`: **one displacement.**
* `LinearTuning.Reaches`: the samples in reach; `Motion.reaches_walk`: **the walk.**
* `Session.reaches_predictPadded`: **one prediction.**
* `Predictor.predict_staysInReach`: **after any run of an accepted predictor.**
-/

import PointerForecast.Proofs.Exact.Translation

namespace PointerForecast

/-! ### One displacement -/

/-- The length of a scaled vector. -/
theorem Planar.norm_scale (v : Planar ℝ) {s : ℝ} (nonneg : 0 ≤ s) : (v * s).norm = v.norm * s := by
  have scaled : (v.x * s) * (v.x * s) + (v.y * s) * (v.y * s) =
      (v.x * v.x + v.y * v.y) * s ^ 2 := by ring
  show Real.sqrt ((v.x * s) * (v.x * s) + (v.y * s) * (v.y * s)) =
    Real.sqrt (v.x * v.x + v.y * v.y) * s
  rw [scaled, Real.sqrt_mul' _ (sq_nonneg s), Real.sqrt_sq nonneg]

/-- A longer vector, scaled down to a length. -/
theorem Planar.norm_shortened {v : Planar ℝ} {length : ℝ} (nonneg : 0 ≤ length)
    (longer : length < v.norm) : (v * (length / v.norm)).norm = length := by
  have positive : 0 < v.norm := nonneg.trans_lt longer
  rw [norm_scale v (div_nonneg nonneg positive.le), mul_div_cancel₀ length positive.ne']

/-- **No displacement is longer than the greatest distance.** -/
theorem Motion.norm_displacement_le {tuning : LinearTuning ℝ} (positive : 0 < tuning.maxDistance)
    (motion : Motion ℝ) (time : ℝ) : (motion.displacement tuning time).norm ≤ tuning.maxDistance := by
  unfold displacement
  dsimp only
  split_ifs with longer
  · exact (Planar.norm_shortened positive.le longer).le
  · exact not_lt.mp longer

/-! ### One walk -/

/-- A real number moved into `[0, 1]`. -/
theorem Scalar.clamp_eq (a : ℝ) : clamp a 0 1 = Max.max 0 (Min.min a 1) := by
  unfold clamp
  split_ifs with low high
  · have below : a < 0 := low
    rw [min_eq_left (below.le.trans zero_le_one), max_eq_left below.le]
  · have above : 1 < a := high
    rw [min_eq_right above.le, max_eq_right zero_le_one]
  · have bounds : 0 ≤ a ∧ a ≤ 1 := ⟨not_lt.mp low, not_lt.mp high⟩
    rw [min_eq_left bounds.2, max_eq_right bounds.1]

/-- Holds of a sample that an extrapolation from an accepted one may predict: it is not further away
than the greatest distance, and has the same pressure, moved into `[0, 1]`. -/
def LinearTuning.Reaches (tuning : LinearTuning ℝ) (moment : Moment ℝ) (sample : Coords ℝ) : Prop :=
  Real.sqrt ((sample.x - moment.coords.x) ^ 2 + (sample.y - moment.coords.y) ^ 2) ≤
      tuning.maxDistance ∧
    sample.pressure = Max.max 0 (Min.min moment.coords.pressure 1)

namespace LinearTuning

variable {tuning : LinearTuning ℝ}

/-- The samples in reach are those of the short displacements. -/
theorem reaches_boundedSample {moment : Moment ℝ} {displacement : Planar ℝ}
    (short : displacement.norm ≤ tuning.maxDistance) :
    tuning.Reaches moment
      (boundedSample (moment.position + displacement) moment.coords.pressure) := by
  refine ⟨?_, Scalar.clamp_eq _⟩
  have x : moment.coords.x + displacement.x - moment.coords.x = displacement.x := add_sub_cancel_left _ _
  have y : moment.coords.y + displacement.y - moment.coords.y = displacement.y := add_sub_cancel_left _ _
  show Real.sqrt ((moment.coords.x + displacement.x - moment.coords.x) ^ 2 +
    (moment.coords.y + displacement.y - moment.coords.y) ^ 2) ≤ tuning.maxDistance
  rw [x, y, sq, sq]
  exact short

/-- **Every sample of a walk is in reach.** -/
theorem reaches_walk (positive : 0 < tuning.maxDistance) (motion : Motion ℝ) (moment : Moment ℝ)
    (rate : ℝ) (steps : Nat) :
    ∀ sample ∈ motion.walk tuning moment rate steps, tuning.Reaches moment sample := by
  intro sample member
  obtain ⟨step, _, rfl⟩ := List.mem_map.mp member
  exact reaches_boundedSample (motion.norm_displacement_le positive _)

/-- The accepted position is in reach of itself. -/
theorem reaches_rest (positive : 0 < tuning.maxDistance) (moment : Moment ℝ) :
    tuning.Reaches moment (boundedSample moment.position moment.coords.pressure) := by
  have still : (0 : Planar ℝ).norm ≤ tuning.maxDistance := by
    have none : (0 : Planar ℝ).norm = 0 := by simp [Planar.norm, Scalar.sqrt]
    rw [none]
    exact positive.le
  have same : moment.position + (0 : Planar ℝ) = moment.position :=
    Planar.ext (add_zero _) (add_zero _)
  rw [← same]
  exact reaches_boundedSample still

end LinearTuning

/-! ### One prediction -/

/-- **Every sample of a prediction is in reach** of the sample accepted last. -/
theorem Session.reaches_predictPadded {tuning : LinearTuning ℝ} (positive : 0 < tuning.maxDistance)
    {session : Session ℝ (Motion ℝ)} (sound : session.setup.RateIsGiven) {moment : Moment ℝ}
    (last : session.last (linear tuning) = some moment) {prediction : Prediction ℝ}
    (answered : (session.predictPadded (linear tuning)).2 = some prediction) :
    ∀ sample ∈ prediction.samples, tuning.Reaches moment sample := by
  obtain ⟨k, _, samples⟩ := samples_of_predictPadded (linear tuning) sound answered
  have own := tuning.reaches_walk positive session.memory moment session.rate.milliseconds
    (session.steps (linear tuning))
  rw [samples, forecast_of_last last]
  intro sample member
  rcases List.mem_append.mp member with onTheWay | filling
  · exact own sample onTheWay
  · -- the last sample of this walk fills up, and without a walk the accepted position does
    rw [List.eq_of_mem_replicate filling]
    unfold padding
    dsimp only
    rw [linear_restPressure_of_some tuning last]
    cases furthest : (session.memory.walk tuning moment session.rate.milliseconds
      (session.steps (linear tuning))).getLast? with
    | some reached => exact own reached (List.mem_of_getLast? furthest)
    | none =>
      show tuning.Reaches moment
        (boundedSample (lastPosition (session.last (linear tuning))) moment.coords.pressure)
      rw [last]
      exact tuning.reaches_rest positive moment

/-! ### After any run -/

/-- Accepted settings tune an extrapolation by two weights and a positive distance. -/
theorem Settings.linear_of_accepted {settings : Settings ℝ} (accepted : settings.fault? = none) :
    isWeight settings.predictor.linear.velocitySmoothing = true ∧
      isWeight settings.predictor.linear.accelerationSmoothing = true ∧
      0 < settings.predictor.linear.maxDistance := by
  unfold fault? at accepted
  dsimp only at accepted
  split at accepted
  · cases accepted
  · have passed := List.find?_eq_none.mp (Option.map_eq_none_iff.mp accepted)
    simp only [List.forall_mem_cons, Bool.not_eq_true', Bool.not_eq_false, decide_eq_true_eq] at passed
    obtain ⟨_, _, _, velocity, acceleration, distance, _⟩ := passed
    exact ⟨velocity, acceleration, distance⟩

theorem Settings.maxDistance_pos {settings : Settings ℝ} (accepted : settings.fault? = none) :
    0 < settings.predictor.linear.maxDistance :=
  (linear_of_accepted accepted).2.2

/-- The usual settings are accepted with another rate and another tuning, if these are in range. -/
theorem Settings.accepted_of_tuned {predictor : PredictorSettings ℝ}
    (positive : predictor.rate?.filter (· ≤ 0) = none) (noise : predictor.noise = .ink)
    (history : Motion.leastHistory ≤ predictor.linear.historySize)
    (velocity : predictor.linear.velocitySmoothing ∈ Set.Ioc 0 1)
    (acceleration : predictor.linear.accelerationSmoothing ∈ Set.Ioc 0 1)
    (distance : 0 < predictor.linear.maxDistance) :
    { (Settings.usual : Settings ℝ) with predictor := predictor }.fault? = none := by
  have weights : isWeight predictor.linear.velocitySmoothing = true ∧
      isWeight predictor.linear.accelerationSmoothing = true := by
    simp [isWeight, velocity.1, velocity.2, acceleration.1, acceleration.2]
  unfold fault?
  dsimp only
  rw [positive, noise]
  norm_num [weights.1, weights.2, history, distance, Noise.ink, Settings.usual, logLevels, logFormats]

namespace Predictor

/-- **An extrapolation stays in reach.** A predictor that extrapolates by accepted settings may have
been told and asked anything. If a sample was accepted in the current stroke, every sample that it
predicts now, be it of the walk or one that fills up, is no further from the last such sample than the
greatest distance of the settings, and has the pressure of that sample, moved into `[0, 1]`. -/
theorem predict_staysInReach {settings : Settings ℝ} (accepted : settings.fault? = none)
    (chosen : settings.predictor.strategy = .linear) :
    ∃ start, ofSettings settings.predictor = .ok start ∧
      ∀ commands : List (Command ℝ),
        let predictor := stateAfter serve start commands
        ∀ moment ∈ predictor.last, ∀ prediction ∈ predictor.predict.2,
          ∀ sample ∈ prediction.samples,
            Real.sqrt ((sample.x - moment.coords.x) ^ 2 + (sample.y - moment.coords.y) ^ 2) ≤
                settings.predictor.linear.maxDistance ∧
              sample.pressure = Max.max 0 (Min.min moment.coords.pressure 1) := by
  obtain ⟨start, built⟩ := ofSettings_of_accepted accepted
  refine ⟨start, built, fun commands => ?_⟩
  have sound := rateIsGiven_stateAfter (rateIsGiven_ofSettings built) commands
  rcases ofSettings_eq_ok built with ⟨other, _⟩ | ⟨_, session, _, rfl⟩
  · rw [chosen] at other
    cases other
  · rw [stateAfter_linear] at sound ⊢
    intro predictor moment last prediction answered
    exact Session.reaches_predictPadded (Settings.maxDistance_pos accepted) sound last answered

/-- A pointer that moves 30 units in 8 ms, with a pressure of two, and a greatest distance of 20: three
samples of full pressure are predicted, all of them in reach. -/
theorem predict_staysInReach_fast :
    let tuning : LinearTuning ℝ := { LinearTuning.usual with maxDistance := 20 }
    let predictor : PredictorSettings ℝ :=
      { PredictorSettings.usual with strategy := .linear, rate? := some 8, linear := tuning }
    let settings : Settings ℝ := { (Settings.usual : Settings ℝ) with predictor := predictor }
    let commands : List (Command ℝ) :=
      [.observe ⟨.down, [0], [⟨0, [⟨0, 0, 2⟩]⟩, ⟨8, [⟨30, 0, 2⟩]⟩]⟩]
    settings.fault? = none ∧ ∃ start prediction, ofSettings settings.predictor = .ok start ∧
      (stateAfter serve start commands).last = some ⟨8, ⟨30, 0, 2⟩⟩ ∧
      (stateAfter serve start commands).predict.2 = some prediction ∧ prediction.length = 3 ∧
      ∀ sample ∈ prediction.samples,
        Real.sqrt ((sample.x - 30) ^ 2 + (sample.y - 0) ^ 2) ≤ 20 ∧ sample.pressure = 1 := by
  intro tuning predictor settings commands
  have accepted : settings.fault? = none := by
    refine Settings.accepted_of_tuned rfl rfl (by decide) ?_ ?_ ?_ <;>
      norm_num [predictor, tuning, LinearTuning.usual]
  obtain ⟨start, built, reaches⟩ := predict_staysInReach accepted rfl
  have last : (stateAfter serve start commands).last = some ⟨8, ⟨30, 0, 2⟩⟩ := by
    obtain rfl := Except.ok.inj built
    have moved : ¬ Moment.isRepeatedBy (⟨0, ⟨0, 0, 2⟩⟩ : Moment ℝ) ⟨8, ⟨30, 0, 2⟩⟩ = true := by
      simp [Moment.isRepeatedBy]
    let strategy := PointerForecast.linear tuning
    show (Session.take strategy (Session.accept strategy _ _) _).last strategy = _
    exact (congrArg (Session.last strategy) (if_neg moved)).trans (Session.last_accept strategy _ _)
  have sound := rateIsGiven_stateAfter (rateIsGiven_ofSettings built) commands
  have setup : (stateAfter serve start commands).setup = ⟨0, 20, some ((8 : Int) : ℝ)⟩ := by
    have initial := (setup_ofSettings built).1
    refine Setup.ext ?_ ?_ ?_
    · rw [pointer_stateAfter]
      rfl
    · rw [target_stateAfter, initial]
      rfl
    · rw [given?_stateAfter, initial]
      rfl
  have three : Scalar.ceilNat (((20 : Int) : ℝ) / ((8 : Int) : ℝ)) = 3 := by
    have rounded : ⌈((20 : Int) : ℝ) / ((8 : Int) : ℝ)⌉₊ = 3 := by
      rw [Nat.ceil_eq_iff (by decide)]
      norm_num
    show Nat.min ⌈((20 : Int) : ℝ) / ((8 : Int) : ℝ)⌉₊ maxWord = 3
    rw [rounded]
    rfl
  obtain ⟨own, padding, _, _, fits, answered⟩ := predict_of_given sound (congrArg Setup.rate? setup)
  rw [setup] at fits answered
  refine ⟨accepted, start, _, built, last, answered, ?_, ?_⟩
  · show (own.samples ++ List.replicate _ _).length = 3
    rw [List.length_append, List.length_replicate]
    exact (Nat.add_sub_of_le fits).trans three
  · intro sample member
    obtain ⟨near, pressure⟩ := reaches commands _ last _ answered sample member
    exact ⟨near, pressure.trans (by norm_num)⟩

end Predictor

end PointerForecast
