/-
**The horizon grows with the speed and the target, and shrinks with the jank and the rate.**

A speed and a jank are mapped to `[0, 1]` by operations that respect the order of numbers, infinite ones
included, and the confidence is the product of the one with what the other leaves of one. A horizon is
the ceiling of a quotient and a product. The quotient may be infinite, if the rate is small enough; then
no confidence at all still gives no step, and any other confidence the largest horizon there is. So the
horizon respects the order of all its arguments, each rounding notwithstanding. Full confidence asks for
as many steps as samples are expected, and therefore no prediction is ever cut down to what is expected.

* `confidence_mono_speed`, `confidence_anti_jank`: **the order of the confidence.**
* `horizon_mono_confidence`, `horizon_mono_target`, `horizon_anti_rate`: **the order of the horizon.**
* `horizon_one`: the horizon of full confidence.
* `Session.steps_eq_nominal`: nothing is cut down.
* `horizon_isMonotone`: all laws, with the last one in any reachable state.
-/

import PointerForecast.Proofs.BoundedHorizon
import PointerForecast.Proofs.Double.Order

namespace PointerForecast

open Double

/-! ### The confidence -/

theorem normalize_mono {x y low high : Float} (bounded : low.isFinite = true)
    (width : (high - low).isFinite = true) (apart : 0 < high - low) (le : x ≤ y) :
    normalize x low high ≤ normalize y low high := by
  have scaled := (ascends_div width (value_pos apart)).le ((ascends_sub bounded).le le)
  exact min_mono not_isNaN_one (max_mono not_isNaN_zero scaled)

/-- Products of doubles from zero to one are ordered as their factors. -/
theorem Double.InUnit.mul_mono {x y c d : Float} (first : InUnit x) (second : InUnit y)
    (third : InUnit c) (fourth : InUnit d) (le : x ≤ y) (le' : c ≤ d) : x * c ≤ y * d := by
  have low := (inUnit_iff_value.mp third).2.1
  have low' := (inUnit_iff_value.mp second).2.1
  exact (denotes_mul first.isFinite third.isFinite).le
    (denotes_mul second.isFinite fourth.isFinite)
    (rounded_mono (mul_le_mul (le_iff.mp le).2 (le_iff.mp le').2 low low'))

theorem Double.InUnit.le_refl {x : Float} (bounds : InUnit x) : x ≤ x :=
  le_iff.mpr ⟨⟨(inUnit_iff_value.mp bounds).1, (inUnit_iff_value.mp bounds).1⟩, le_rfl⟩

/-- **A faster pointer is trusted no less.** -/
theorem confidence_mono_speed {slow fast : Float} (jank : Float) (le : slow ≤ fast) :
    confidence slow jank ≤ confidence fast jank := by
  have speeds : normalize slow lowSpeed highSpeed ≤ normalize fast lowSpeed highSpeed :=
    normalize_mono (by decide) (by decide) (by decide) le
  have rest : InUnit (1 - normalize jank lowJank highJank) := (inUnit_normalize _ _ _).one_sub
  exact (inUnit_normalize _ _ _).mul_mono (inUnit_normalize _ _ _) rest rest speeds rest.le_refl

/-- **A more erratic pointer is trusted no more.** -/
theorem confidence_anti_jank (speed : Float) {steady erratic : Float} (le : steady ≤ erratic) :
    confidence speed erratic ≤ confidence speed steady := by
  have janks : normalize steady lowJank highJank ≤ normalize erratic lowJank highJank :=
    normalize_mono (by decide) (by decide) (by decide) le
  have left (jank : Float) : InUnit (normalize jank lowJank highJank) := inUnit_normalize _ _ _
  have speeds : InUnit (normalize speed lowSpeed highSpeed) := inUnit_normalize _ _ _
  exact speeds.mul_mono speeds (left erratic).one_sub (left steady).one_sub speeds.le_refl
    (sub_anti isFinite_one (left steady).isFinite (left erratic).isFinite janks)

/-! ### Scaled quotients -/

section Scaled

variable {x y c d : Float}

/-- What a quotient gives, scaled by less or more, is ordered as the quotients. -/
theorem value_scaled_mono (bounds : InUnit c) (le : x ≤ y) : value (x * c) ≤ value (y * c) := by
  obtain ⟨number, nonneg, _⟩ := inUnit_iff_value.mp bounds
  rcases nonneg.eq_or_lt with zero | positive
  · rw [value_mul_of_zero number zero.symm, value_mul_of_zero number zero.symm]
  · exact (le_iff.mp ((ascends_mul bounds.isFinite positive).le le)).2

theorem value_scaled_nonneg (bounds : InUnit c) (nonneg : 0 ≤ x) : 0 ≤ value (x * c) := by
  have least := value_scaled_mono bounds nonneg
  rwa [(denotes_mul rfl bounds.isFinite).2, value_zero, zero_mul, rounded_zero] at least

/-- What a quotient gives is ordered as the confidences that it is scaled by. -/
theorem value_scaled_le (bounds : InUnit c) (bounds' : InUnit d) (nonneg : 0 ≤ x) (le : c ≤ d) :
    value (x * c) ≤ value (x * d) := by
  obtain ⟨number, low, _⟩ := inUnit_iff_value.mp bounds
  obtain ⟨⟨_, number'⟩, above⟩ := le_iff.mp nonneg
  have below := (le_iff.mp le).2
  rcases low.eq_or_lt with zero | positive
  · rw [value_mul_of_zero number zero.symm]
    exact value_scaled_nonneg bounds' nonneg
  · by_cases finite : x.isFinite = true
    · rw [(denotes_mul finite bounds.isFinite).2, (denotes_mul finite bounds'.isFinite).2]
      exact rounded_mono (mul_le_mul_of_nonneg_left below above)
    · obtain ⟨s, unpacked⟩ := exists_infinity number' finite
      have first := (ascends_mul bounds.isFinite positive).infinity unpacked
      have second := (ascends_mul bounds'.isFinite (positive.trans_le below)).infinity unpacked
      exact ((denotes_infinity first).2.trans (denotes_infinity second).2.symm).le

theorem value_mul_one (number : x.isNaN = false) : value (x * 1) = value x := by
  by_cases finite : x.isFinite = true
  · rw [(denotes_mul finite isFinite_one).2, value_one, mul_one, rounded_value]
  · obtain ⟨s, unpacked⟩ := exists_infinity number finite
    have positive : 0 < value 1 := value_one ▸ one_pos
    have kept := (ascends_mul isFinite_one positive).infinity unpacked
    exact (denotes_infinity kept).2.trans (denotes_infinity unpacked).2.symm

end Scaled

/-! ### The horizon -/

section Horizon

variable {target rate : Float}

/-- A target that is not negative takes no negative number of samples. -/
theorem quotient_nonneg (asked : 0 ≤ target) (finite : rate.isFinite = true) (positive : 0 < rate) :
    0 ≤ target / rate := by
  have least : 0 / rate ≤ target / rate := (ascends_div finite (value_pos positive)).le asked
  obtain ⟨⟨_, number⟩, below⟩ := le_iff.mp least
  rw [(denotes_div rfl finite (value_pos positive).ne').2, value_zero, zero_div, rounded_zero]
    at below
  exact le_iff.mpr ⟨⟨not_isNaN_zero, number⟩, value_zero.trans_le below⟩

/-- **More confidence, no shorter a horizon.** -/
theorem horizon_mono_confidence (asked : 0 ≤ target) (finite : rate.isFinite = true)
    (positive : 0 < rate) {less more : Float} (bounds : InUnit less) (bounds' : InUnit more)
    (le : less ≤ more) : horizon target rate less ≤ horizon target rate more :=
  ceilWord_mono (value_scaled_le bounds bounds' (quotient_nonneg asked finite positive) le)

/-- **A later target, no shorter a horizon.** -/
theorem horizon_mono_target {near far : Float} (le : near ≤ far) (finite : rate.isFinite = true)
    (positive : 0 < rate) {trust : Float} (bounds : InUnit trust) :
    horizon near rate trust ≤ horizon far rate trust :=
  ceilWord_mono (value_scaled_mono bounds ((ascends_div finite (value_pos positive)).le le))

/-- **A slower rate, no longer a horizon.** -/
theorem horizon_anti_rate (asked : 0 ≤ target) {short long : Float}
    (finite : long.isFinite = true) (positive : 0 < short) (le : short ≤ long) {trust : Float}
    (bounds : InUnit trust) : horizon target long trust ≤ horizon target short trust := by
  obtain ⟨⟨number, _⟩, below⟩ := le_iff.mp le
  have above := value_pos positive
  have finite' : short.isFinite = true := by
    rw [isFinite_iff, abs_of_pos above]
    exact ⟨number, below.trans_lt (lt_of_abs_lt (isFinite_iff.mp finite).2)⟩
  exact ceilWord_mono (value_scaled_mono bounds (div_anti asked finite' finite above le))

/-- Full confidence takes as many samples as the target at the rate. -/
theorem horizon_one (asked : 0 ≤ target) (finite : rate.isFinite = true) (positive : 0 < rate) :
    horizon target rate 1 = Scalar.ceilNat (target / rate) := by
  have number := (le_iff.mp (quotient_nonneg asked finite positive)).1.2
  show ceilWord (target / rate * 1) = ceilWord (target / rate)
  rw [ceilWord_eq, ceilWord_eq, value_mul_one number]

end Horizon

/-! ### What is expected -/

namespace Session

/-- **Nothing is cut down to what is expected**, if an explicit rate is one that was given: full
confidence asks for as many steps. -/
theorem steps_eq_nominal {noise : Noise Float} {session : Session Float (Tracker Float)}
    (rests : session.rate.RestsOnWhole) (asked : 0 ≤ session.target.toInt) :
    session.steps (kalman noise) = session.nominal (kalman noise) := by
  unfold steps
  cases known : session.expected? with
  | none => rfl
  | some expected =>
    obtain ⟨rate, given⟩ := given_of_expected? known
    have settled : session.rate = .overridden rate := ReportRate.given?_eq_some.mp given
    obtain rfl := Option.some.inj ((expected?_of_given given).symm.trans known)
    rw [settled] at rests
    obtain ⟨milliseconds, positive, rfl⟩ := rests
    obtain ⟨finite, above⟩ := ReportRate.isUsable_iff_pos.mp
      (Scalar.HoldsRates.isUsable (α := Float) positive)
    have target : 0 ≤ session.targetTime :=
      Denotes.le ⟨not_isNaN_zero, value_zero⟩ (denotes_ofInt32 session.target)
        (Int.cast_nonneg asked)
    refine Nat.min_eq_left ?_
    rw [settled]
    refine le_of_le_of_eq ?_ (horizon_one target finite above)
    have trust := inUnit_confidence (session.memory.kinematics.velocity.norm / milliseconds.toInt)
      session.memory.kinematics.jank.norm
    exact horizon_mono_confidence target finite above trust ⟨rfl, rfl⟩ trust.2

/-- **Nothing is ever cut down**, after any run. -/
theorem steps_eq_nominal_stateAfter {settings : PredictorSettings Float}
    {session : Session Float (Tracker Float)} {noise : Noise Float}
    (built : Predictor.configure settings (kalman noise) = .ok session)
    (commands : List (Command Float)) :
    let after := stateAfter (apply (kalman noise)) session commands
    after.steps (kalman noise) = after.nominal (kalman noise) := by
  intro after
  refine steps_eq_nominal (restsOnWhole_stateAfter (restsOnWhole_configure built) commands) ?_
  rw [toInt_target_stateAfter built commands]
  exact le_max_left _ _

end Session

/-! ### All laws -/

/-- **The confidence and the horizon are monotone**, in double precision. The confidence lies in
`[0, 1]` whatever the speed and the jank are, also where they are not numbers; of numbers, it does not
fall with the speed and does not rise with the jank. For a target that is not negative and a positive
finite rate, the horizon does not fall with the confidence, which full confidence bounds, does not fall
with the target and does not rise with the rate. So in no state that a session with the filter can be
brought to are its steps cut down to the samples that are expected. -/
theorem horizon_isMonotone :
    (∀ speed jank : Float,
      InUnit (confidence speed jank) ∧ (confidence speed jank).isNaN = false) ∧
    (∀ slow fast jank : Float, slow ≤ fast → confidence slow jank ≤ confidence fast jank) ∧
    (∀ speed steady erratic : Float, steady ≤ erratic →
      confidence speed erratic ≤ confidence speed steady) ∧
    (∀ target rate : Float, 0 ≤ target → 0 < rate → rate.isFinite = true →
      (∀ less more, InUnit less → InUnit more → less ≤ more →
        horizon target rate less ≤ horizon target rate more ∧
          horizon target rate more ≤ horizon target rate 1) ∧
      ∀ trust, InUnit trust →
        (∀ later, target ≤ later → horizon target rate trust ≤ horizon later rate trust) ∧
          ∀ slower, slower.isFinite = true → rate ≤ slower →
            horizon target slower trust ≤ horizon target rate trust) ∧
    ∀ (settings : PredictorSettings Float) (session : Session Float (Tracker Float)),
      Predictor.configure settings (kalman settings.noise) = .ok session →
      ∀ commands : List (Command Float),
        let after := stateAfter (Session.apply (kalman settings.noise)) session commands
        after.steps (kalman settings.noise) = after.nominal (kalman settings.noise) := by
  refine ⟨fun speed jank => ?_, fun slow fast jank => confidence_mono_speed jank,
    fun speed steady erratic => confidence_anti_jank speed, ?_,
    fun settings session built => Session.steps_eq_nominal_stateAfter built⟩
  · have bounds := inUnit_confidence speed jank
    exact ⟨bounds, (inUnit_iff_value.mp bounds).1⟩
  · intro target rate asked positive finite
    refine ⟨fun less more bounds bounds' le => ⟨?_, ?_⟩, fun trust bounds => ⟨?_, ?_⟩⟩
    · exact horizon_mono_confidence asked finite positive bounds bounds' le
    · exact horizon_mono_confidence asked finite positive bounds' ⟨rfl, rfl⟩ bounds'.2
    · exact fun later le => horizon_mono_target le finite positive bounds
    · exact fun slower finite' le => horizon_anti_rate asked finite' positive le bounds

/-- A jank that is not a number, an infinite speed, and the least rate there is, at which the target takes
infinitely many samples: no confidence still gives no step, and any other one the largest horizon. The
last law is that of a session that is given a rate. -/
theorem horizon_isMonotone_extreme :
    let least : Float := .ofBits 1
    let strategy := kalman (.ink : Noise Float)
    let session := (Session.start strategy).setTarget 24
    let given := stateAfter (Session.apply strategy) session [.setRate 8]
    InUnit (confidence (1 / 0) (0 / 0)) ∧ confidence 1 0.1 ≤ confidence (1 / 0) 0.1 ∧
      confidence 1 (1 / 0) ≤ confidence 1 0.1 ∧
      horizon 24 least 0 ≤ horizon 24 least 0.5 ∧
      horizon 24 least 0 = 0 ∧ horizon 24 least 0.5 = maxWord ∧
      horizon 24 8 0.5 ≤ horizon 24 least 0.5 ∧
      given.steps strategy = given.nominal strategy := by
  intro least strategy session given
  obtain ⟨bounds, speeds, janks, horizons, uncut⟩ := horizon_isMonotone
  obtain ⟨trusts, bent⟩ := horizons 24 least (by decide) (by decide) (by decide)
  have half : InUnit 0.5 := ⟨by decide, by decide⟩
  refine ⟨(bounds _ _).1, speeds _ _ _ (by decide), janks _ _ _ (by decide),
    (trusts 0 0.5 ⟨by decide, by decide⟩ half (by decide)).1, by decide +kernel,
    by decide +kernel, (bent 0.5 half).2 8 (by decide) (by decide), ?_⟩
  exact uncut { PredictorSettings.usual with target := 24 } session rfl [.setRate 8]

end PointerForecast
