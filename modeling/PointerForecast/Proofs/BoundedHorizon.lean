/-
**No prediction reaches further than twenty samples per millisecond.**

Nothing in a prediction itself keeps an estimated rate away from zero: the mean of some differences
in time may be any positive number, for all it checks. But differences are whole numbers of
milliseconds, and an estimate rests on at most twenty of them, in every session that can be reached.
So a rate that can be used is at least a twentieth, and an explicit rate is at least one.

* `ReportRate.RestsOnWhole`: what is known of a rate; `Session.restsOnWhole_stateAfter`: in any run.
* `ReportRate.RestsOnWhole.one_le`: **a usable rate is at least a twentieth.**
* `Strategy.StopsAtTarget`: a strategy that walks no further than to its target.
* `Session.nominal_le`, `Session.walksWithin`: the horizon of one session.
* `Session.horizon_isBounded`: **the bound after any run.**
-/

import PointerForecast.Proofs.Confidence
import PointerForecast.Proofs.Double.WholeMean
import PointerForecast.Proofs.FixedLength

namespace PointerForecast

/-! ### Rates that rest on whole numbers -/

section Whole

variable {α M : Type} [Scalar α]

namespace ReportRate

/-- Holds of a rate that rests on whole numbers of milliseconds. -/
def RestsOnWhole : ReportRate α → Prop
  | .accumulating deltas =>
    deltas.length < capacity ∧ ∃ whole : List ℤ, deltas = whole.map (Int.cast : ℤ → α)
  | .capped mean =>
    ∃ whole : List ℤ, whole.length = capacity ∧ mean = Scalar.mean (whole.map (Int.cast : ℤ → α))
  | .overridden rate => ∃ milliseconds : Int32, 0 < milliseconds ∧ rate = (milliseconds.toInt : α)

theorem restsOnWhole_unknown : (unknown : ReportRate α).RestsOnWhole :=
  ⟨show 0 < capacity from Nat.zero_lt_succ _, [], rfl⟩

theorem RestsOnWhole.record {rate : ReportRate α} (rests : rate.RestsOnWhole) (delta : ℤ) :
    (rate.record (delta : α)).RestsOnWhole := by
  cases rate with
  | accumulating deltas =>
    obtain ⟨few, whole, rfl⟩ := rests
    rw [List.length_map] at few
    have collected : whole.map (Int.cast : ℤ → α) ++ [(delta : α)] =
        (whole ++ [delta]).map Int.cast := by
      rw [List.map_append]
      rfl
    rw [record_accumulating, collected, List.length_map]
    by_cases enough : whole.length + 1 = capacity
    · rw [if_pos enough]
      exact ⟨_, List.length_append.trans enough, rfl⟩
    · rw [if_neg enough]
      refine ⟨?_, _, rfl⟩
      rw [List.length_map, List.length_append, List.length_singleton]
      omega
  | capped mean => exact rests
  | overridden rate => exact rests

end ReportRate

namespace Session

variable {strategy : Strategy α M} {session : Session α M}

theorem restsOnWhole_take (rests : session.rate.RestsOnWhole) (moment : Moment α) :
    (session.take strategy moment).rate.RestsOnWhole := by
  unfold take accept
  split
  · exact rests
  · cases session.last strategy with
    | none => exact rests
    | some previous => exact rests.record _

theorem restsOnWhole_foldl_take (rests : session.rate.RestsOnWhole) (moments : List (Moment α)) :
    (moments.foldl (take strategy) session).rate.RestsOnWhole := by
  induction moments generalizing session with
  | nil => exact rests
  | cons moment rest ih => exact ih (restsOnWhole_take rests moment)

/-- **One command keeps the rate on whole numbers.** -/
theorem restsOnWhole_apply (rests : session.rate.RestsOnWhole) (command : Command α) :
    (session.apply strategy command).1.rate.RestsOnWhole := by
  cases command with
  | setTarget milliseconds => exact rests
  | setRate milliseconds =>
    unfold apply answer setRate
    by_cases refused : milliseconds ≤ 0
    · simp only [if_pos refused]
      exact rests
    · simp only [if_neg refused]
      exact ⟨milliseconds, Int32.not_le.mp refused, rfl⟩
  | beginStroke pointer => exact rests
  | observe event =>
    show (session.observe strategy event).1.rate.RestsOnWhole
    unfold observe
    split
    · exact rests
    · split
      · exact restsOnWhole_foldl_take rests _
      · exact rests
  | predict =>
    show (session.predict strategy).1.rate.RestsOnWhole
    unfold predict
    split <;> exact rests
  | pad prediction => exact rests

theorem restsOnWhole_stateAfter (rests : session.rate.RestsOnWhole) (commands : List (Command α)) :
    (stateAfter (apply strategy) session commands).rate.RestsOnWhole := by
  induction commands generalizing session with
  | nil => exact rests
  | cons command rest ih => exact ih (restsOnWhole_apply rests command)

end Session

end Whole

open Double

/-! ### How small a usable rate is -/

namespace ReportRate

variable {rate : ReportRate Float}

theorem isUsable_iff_pos :
    rate.isUsable = true ↔ rate.milliseconds.isFinite = true ∧ 0 < rate.milliseconds := by
  unfold isUsable
  rw [Bool.and_eq_true, decide_eq_true_iff]
  rfl

theorem isUsable_iff : rate.isUsable = true ↔
    rate.milliseconds.isFinite = true ∧ 0 < value rate.milliseconds := by
  rw [isUsable_iff_pos, lt_iff_value, value_zero]
  exact ⟨fun ⟨finite, _, positive⟩ => ⟨finite, positive⟩, fun ⟨finite, positive⟩ =>
    ⟨finite, ⟨not_isNaN_zero, (isFinite_iff.mp finite).1⟩, positive⟩⟩

/-- **An explicit rate is at least one.** -/
theorem RestsOnWhole.one_le_of_given (rests : rate.RestsOnWhole) (given : rate.given?.isSome) :
    1 ≤ value rate.milliseconds := by
  cases rate with
  | accumulating deltas => cases given
  | capped mean => cases given
  | overridden rate =>
    obtain ⟨milliseconds, positive, rfl⟩ := rests
    have above := Int32.lt_iff_toInt_lt.mp positive
    rw [Int32.toInt_zero] at above
    have unit : (1 : ℝ) ≤ milliseconds.toInt := by exact_mod_cast above
    exact unit.trans_eq (denotes_ofInt32 milliseconds).2.symm

/-- **A usable rate is at least a twentieth.** -/
theorem RestsOnWhole.one_le (rests : rate.RestsOnWhole) (usable : rate.isUsable = true) :
    1 ≤ 20 * value rate.milliseconds := by
  obtain ⟨finite, positive⟩ := isUsable_iff.mp usable
  cases rate with
  | accumulating deltas =>
    obtain ⟨few, whole, rfl⟩ := rests
    rw [List.length_map] at few
    exact one_le_mean few.le finite positive
  | capped mean =>
    obtain ⟨whole, count, rfl⟩ := rests
    exact one_le_mean count.le finite positive
  | overridden rate =>
    have unit := rests.one_le_of_given rfl
    linarith

end ReportRate

/-! ### The horizon of one session -/

/-- Holds of a strategy whose horizon is bounded by any steps that reach the target. -/
def Strategy.StopsAtTarget {M : Type} (strategy : Strategy Float M) : Prop :=
  ∀ memory target rate steps, Reaches steps rate target →
    strategy.horizon memory target rate ≤ steps

theorem kalman_stopsAtTarget (noise : Noise Float) : (kalman noise).StopsAtTarget :=
  fun _ _ _ _ reach => reach.horizon_le (inUnit_confidence _ _)

theorem linear_stopsAtTarget (tuning : LinearTuning Float) : (linear tuning).StopsAtTarget := by
  intro motion target rate steps reach
  show (if _ then 0 else Scalar.ceilNat (target / rate)) ≤ steps
  split
  · exact Nat.zero_le steps
  · exact reach.ceilWord_div_le

namespace Session

variable {M : Type} {strategy : Strategy Float M} {session : Session Float M}

variable (strategy session) in
/-- How many samples the strategy would walk on its own. -/
def nominal : ℕ :=
  strategy.horizon session.memory session.targetTime session.rate.milliseconds

variable (strategy session) in
theorem steps_le_nominal : session.steps strategy ≤ session.nominal strategy := by
  unfold steps
  cases session.expected? with
  | none => exact le_rfl
  | some expected => exact Nat.min_le_left _ _

/-- **A bound of the horizon**: as many steps as the inverse of the rate, per millisecond. -/
theorem nominal_le (stops : strategy.StopsAtTarget) {milliseconds inverse : ℕ}
    (asked : session.target.toInt = milliseconds) (usable : session.rate.isUsable = true)
    (few : inverse ≤ 20) (least : 1 ≤ inverse * value session.rate.milliseconds) :
    session.nominal strategy ≤ inverse * milliseconds := by
  obtain ⟨finite, positive⟩ := ReportRate.isUsable_iff.mp usable
  have target : value session.targetTime = milliseconds := by
    refine (denotes_ofInt32 session.target).2.trans ?_
    rw [asked, Int.cast_natCast]
  have below := session.target.toInt_lt
  have small : milliseconds < 2 ^ 31 := by omega
  refine stops _ _ _ _ ⟨finite, ?_, positive, ?_, ?_, ?_⟩
  · rw [isFinite_iff, target, Nat.abs_cast]
    refine ⟨(denotes_ofInt32 session.target).1, ?_⟩
    calc (milliseconds : ℝ) < 2 ^ (31 : ℤ) := by exact_mod_cast small
      _ ≤ limit := two_zpow_le_limit (by norm_num)
  · rw [target]
    exact Nat.cast_nonneg milliseconds
  · calc inverse * milliseconds ≤ 20 * 2 ^ 31 := Nat.mul_le_mul few small.le
      _ ≤ 2 ^ 53 := by norm_num
  · rw [target, Nat.cast_mul, mul_right_comm]
    exact le_mul_of_one_le_left (Nat.cast_nonneg milliseconds) least

variable (strategy session) in
/-- Holds if a prediction, should there be one, has no more samples than steps are walked, and no
more steps are walked than the strategy would on its own, which are at most a given number. -/
def WalksWithin (bound : ℕ) : Prop :=
  ∀ own, (session.predict strategy).2 = some own →
    own.length ≤ session.steps strategy ∧ session.steps strategy ≤ session.nominal strategy ∧
      session.nominal strategy ≤ bound

theorem walksWithin (keeps : strategy.KeepsHorizon) {bound : ℕ}
    (bounded : session.rate.isUsable = true → session.nominal strategy ≤ bound) :
    session.WalksWithin strategy bound := by
  intro own answered
  unfold predict at answered
  by_cases ready : session.canPredict strategy = true
  · rw [if_pos ready] at answered
    obtain rfl := Option.some.inj answered
    exact ⟨keeps _ _ _ _, steps_le_nominal strategy session,
      bounded (Bool.and_eq_true_iff.mp ready).2⟩
  · rw [if_neg ready] at answered
    cases answered

/-! ### After any run -/

theorem restsOnWhole_configure {settings : PredictorSettings Float}
    (built : Predictor.configure settings strategy = .ok session) : session.rate.RestsOnWhole := by
  rcases Predictor.configure_eq_ok built with ⟨_, rfl⟩ | ⟨rate, _, positive, rfl⟩
  · exact ReportRate.restsOnWhole_unknown
  · exact ⟨rate, positive, rfl⟩

/-- The target after a run is the one asked for last, a negative one counted as zero. -/
theorem toInt_target_stateAfter {settings : PredictorSettings Float}
    (built : Predictor.configure settings strategy = .ok session) (commands : List (Command Float)) :
    (stateAfter (apply strategy) session commands).target.toInt =
      max 0 ((latest? Command.target? commands).getD settings.target).toInt := by
  obtain ⟨setup, _⟩ := Predictor.setup_configure built
  have latest : (stateAfter (apply strategy) session commands).target =
      targetInForce ((latest? Command.target? commands).getD settings.target) := by
    refine (target_stateAfter_apply strategy session commands).trans ?_
    rw [setup]
    cases latest? Command.target? commands <;> rfl
  rw [latest, toInt_targetInForce]

/-- **The bound after a run** of a session with a strategy that stops at its target. -/
theorem walksWithin_stateAfter (stops : strategy.StopsAtTarget) (keeps : strategy.KeepsHorizon)
    {settings : PredictorSettings Float}
    (built : Predictor.configure settings strategy = .ok session) (commands : List (Command Float)) :
    let milliseconds :=
      (max 0 ((latest? Command.target? commands).getD settings.target).toInt).toNat
    let after := stateAfter (apply strategy) session commands
    after.WalksWithin strategy (20 * milliseconds) ∧
      (((latest? Command.rate? commands).or settings.rate?).isSome →
        after.WalksWithin strategy milliseconds) := by
  intro milliseconds after
  obtain ⟨setup, _⟩ := Predictor.setup_configure built
  have rests : after.rate.RestsOnWhole :=
    restsOnWhole_stateAfter (restsOnWhole_configure built) commands
  have asked : after.target.toInt = milliseconds := by
    rw [toInt_target_stateAfter built commands]
    exact (Int.toNat_of_nonneg (le_max_left _ _)).symm
  refine ⟨walksWithin keeps fun usable => ?_, fun given => walksWithin keeps fun usable => ?_⟩
  · exact nominal_le stops asked usable le_rfl (by exact_mod_cast rests.one_le usable)
  · have known : after.rate.given?.isSome = true := by
      have latest : after.rate.given? = _ := given?_stateAfter_apply strategy session commands
      rw [latest, setup, ← Option.map_or, Option.isSome_map]
      exact given
    have unit : 1 ≤ (1 : ℕ) * value after.rate.milliseconds := by
      rw [Nat.cast_one, one_mul]
      exact rests.one_le_of_given known
    exact (nominal_le stops asked usable (by norm_num) unit).trans_eq (one_mul _)

/-- **The horizon is bounded.** With any settings and after any run, whatever the times of the
samples were, the steps of a prediction are at most as many as the strategy computes from the target
and the rate, and those are no more than twenty per millisecond of the target, where a negative
target counts as zero. Once a rate was given, they are no more than one per millisecond. -/
theorem horizon_isBounded (settings : PredictorSettings Float) (commands : List (Command Float)) :
    let milliseconds :=
      (max 0 ((latest? Command.target? commands).getD settings.target).toInt).toNat
    let isGiven := ((latest? Command.rate? commands).or settings.rate?).isSome
    (let strategy := kalman settings.noise
      ∀ session, Predictor.configure settings strategy = .ok session →
        let after := stateAfter (apply strategy) session commands
        after.WalksWithin strategy (20 * milliseconds) ∧
          (isGiven → after.WalksWithin strategy milliseconds)) ∧
    (let strategy := linear settings.linear
      ∀ session, Predictor.configure settings strategy = .ok session →
        let after := stateAfter (apply strategy) session commands
        after.WalksWithin strategy (20 * milliseconds) ∧
          (isGiven → after.WalksWithin strategy milliseconds)) := by
  intro milliseconds isGiven
  refine ⟨?_, ?_⟩
  · intro strategy session built
    exact walksWithin_stateAfter (kalman_stopsAtTarget settings.noise)
      (kalman_keepsHorizon settings.noise) built commands
  · intro strategy session built
    exact walksWithin_stateAfter (linear_stopsAtTarget settings.linear)
      (linear_keepsHorizon settings.linear) built commands

/-- A stroke of 21 samples, the last of them a millisecond later than the others: the rate is a
twentieth, and 20 samples are predicted for a target of one millisecond. -/
theorem horizon_isBounded_attained :
    let settings : PredictorSettings Float :=
      { PredictorSettings.usual with target := 1, linear := { LinearTuning.usual with minSpeed := 0 } }
    let stroke : List (Batch Float) :=
      (List.range 21).map fun n => ⟨if n = 20 then 1 else 0, [⟨Float.ofNat n, 0, 1⟩]⟩
    let commands : List (Command Float) := [.beginStroke 1, .observe ⟨.move, [1], stroke⟩]
    let strategy := linear settings.linear
    let session := (start strategy).setTarget 1
    let after := stateAfter (apply strategy) session commands
    Predictor.configure settings strategy = .ok session ∧
      after.nominal strategy ≤ 20 ∧
      ∃ own, (after.predict strategy).2 = some own ∧ own.length = 20 := by
  intro settings stroke commands strategy session after
  have built : Predictor.configure settings strategy = .ok session := rfl
  have attained : (after.predict strategy).2.map (·.length) = some 20 := by
    decide +kernel
  obtain ⟨own, answered, length⟩ := Option.map_eq_some_iff.mp attained
  obtain ⟨_, _, bound⟩ := ((horizon_isBounded settings commands).2 session built).1 own answered
  exact ⟨built, bound, own, answered, length⟩

end Session

end PointerForecast
