/-
**A later target only extends a prediction.**

A target decides neither whether a session can predict nor which way a strategy walks, but only how
far. It is a number of milliseconds, and both the horizon of a strategy and the samples that are
expected of it grow with the double of that number, since quotients, products and ceilings respect the
order of doubles. A walk of more steps begins like one of fewer: the filter passes the same states, and
the extrapolation computes every sample from its place in the walk.

* `Strategy.Extends`: what a strategy has to do with targets and steps; `kalman_extends`,
  `linear_extends`.
* `Session.steps_mono`: **a later target, no fewer steps.**
* `Session.predict_extends`: two predictions of one session.
* `Predictor.ownPrediction_isExtended`: **for either strategy, in any state.**
-/

import PointerForecast.Proofs.HorizonOrder
import PointerForecast.Proofs.Walk

namespace PointerForecast

open Double

/-! ### Strategies -/

section Strategies

variable {M : Type}

/-- Holds of a strategy that goes no less far for a later target, and the same way for more steps. -/
structure Strategy.Extends (strategy : Strategy Float M) : Prop where
  horizon_mono : ∀ memory {near far rate : Float}, near ≤ far → rate.isFinite = true → 0 < rate →
    strategy.horizon memory near rate ≤ strategy.horizon memory far rate
  prefix_walk : ∀ memory stored rate {few many : ℕ}, few ≤ many →
    (strategy.walk memory stored rate few).samples <+: (strategy.walk memory stored rate many).samples

theorem kalman_extends (noise : Noise Float) : (kalman noise).Extends where
  horizon_mono _ _ _ _ le finite positive :=
    horizon_mono_target le finite positive (inUnit_confidence _ _)
  prefix_walk _ _ _ _ _ le := Kinematics.prefix_project _ le

/-- The expected samples of a later target are no fewer. -/
theorem ceilNat_div_mono {near far rate : Float} (le : near ≤ far) (finite : rate.isFinite = true)
    (positive : 0 < rate) : Scalar.ceilNat (near / rate) ≤ Scalar.ceilNat (far / rate) :=
  ceilWord_mono (le_iff.mp ((ascends_div finite (value_pos positive)).le le)).2

theorem linear_extends (tuning : LinearTuning Float) : (linear tuning).Extends where
  horizon_mono motion near far rate le finite positive := by
    show (if _ then 0 else Scalar.ceilNat (near / rate)) ≤
      if _ then 0 else Scalar.ceilNat (far / rate)
    split
    · exact le_rfl
    · exact ceilNat_div_mono le finite positive
  prefix_walk motion stored rate few many le := by
    cases known : motion.history.head? with
    | none =>
      rw [linear_walk_of_none tuning known, linear_walk_of_none tuning known]
    | some last =>
      obtain ⟨more, rfl⟩ := Nat.exists_eq_add_of_le le
      have beginning : List.range few <+: List.range (few + more) := by
        rw [List.range_add]
        exact List.prefix_append _ _
      rw [linear_walk_of_some tuning known, linear_walk_of_some tuning known]
      exact beginning.map _

end Strategies

/-! ### One session -/

namespace Session

variable {M : Type} {strategy : Strategy Float M}

theorem targetTime_mono (session : Session Float M) {near far : Int32} (le : near ≤ far) :
    (session.setTarget near).targetTime ≤ (session.setTarget far).targetTime := by
  have inForce (asked : Int32) :
      Denotes (session.setTarget asked).targetTime (max 0 asked.toInt : ℤ) := by
    rw [← toInt_targetInForce]
    exact denotes_ofInt32 (targetInForce asked)
  have later : near.toInt ≤ far.toInt := Int32.le_iff_toInt_le.mp le
  exact (inForce near).le (inForce far) (Int.cast_le.mpr (max_le_max le_rfl later))

/-- Whether a session can predict does not depend on its target. -/
theorem canPredict_setTarget (session : Session Float M) (milliseconds : Int32) :
    (session.setTarget milliseconds).canPredict strategy = session.canPredict strategy := by
  unfold canPredict
  rw [expected?_eq_map, expected?_eq_map, Option.isSome_map, Option.isSome_map]
  rfl

/-- **A later target, no fewer steps.** -/
theorem steps_mono (grows : strategy.Extends) {session : Session Float M}
    (usable : session.rate.isUsable = true) {near far : Int32} (le : near ≤ far) :
    (session.setTarget near).steps strategy ≤ (session.setTarget far).steps strategy := by
  obtain ⟨finite, positive⟩ := ReportRate.isUsable_iff_pos.mp usable
  have times := targetTime_mono session le
  have nominal : (session.setTarget near).nominal strategy ≤
      (session.setTarget far).nominal strategy :=
    grows.horizon_mono _ times finite positive
  have kept (asked : Int32) : (session.setTarget asked).setup.rate? = session.setup.rate? := rfl
  unfold steps
  rw [expected?_eq_map, expected?_eq_map, kept, kept]
  cases given : session.setup.rate? with
  | none => exact nominal
  | some rate =>
    have settled := ReportRate.given?_eq_some.mp given
    rw [settled] at finite positive
    exact min_le_min nominal (ceilNat_div_mono times finite positive)

/-- **Two predictions of one session**: that for the later target extends the other. -/
theorem predict_extends (grows : strategy.Extends) (session : Session Float M) {near far : Int32}
    (le : near ≤ far) :
    Option.Rel (fun first second => first.pointer = second.pointer ∧ first.samples <+: second.samples)
      ((session.setTarget near).predict strategy).2
      ((session.setTarget far).predict strategy).2 := by
  unfold predict
  rw [canPredict_setTarget, canPredict_setTarget]
  by_cases ready : session.canPredict strategy = true
  · rw [if_pos ready, if_pos ready]
    have usable := (Bool.and_eq_true_iff.mp ready).2
    exact .some ⟨rfl, grows.prefix_walk _ _ _ (steps_mono grows usable le)⟩
  · rw [if_neg ready, if_neg ready]
    exact .none

end Session

/-! ### Either strategy -/

namespace Predictor

/-- **A later target only extends a prediction.** In any state of a predictor, be its rate given or an
estimate, let it be given one of two targets. The strategy predicts for the later one if and only if it
does for the other, about the same pointer, and its samples begin with those for the other. -/
theorem ownPrediction_isExtended (predictor : Predictor Float) {near far : Int32} (le : near ≤ far) :
    Option.Rel (fun first second => first.pointer = second.pointer ∧ first.samples <+: second.samples)
      (predictor.serve (.setTarget near)).1.ownPrediction
      (predictor.serve (.setTarget far)).1.ownPrediction := by
  cases predictor with
  | kalman noise session => exact session.predict_extends (kalman_extends noise) le
  | linear tuning session => exact session.predict_extends (linear_extends tuning) le

/-- A stroke of three samples, 8 ms apart: 10 ms ahead are two samples, which begin the five samples of
40 ms. -/
theorem ownPrediction_isExtended_steady :
    let settings : PredictorSettings Float := { PredictorSettings.usual with strategy := .linear }
    let stroke : List (Batch Float) := [⟨0, [⟨0, 0, 1⟩]⟩, ⟨8, [⟨8, 4, 1⟩]⟩, ⟨16, [⟨16, 8, 1⟩]⟩]
    ∃ start, ofSettings settings = .ok start ∧
      let predictor := stateAfter serve start [.observe ⟨.down, [5], stroke⟩]
      (10 : Int32) ≤ 40 ∧
      ∃ few many, (predictor.serve (.setTarget 10)).1.ownPrediction = some few ∧
        (predictor.serve (.setTarget 40)).1.ownPrediction = some many ∧
        few.length = 2 ∧ many.length = 5 ∧ few.samples <+: many.samples := by
  intro settings stroke
  refine ⟨_, rfl, ?_⟩
  intro predictor
  have later : (10 : Int32) ≤ 40 := by decide
  have law := ownPrediction_isExtended predictor later
  have lengths : (predictor.serve (.setTarget 10)).1.ownPrediction.map (·.length) = some 2 ∧
      (predictor.serve (.setTarget 40)).1.ownPrediction.map (·.length) = some 5 := by
    decide +kernel
  obtain ⟨few, answered, two⟩ := Option.map_eq_some_iff.mp lengths.1
  obtain ⟨many, answered', five⟩ := Option.map_eq_some_iff.mp lengths.2
  rw [answered, answered', Option.rel_some_some] at law
  exact ⟨later, few, many, answered, answered', two, five, law.2⟩

end Predictor

end PointerForecast
