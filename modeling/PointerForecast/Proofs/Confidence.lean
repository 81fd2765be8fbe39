/-
**The confidence never lengthens a prediction.**

A speed and a jank are mapped to `[0, 1]`, whatever they are: what is not a number gives way to a
bound. Their product is a confidence from zero to one, and a horizon scaled by it is not longer than
the one without. So a number of steps that reaches the target bounds the horizon, although each
operation on the way is rounded.

* `Double.inUnit_iff_value`: what lies in `[0, 1]`, by its value.
* `inUnit_normalize`, `inUnit_confidence`: **the confidence lies in `[0, 1]`.**
* `Double.Reaches`: when some steps at a rate reach a target.
* `Double.Reaches.ceilWord_div_le`, `Double.Reaches.horizon_le`: **then they bound the horizon.**
-/

import PointerForecast.Proofs.Double.Operations
import PointerForecast.Projection

namespace PointerForecast

namespace Double

/-! ### From zero to one -/

theorem inUnit_iff_value {x : Float} :
    InUnit x ↔ x.isNaN = false ∧ 0 ≤ value x ∧ value x ≤ 1 := by
  constructor
  · rintro ⟨low, high⟩
    have number := (not_isNaN_of_le high).1
    rw [le_iff_value not_isNaN_zero number, value_zero] at low
    rw [le_iff_value number not_isNaN_one, value_one] at high
    exact ⟨number, low, high⟩
  · rintro ⟨number, low, high⟩
    refine ⟨?_, ?_⟩
    · rwa [le_iff_value not_isNaN_zero number, value_zero]
    · rwa [le_iff_value number not_isNaN_one, value_one]

theorem InUnit.isFinite {x : Float} (bounds : InUnit x) : x.isFinite = true := by
  obtain ⟨number, low, high⟩ := inUnit_iff_value.mp bounds
  rw [isFinite_iff, abs_of_nonneg low]
  exact ⟨number, high.trans_lt one_lt_limit⟩

theorem isFinite_one : (1 : Float).isFinite = true := rfl

/-- What lies in `[0, 1]` stays there when it is rounded. -/
theorem Denotes.inUnit {x : Float} {v : ℝ} (denotes : Denotes x (rounded v)) (low : 0 ≤ v)
    (high : v ≤ 1) : InUnit x := by
  obtain ⟨number, same⟩ := denotes
  rw [inUnit_iff_value, same]
  exact ⟨number, rounded_nonneg low, rounded_le representable_one high⟩

theorem InUnit.one_sub {x : Float} (bounds : InUnit x) : InUnit (1 - x) := by
  obtain ⟨_, low, high⟩ := inUnit_iff_value.mp bounds
  refine (denotes_sub isFinite_one bounds.isFinite).inUnit ?_ ?_
  · rw [value_one]
    exact sub_nonneg.mpr high
  · rw [value_one]
    exact sub_le_self 1 low

theorem InUnit.mul {x y : Float} (bounds : InUnit x) (bounds' : InUnit y) : InUnit (x * y) := by
  obtain ⟨_, low, high⟩ := inUnit_iff_value.mp bounds
  obtain ⟨_, low', high'⟩ := inUnit_iff_value.mp bounds'
  exact (denotes_mul bounds.isFinite bounds'.isFinite).inUnit (mul_nonneg low low')
    (mul_le_one₀ high low' high')

/-- Whatever is cut off at zero and one lies between them. -/
theorem inUnit_cut (x : Float) : InUnit (Scalar.min (Scalar.max x 0) 1) := by
  have nonneg : (Scalar.max x 0).isNaN = false ∧ ¬ Scalar.max x 0 < 0 := by
    unfold Scalar.max
    by_cases low : (Scalar.isNaN x || decide (x < 0)) = true
    · rw [if_pos low]
      exact ⟨rfl, by decide⟩
    · rw [if_neg low]
      rw [Bool.or_eq_true, not_or, decide_eq_true_iff] at low
      exact ⟨Bool.eq_false_iff.mpr low.1, low.2⟩
  generalize Scalar.max x 0 = cut at nonneg
  obtain ⟨number, nonneg⟩ := nonneg
  unfold Scalar.min
  by_cases high : (Scalar.isNaN cut || decide ((1 : Float) < cut)) = true
  · rw [if_pos high]
    exact ⟨rfl, rfl⟩
  · rw [if_neg high]
    rw [Bool.or_eq_true, not_or, decide_eq_true_iff] at high
    exact ⟨le_of_not_lt number not_isNaN_zero nonneg, le_of_not_lt not_isNaN_one number high.2⟩

end Double

open Double

/-! ### The confidence -/

theorem inUnit_normalize (a low high : Float) : InUnit (normalize a low high) := inUnit_cut _

/-- **The confidence lies in `[0, 1]`**, whatever the speed and the jank are. -/
theorem inUnit_confidence (speed jank : Float) : InUnit (confidence speed jank) :=
  (inUnit_normalize _ _ _).mul (inUnit_normalize _ _ _).one_sub

/-! ### The horizon -/

theorem Double.ceilWord_le {x : Float} {bound : ℕ} (le : value x ≤ bound) : ceilWord x ≤ bound := by
  rw [ceilWord_eq]
  exact (min_le_left _ _).trans (Nat.ceil_le.mpr le)

/-- Holds if a number of steps at a rate, few enough to be a double, reaches a target. -/
structure Double.Reaches (steps : ℕ) (rate target : Float) : Prop where
  finite_rate : rate.isFinite = true
  finite_target : target.isFinite = true
  positive : 0 < value rate
  nonneg : 0 ≤ value target
  few : steps ≤ 2 ^ 53
  reaches : value target ≤ steps * value rate

namespace Double.Reaches

variable {steps : ℕ} {rate target : Float} (reach : Reaches steps rate target)

include reach

/-- The target over the rate is finite, and rounding does not take it past the steps. -/
theorem quotient : (target / rate).isFinite = true ∧ 0 ≤ value (target / rate) ∧
    value (target / rate) ≤ steps := by
  have representable : Representable steps := by
    have digits : |(steps : ℤ)| ≤ 2 ^ 53 := by
      rw [abs_of_nonneg (Int.natCast_nonneg steps)]
      exact_mod_cast reach.few
    simpa using representable_intCast digits
  obtain ⟨number, same⟩ := denotes_div reach.finite_target reach.finite_rate reach.positive.ne'
  have low : 0 ≤ value (target / rate) := by
    rw [same]
    exact rounded_nonneg (div_nonneg reach.nonneg reach.positive.le)
  have high : value (target / rate) ≤ steps := by
    rw [same]
    exact rounded_le representable ((div_le_iff₀ reach.positive).mpr reach.reaches)
  have few : (steps : ℝ) ≤ 2 ^ (53 : ℤ) := by exact_mod_cast reach.few
  refine ⟨isFinite_iff.mpr ⟨number, ?_⟩, low, high⟩
  calc |value (target / rate)| = value (target / rate) := abs_of_nonneg low
    _ ≤ 2 ^ (53 : ℤ) := high.trans few
    _ < limit := zpow_lt_zpow_right₀ one_lt_two (by norm_num)

theorem ceilWord_div_le : ceilWord (target / rate) ≤ steps := ceilWord_le reach.quotient.2.2

/-- **Steps that reach the target bound the horizon.** -/
theorem horizon_le {confidence : Float} (bounds : InUnit confidence) :
    horizon target rate confidence ≤ steps := by
  obtain ⟨finite, low, high⟩ := reach.quotient
  obtain ⟨_, low', high'⟩ := inUnit_iff_value.mp bounds
  have same := (denotes_mul finite bounds.isFinite).2
  have scaled : rounded (value (target / rate) * value confidence) ≤ value (target / rate) :=
    rounded_le (representable_value _) (mul_le_of_le_one_right low high')
  exact ceilWord_le ((same.trans_le scaled).trans high)

end Double.Reaches

end PointerForecast
