/-
**Order and monotone operations in double precision.**

One double is at most another one if both are numbers and their values are in this order. Rounding is
monotone, so an operation that is a monotone function of the value, rounded, respects the order of
finite doubles. It respects the order of all numbers if it also leaves an infinite one as it is: that
is so of a difference from a finite double, and of a quotient and a product with a finite positive one.

* `le_iff`, `Denotes.le`: the order by values.
* `Ascends`: an operation that is monotone and keeps what is infinite; `Ascends.le`: **it respects the
  order of numbers.**
* `ascends_sub`, `ascends_div`, `ascends_mul`: the operations.
* `max_mono`, `min_mono`, `ceilWord_mono`: cutting off, and the ceiling.
* `sub_anti`, `div_anti`, `value_mul_of_zero`: what the other operand does.
-/

import PointerForecast.Proofs.Double.Operations

namespace PointerForecast.Double

open Float.Model (Format UnpackedFloat)
open Float.Model.UnpackedFloat

/-! ### The order by values -/

variable {x y : Float}

theorem le_iff : x ≤ y ↔ (x.isNaN = false ∧ y.isNaN = false) ∧ value x ≤ value y := by
  constructor
  · intro le
    have numbers := not_isNaN_of_le le
    exact ⟨numbers, (le_iff_value numbers.1 numbers.2).mp le⟩
  · rintro ⟨⟨number, other⟩, le⟩
    exact (le_iff_value number other).mpr le

theorem Denotes.le {v w : ℝ} (first : Denotes x v) (second : Denotes y w) (le : v ≤ w) : x ≤ y :=
  le_iff.mpr ⟨⟨first.1, second.1⟩, first.2.trans_le (le.trans_eq second.2.symm)⟩

theorem value_pos (positive : 0 < x) : 0 < value x := by
  have above := (lt_iff_value.mp positive).2
  rwa [value_zero] at above

/-! ### Infinite values -/

theorem denotes_infinity {s : Sign} (unpacked : x.toModel.unpack = .infinity s) :
    Denotes x (signed s limit) := by
  refine ⟨?_, ?_⟩
  · show x.toModel.unpack.isNaN = false
    rw [unpacked]
    rfl
  · rw [value, unpacked]
    rfl

/-- An operation that keeps an infinite operand keeps it when the result is packed. -/
theorem unpack_of_infinity (operation : UnpackedFloat → UnpackedFloat → UnpackedFloat) {s : Sign}
    (keeps : operation (.infinity s) y.toModel.unpack = .infinity s)
    (unpacked : x.toModel.unpack = .infinity s) :
    (Float.ofModel (.pack (operation x.toModel.unpack y.toModel.unpack))).toModel.unpack =
      .infinity s := by
  rw [unpacked, keeps]
  exact unpack_pack_infinity s

/-- A positive finite double is unpacked to a positive significand. -/
theorem exists_unpack_of_pos (finite : x.isFinite = true) (positive : 0 < value x) :
    ∃ m e nonzero, x.toModel.unpack = .finite .positive m e nonzero := by
  change x.toModel.unpack.isFinite = true at finite
  unfold value at positive
  cases unpacked : x.toModel.unpack with
  | notANumber => rw [unpacked] at finite; cases finite
  | infinity s => rw [unpacked] at finite; cases finite
  | zero s => rw [unpacked] at positive; exact absurd positive (lt_irrefl _)
  | finite s m e nonzero =>
    cases s with
    | positive => exact ⟨m, e, nonzero, rfl⟩
    | negative =>
      rw [unpacked] at positive
      have above : (0 : ℝ) ≤ gridPoint m e := by positivity
      exact absurd positive (not_lt.mpr (neg_nonpos.mpr above))

/-- A double of value zero is unpacked to a zero. -/
theorem exists_unpack_of_zero (finite : x.isFinite = true) (zero : value x = 0) :
    ∃ s, x.toModel.unpack = .zero s := by
  change x.toModel.unpack.isFinite = true at finite
  unfold value at zero
  cases unpacked : x.toModel.unpack with
  | notANumber => rw [unpacked] at finite; cases finite
  | infinity s => rw [unpacked] at finite; cases finite
  | zero s => exact ⟨s, rfl⟩
  | finite s m e nonzero =>
    rw [unpacked] at zero
    have above : (0 : ℝ) < |gridPoint m e| := by positivity
    have same : |gridPoint m e| = 0 := (abs_signed s _).symm.trans (abs_eq_zero.mpr zero)
    exact absurd same above.ne'

/-! ### Monotone operations -/

/-- Holds of an operation that is a monotone function of the value, rounded, and leaves what is
infinite as it is. -/
structure Ascends (f : Float → Float) (v : ℝ → ℝ) : Prop where
  mono : Monotone v
  finite : ∀ {x}, x.isFinite = true → Denotes (f x) (rounded (v (value x)))
  infinity : ∀ {x s}, x.toModel.unpack = .infinity s → (f x).toModel.unpack = .infinity s

namespace Ascends

variable {f : Float → Float} {v : ℝ → ℝ} (ascends : Ascends f v)

include ascends

/-- A number stays one. -/
theorem exists_denotes (number : x.isNaN = false) : ∃ w, Denotes (f x) w := by
  by_cases finite : x.isFinite = true
  · exact ⟨_, ascends.finite finite⟩
  · obtain ⟨s, unpacked⟩ := exists_infinity number finite
    exact ⟨_, denotes_infinity (ascends.infinity unpacked)⟩

/-- **A monotone operation respects the order of numbers.** -/
theorem le (le : x ≤ y) : f x ≤ f y := by
  obtain ⟨⟨number, other⟩, below⟩ := le_iff.mp le
  obtain ⟨v', first⟩ := ascends.exists_denotes number
  obtain ⟨w', second⟩ := ascends.exists_denotes other
  refine first.le second ?_
  rw [← first.2, ← second.2]
  by_cases finite : x.isFinite = true
  · by_cases finite' : y.isFinite = true
    · rw [(ascends.finite finite).2, (ascends.finite finite').2]
      exact rounded_mono (ascends.mono below)
    · -- an infinite value above a finite one is the greatest of all
      obtain ⟨s, unpacked⟩ := exists_infinity other finite'
      have inside := (isFinite_iff.mp finite).2
      cases s with
      | negative =>
        rw [(denotes_infinity unpacked).2] at below
        exact absurd below (not_le.mpr (abs_lt.mp inside).1)
      | positive =>
        rw [(denotes_infinity (ascends.infinity unpacked)).2]
        exact (le_abs_self _).trans (abs_value_le _)
  · obtain ⟨s, unpacked⟩ := exists_infinity number finite
    rw [(denotes_infinity (ascends.infinity unpacked)).2]
    cases s with
    | negative => exact (abs_le.mp (abs_value_le _)).1
    | positive =>
      rw [(denotes_infinity unpacked).2] at below
      have top : ¬ y.isFinite = true := fun inside =>
        absurd below (not_le.mpr (abs_lt.mp (isFinite_iff.mp inside).2).2)
      obtain ⟨t, unpacked'⟩ := exists_infinity other top
      rw [(denotes_infinity unpacked').2] at below
      rw [(denotes_infinity (ascends.infinity unpacked')).2]
      exact below

end Ascends

variable {c : Float}

/-- **A difference from a finite double.** -/
theorem ascends_sub (finite : c.isFinite = true) : Ascends (· - c) (· - value c) where
  mono _ _ le := sub_le_sub_right le _
  finite inside := denotes_sub inside finite
  infinity {x s} unpacked := by
    refine unpack_of_infinity (UnpackedFloat.sub Format.binary64) ?_ unpacked
    change c.toModel.unpack.isFinite = true at finite
    cases unpacked' : c.toModel.unpack with
    | notANumber => rw [unpacked'] at finite; cases finite
    | infinity t => rw [unpacked'] at finite; cases finite
    | zero t => rfl
    | finite t m e positive => rfl

/-- **A quotient by a finite positive double.** -/
theorem ascends_div (finite : c.isFinite = true) (positive : 0 < value c) :
    Ascends (· / c) (· / value c) where
  mono _ _ le := div_le_div_of_nonneg_right le positive.le
  finite inside := denotes_div inside finite positive.ne'
  infinity {x s} unpacked := by
    refine unpack_of_infinity (UnpackedFloat.div Format.binary64) ?_ unpacked
    obtain ⟨m, e, nonzero, unpacked'⟩ := exists_unpack_of_pos finite positive
    rw [unpacked']
    cases s <;> rfl

/-- **A product with a finite positive double.** -/
theorem ascends_mul (finite : c.isFinite = true) (positive : 0 < value c) :
    Ascends (· * c) (· * value c) where
  mono _ _ le := mul_le_mul_of_nonneg_right le positive.le
  finite inside := denotes_mul inside finite
  infinity {x s} unpacked := by
    refine unpack_of_infinity (UnpackedFloat.mul Format.binary64) ?_ unpacked
    obtain ⟨m, e, nonzero, unpacked'⟩ := exists_unpack_of_pos finite positive
    rw [unpacked']
    cases s <;> rfl

/-! ### Cutting off -/

/-- Of numbers, the test of either limit is that of the values. -/
theorem replaces_iff {a b : Float} (number : x.isNaN = false) (first : a.isNaN = false)
    (second : b.isNaN = false) :
    (Scalar.isNaN x || decide (a < b)) = true ↔ value a < value b := by
  have test : Scalar.isNaN x = false := number
  rw [test, Bool.false_or, decide_eq_true_iff, lt_iff_value]
  exact ⟨And.right, fun below => ⟨⟨first, second⟩, below⟩⟩

theorem denotes_max (number : x.isNaN = false) (other : y.isNaN = false) :
    Denotes (Scalar.max x y) (max (value x) (value y)) := by
  have test := replaces_iff number number other
  unfold Scalar.max
  by_cases below : value x < value y
  · rw [if_pos (test.mpr below), max_eq_right below.le]
    exact ⟨other, rfl⟩
  · rw [if_neg (mt test.mp below), max_eq_left (not_lt.mp below)]
    exact ⟨number, rfl⟩

theorem denotes_min (number : x.isNaN = false) (other : y.isNaN = false) :
    Denotes (Scalar.min x y) (min (value x) (value y)) := by
  have test := replaces_iff number other number
  unfold Scalar.min
  by_cases below : value y < value x
  · rw [if_pos (test.mpr below), min_eq_right below.le]
    exact ⟨other, rfl⟩
  · rw [if_neg (mt test.mp below), min_eq_left (not_lt.mp below)]
    exact ⟨number, rfl⟩

/-- Cutting off from below respects the order. -/
theorem max_mono (number : c.isNaN = false) (le : x ≤ y) : Scalar.max x c ≤ Scalar.max y c := by
  obtain ⟨⟨first, second⟩, below⟩ := le_iff.mp le
  exact (denotes_max first number).le (denotes_max second number) (max_le_max below le_rfl)

/-- Cutting off from above respects the order. -/
theorem min_mono (number : c.isNaN = false) (le : x ≤ y) : Scalar.min x c ≤ Scalar.min y c := by
  obtain ⟨⟨first, second⟩, below⟩ := le_iff.mp le
  exact (denotes_min first number).le (denotes_min second number) (min_le_min below le_rfl)

/-- Of larger values the ceiling is no smaller. -/
theorem ceilWord_mono (le : value x ≤ value y) : ceilWord x ≤ ceilWord y := by
  rw [ceilWord_eq, ceilWord_eq]
  exact min_le_min (Nat.ceil_mono le) le_rfl

/-! ### The other operand -/

/-- The less is subtracted, the more is left. -/
theorem sub_anti (finite : c.isFinite = true) (first : x.isFinite = true)
    (second : y.isFinite = true) (le : x ≤ y) : c - y ≤ c - x :=
  (denotes_sub finite second).le (denotes_sub finite first)
    (rounded_mono (sub_le_sub_left (le_iff.mp le).2 _))

/-- The less a quotient is divided by, the larger it is; an infinite one stays infinite. -/
theorem div_anti (nonneg : 0 ≤ c) (first : x.isFinite = true) (second : y.isFinite = true)
    (positive : 0 < value x) (le : x ≤ y) : c / y ≤ c / x := by
  obtain ⟨⟨_, number⟩, above⟩ := le_iff.mp nonneg
  have below := (le_iff.mp le).2
  have positive' := positive.trans_le below
  by_cases finite : c.isFinite = true
  · exact (denotes_div finite second positive'.ne').le (denotes_div finite first positive.ne')
      (rounded_mono (div_le_div_of_nonneg_left above positive below))
  · obtain ⟨s, unpacked⟩ := exists_infinity number finite
    exact (denotes_infinity ((ascends_div second positive').infinity unpacked)).le
      (denotes_infinity ((ascends_div first positive).infinity unpacked)) le_rfl

/-- **What is multiplied by zero has no value**: it is a zero, or not a number. -/
theorem value_mul_of_zero (number : c.isNaN = false) (zero : value c = 0) (x : Float) :
    value (x * c) = 0 := by
  have finite : c.isFinite = true := by
    rw [isFinite_iff, zero, abs_zero]
    exact ⟨number, limit_pos⟩
  by_cases inside : x.isFinite = true
  · rw [(denotes_mul inside finite).2, zero, mul_zero, rounded_zero]
  · by_cases other : x.isNaN = true
    · exact value_of_isNaN (isNaN_mul (Or.inl other))
    · obtain ⟨s, unpacked⟩ := exists_infinity (Bool.eq_false_iff.mpr other) inside
      obtain ⟨t, unpacked'⟩ := exists_unpack_of_zero finite zero
      refine value_of_isNaN (isNaN_pack (u := UnpackedFloat.mul Format.binary64 x.toModel.unpack
        c.toModel.unpack) ?_)
      rw [unpacked, unpacked']
      rfl

end PointerForecast.Double
