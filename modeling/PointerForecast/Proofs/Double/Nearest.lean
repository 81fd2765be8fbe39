/-
**The nearest double of a real number.**

The doubles around a real number `v` lie on a grid, the multiples of a power of two with 53 digits
before `v` leaves the grid. Rounding takes the nearest point of the grid, the even one of two that
are equally near, and cuts the result off at the first power of two out of range, which stands for
infinity. Grids get coarser away from zero, each contains the powers of two that the finer ones end
at, and so rounding is monotone.

* `IsNearest`, `nearestInt`: the nearest integer.
* `gridExponent`, `onGrid`: the nearest point of the grid, without a range.
* `rounded`: **the nearest double.**
* `rounded_mono`, `rounded_of_representable`: it is monotone, and fixes what is representable.
* `rounded_le`: so it passes no bound that is representable.
-/

import Mathlib

namespace PointerForecast.Double

/-! ### The nearest integer -/

/-- Holds of an integer nearest to a real number, which is even if there are two. -/
def IsNearest (v : ℝ) (n : ℤ) : Prop := 2 * |v - n| < 1 ∨ 2 * |v - n| = 1 ∧ Even n

/-- The nearest integer, and the even one of two that are equally near. -/
noncomputable def nearestInt (v : ℝ) : ℤ :=
  if 2 * Int.fract v < 1 ∨ 2 * Int.fract v = 1 ∧ Even ⌊v⌋ then ⌊v⌋ else ⌊v⌋ + 1

theorem isNearest_nearestInt (v : ℝ) : IsNearest v (nearestInt v) := by
  have low := Int.fract_nonneg v
  have high := Int.fract_lt_one v
  have below : |v - ⌊v⌋| = Int.fract v := abs_of_nonneg low
  have above : |v - (⌊v⌋ + 1 : ℤ)| = 1 - Int.fract v := by
    have gap : v - (⌊v⌋ + 1 : ℤ) = -(1 - Int.fract v) := by
      rw [Int.fract]
      push_cast
      ring
    rw [gap, abs_neg, abs_of_nonneg (by linarith)]
  unfold nearestInt
  by_cases near : 2 * Int.fract v < 1 ∨ 2 * Int.fract v = 1 ∧ Even ⌊v⌋
  · rw [if_pos near, IsNearest, below]
    exact near
  · rw [if_neg near, IsNearest, above]
    obtain ⟨far, odd⟩ := not_or.mp near
    rcases lt_or_eq_of_le (not_lt.mp far) with beyond | half
    · exact Or.inl (by linarith)
    · exact Or.inr ⟨by linarith, Int.even_add_one.mpr fun even => odd ⟨half.symm, even⟩⟩

/-- **Nearest integers are ordered as the numbers are.** Were the first one larger, both numbers
would lie in the middle of two consecutive integers, which are not both even. -/
theorem IsNearest.mono {v w : ℝ} {m n : ℤ} (first : IsNearest v m) (second : IsNearest w n)
    (le : v ≤ w) : m ≤ n := by
  by_contra larger
  have apart : (n : ℝ) + 1 ≤ m := by exact_mod_cast not_le.mp larger
  have before := neg_abs_le (v - m)
  have after := le_abs_self (w - n)
  rcases first with near | ⟨half, even⟩
  · rcases second with near' | ⟨half', _⟩ <;> linarith
  · rcases second with near' | ⟨half', even'⟩
    · linarith
    · have consecutive : m = n + 1 := by
        have close : (m : ℝ) ≤ n + 1 := by linarith
        have close' : m ≤ n + 1 := by exact_mod_cast close
        omega
      rw [consecutive] at even
      exact Int.even_add_one.mp even even'

theorem nearestInt_eq {v : ℝ} {n : ℤ} (nearest : IsNearest v n) : nearestInt v = n :=
  le_antisymm ((isNearest_nearestInt v).mono nearest le_rfl)
    (nearest.mono (isNearest_nearestInt v) le_rfl)

theorem nearestInt_mono : Monotone nearestInt := fun v w le =>
  (isNearest_nearestInt v).mono (isNearest_nearestInt w) le

@[simp]
theorem nearestInt_intCast (n : ℤ) : nearestInt n = n := nearestInt_eq (Or.inl (by simp))

@[simp]
theorem nearestInt_zero : nearestInt 0 = 0 := by
  simpa using nearestInt_intCast 0

@[simp]
theorem nearestInt_neg (v : ℝ) : nearestInt (-v) = -nearestInt v := by
  have same : |-v - (-nearestInt v : ℤ)| = |v - nearestInt v| := by
    rw [← abs_neg]
    push_cast
    congr 1
    ring
  apply nearestInt_eq
  rw [IsNearest, same, even_neg]
  exact isNearest_nearestInt v

/-! ### The grid -/

/-- The exponent of the grid around a real number. -/
noncomputable def gridExponent (v : ℝ) : ℤ := max (Int.log 2 |v| - 52) (-1074)

/-- The point that a number of steps from zero leads to, on the grid with an exponent. -/
noncomputable abbrev gridPoint (steps : ℝ) (exponent : ℤ) : ℝ := steps * 2 ^ exponent

/-- How many steps of the grid the nearest point of it is from zero. -/
noncomputable def significand (v : ℝ) : ℤ := nearestInt (v / 2 ^ gridExponent v)

/-- The nearest point of the grid. -/
noncomputable def onGrid (v : ℝ) : ℝ := gridPoint (significand v) (gridExponent v)

@[simp]
theorem gridExponent_neg (v : ℝ) : gridExponent (-v) = gridExponent v := by
  rw [gridExponent, abs_neg, gridExponent]

@[simp]
theorem onGrid_neg (v : ℝ) : onGrid (-v) = -onGrid v := by
  rw [onGrid, significand, gridExponent_neg, neg_div, nearestInt_neg, onGrid, significand]
  push_cast
  ring

@[simp]
theorem onGrid_zero : onGrid 0 = 0 := by
  simp [onGrid, significand]

theorem least_le_gridExponent (v : ℝ) : -1074 ≤ gridExponent v := le_max_right _ _

/-- A number has no more than 53 digits before its grid. -/
theorem abs_lt_two_zpow (v : ℝ) : |v| < 2 ^ (gridExponent v + 53) := by
  have digits : |v| < 2 ^ (Int.log 2 |v| + 1) := Int.lt_zpow_succ_log_self one_lt_two |v|
  refine digits.trans_le (zpow_le_zpow_right₀ one_le_two ?_)
  have coarse : Int.log 2 |v| - 52 ≤ gridExponent v := le_max_left _ _
  omega

/-- A number has 53 digits before its grid, unless the grid is the finest one. -/
theorem two_zpow_le_abs {v : ℝ} (nonzero : v ≠ 0) (coarse : -1074 < gridExponent v) :
    (2 : ℝ) ^ (gridExponent v + 52) ≤ |v| := by
  have digits : ((2 : ℕ) : ℝ) ^ Int.log 2 |v| ≤ |v| :=
    Int.zpow_log_le_self one_lt_two (abs_pos.mpr nonzero)
  have exponent : gridExponent v + 52 = Int.log 2 |v| := by
    unfold gridExponent at coarse ⊢
    omega
  rw [exponent]
  exact_mod_cast digits

/-- A number of few digits before an exponent lies around a grid that is not coarser. -/
theorem gridExponent_le {v : ℝ} {e : ℤ} (nonzero : v ≠ 0) (few : |v| < 2 ^ (e + 53))
    (least : -1074 ≤ e) : gridExponent v ≤ e := by
  have digits : Int.log 2 |v| < e + 53 := by
    refine (Int.lt_zpow_iff_log_lt one_lt_two (abs_pos.mpr nonzero)).mp ?_
    exact_mod_cast few
  unfold gridExponent
  omega

theorem significand_nonneg {v : ℝ} (nonneg : 0 ≤ v) : 0 ≤ significand v := by
  have quotient : (0 : ℝ) ≤ v / 2 ^ gridExponent v := by positivity
  exact nearestInt_zero.symm.trans_le (nearestInt_mono quotient)

theorem significand_le (v : ℝ) : significand v ≤ 2 ^ 53 := by
  have quotient : v / 2 ^ gridExponent v ≤ (2 ^ 53 : ℤ) := by
    rw [div_le_iff₀ (by positivity)]
    refine (le_abs_self v).trans ((abs_lt_two_zpow v).le.trans_eq ?_)
    rw [zpow_add₀ two_ne_zero, mul_comm]
    norm_num
  exact (nearestInt_mono quotient).trans_eq (nearestInt_intCast _)

theorem le_significand {v : ℝ} (positive : 0 < v) (coarse : -1074 < gridExponent v) :
    2 ^ 52 ≤ significand v := by
  have quotient : (2 ^ 52 : ℤ) ≤ v / 2 ^ gridExponent v := by
    rw [le_div_iff₀ (by positivity)]
    refine Eq.trans_le ?_ ((two_zpow_le_abs positive.ne' coarse).trans_eq (abs_of_pos positive))
    rw [zpow_add₀ two_ne_zero, mul_comm]
    norm_num
  exact (nearestInt_intCast _).symm.trans_le (nearestInt_mono quotient)

theorem onGrid_nonneg {v : ℝ} (nonneg : 0 ≤ v) : 0 ≤ onGrid v := by
  have nearest : (0 : ℝ) ≤ significand v := by exact_mod_cast significand_nonneg nonneg
  unfold onGrid
  positivity

/-- A multiple of a power of two that is not finer than the grid is a point of the grid. -/
theorem onGrid_of_le {m e : ℤ} (fine : gridExponent (m * 2 ^ e) ≤ e) :
    onGrid (m * 2 ^ e) = m * 2 ^ e := by
  obtain ⟨k, same⟩ := Int.eq_ofNat_of_zero_le (sub_nonneg.mpr fine)
  have quotient : (m * 2 ^ e : ℝ) / 2 ^ gridExponent (m * 2 ^ e) = (m * 2 ^ k : ℤ) := by
    rw [mul_div_assoc, ← zpow_sub₀ two_ne_zero, same]
    push_cast
    rfl
  rw [onGrid, significand, quotient, nearestInt_intCast, ← quotient]
  exact div_mul_cancel₀ _ (by positivity)

/-- **What has no more than 53 digits is a point of its grid.** -/
theorem onGrid_of_few {m e : ℤ} (few : |m| ≤ 2 ^ 53) (least : -1074 ≤ e) :
    onGrid (m * 2 ^ e) = m * 2 ^ e := by
  by_cases zero : m = 0
  · simp [zero]
  have nonzero : (m : ℝ) ≠ 0 := by exact_mod_cast zero
  rcases lt_or_eq_of_le few with fewer | most
  · refine onGrid_of_le (gridExponent_le (by positivity) ?_ least)
    have bound : |(m : ℝ)| < 2 ^ 53 := by exact_mod_cast fewer
    rw [abs_mul, abs_of_pos (by positivity : (0 : ℝ) < 2 ^ e), zpow_add₀ two_ne_zero, mul_comm]
    exact mul_lt_mul_of_pos_left bound (by positivity)
  · -- a power of two has a digit to spare, so half as many twice as coarse will do
    obtain ⟨half, rfl⟩ : ∃ half, m = 2 * half := by
      rcases abs_choice m with same | opposite
      · exact ⟨2 ^ 52, by omega⟩
      · exact ⟨-2 ^ 52, by omega⟩
    have double : ((2 * half : ℤ) : ℝ) * 2 ^ e = half * 2 ^ (e + 1) := by
      rw [zpow_add_one₀ two_ne_zero]
      push_cast
      ring
    rw [double]
    refine onGrid_of_le (gridExponent_le ?_ ?_ (by omega))
    · rw [← double]
      positivity
    · have bound : |(half : ℝ)| < 2 ^ 53 := by
        have : |half| < 2 ^ 53 := by
          rw [abs_mul, abs_two] at most
          omega
        exact_mod_cast this
      rw [abs_mul, abs_of_pos (by positivity : (0 : ℝ) < 2 ^ (e + 1)), zpow_add₀ two_ne_zero (e + 1),
        mul_comm]
      exact mul_lt_mul_of_pos_left bound (by positivity)

theorem onGrid_le_onGrid {v w : ℝ} (positive : 0 < v) (le : v ≤ w) : onGrid v ≤ onGrid w := by
  have positive' := positive.trans_le le
  have finer : gridExponent v ≤ gridExponent w := by
    have digits : Int.log 2 |v| ≤ Int.log 2 |w| := by
      rw [abs_of_pos positive, abs_of_pos positive']
      exact Int.log_mono_right positive le
    unfold gridExponent
    omega
  rcases lt_or_eq_of_le finer with coarser | same
  · -- the power of two at which the finer grid ends lies between the two results
    have coarse := (least_le_gridExponent v).trans_lt coarser
    have few : (significand v : ℝ) ≤ 2 ^ 53 := by exact_mod_cast significand_le v
    have many : (2 : ℝ) ^ 52 ≤ significand w := by exact_mod_cast le_significand positive' coarse
    calc onGrid v ≤ 2 ^ 53 * 2 ^ gridExponent v := mul_le_mul_of_nonneg_right few (by positivity)
      _ = 2 ^ 52 * 2 ^ (gridExponent v + 1) := by
        rw [zpow_add_one₀ two_ne_zero]
        ring
      _ ≤ 2 ^ 52 * 2 ^ gridExponent w :=
        mul_le_mul_of_nonneg_left (zpow_le_zpow_right₀ one_le_two coarser) (by positivity)
      _ ≤ onGrid w := mul_le_mul_of_nonneg_right many (by positivity)
  · unfold onGrid significand
    rw [same]
    refine mul_le_mul_of_nonneg_right ?_ (by positivity)
    have nearest := nearestInt_mono
      (div_le_div_of_nonneg_right le (by positivity : (0 : ℝ) ≤ 2 ^ gridExponent w))
    exact_mod_cast nearest

theorem onGrid_mono : Monotone onGrid := by
  intro v w le
  rcases lt_trichotomy v 0 with negative | rfl | positive
  · rcases lt_or_ge w 0 with negative' | nonneg
    · have mirrored := onGrid_le_onGrid (neg_pos.mpr negative') (neg_le_neg le)
      rw [onGrid_neg, onGrid_neg] at mirrored
      exact neg_le_neg_iff.mp mirrored
    · have mirrored := onGrid_nonneg (neg_nonneg.mpr negative.le)
      rw [onGrid_neg] at mirrored
      exact (neg_nonneg.mp mirrored).trans (onGrid_nonneg nonneg)
  · rw [onGrid_zero]
    exact onGrid_nonneg le
  · exact onGrid_le_onGrid positive le

/-! ### The range -/

/-- The first power of two out of range, which stands for infinity. -/
noncomputable def limit : ℝ := 2 ^ (1024 : ℤ)

theorem limit_pos : 0 < limit := zpow_pos two_pos _

theorem one_lt_limit : (1 : ℝ) < limit := one_lt_zpow₀ one_lt_two (by norm_num)

theorem neg_limit_le_limit : -limit ≤ limit := neg_le_self limit_pos.le

theorem limit_whole : ∃ k : ℤ, limit = k := by
  refine ⟨2 ^ 1024, ?_⟩
  rw [Int.cast_pow]
  exact zpow_natCast 2 1024

theorem two_zpow_le_limit {e : ℤ} (small : e ≤ 1024) : (2 : ℝ) ^ e ≤ limit :=
  zpow_le_zpow_right₀ one_le_two small

/-- The number cut off at the first powers of two out of range, which stand for infinity. -/
noncomputable def saturated (v : ℝ) : ℝ := max (-limit) (min v limit)

theorem saturated_mono : Monotone saturated := fun _ _ le =>
  max_le_max le_rfl (min_le_min le le_rfl)

theorem saturated_of_abs_le {v : ℝ} (bounded : |v| ≤ limit) : saturated v = v := by
  obtain ⟨low, high⟩ := abs_le.mp bounded
  rw [saturated, min_eq_left high, max_eq_right low]

theorem saturated_of_ge {v : ℝ} (above : limit ≤ v) : saturated v = limit := by
  rw [saturated, min_eq_right above, max_eq_right neg_limit_le_limit]

theorem saturated_of_le {v : ℝ} (below : v ≤ -limit) : saturated v = -limit := by
  have low : v ≤ limit := below.trans neg_limit_le_limit
  rw [saturated, min_eq_left low, max_eq_left below]

@[simp]
theorem saturated_neg (v : ℝ) : saturated (-v) = -saturated v := by
  by_cases bounded : |v| ≤ limit
  · rw [saturated_of_abs_le bounded, saturated_of_abs_le ((abs_neg v).trans_le bounded)]
  · rcases lt_abs.mp (not_le.mp bounded) with above | below
    · rw [saturated_of_ge above.le, saturated_of_le (neg_le_neg above.le)]
    · rw [saturated_of_ge below.le, saturated_of_le (le_neg.mp below.le), neg_neg]

/-- **The nearest double**, where the first power of two out of range stands for infinity. -/
noncomputable def rounded (v : ℝ) : ℝ := saturated (onGrid v)

/-- **Rounding is monotone.** -/
theorem rounded_mono : Monotone rounded := saturated_mono.comp onGrid_mono

@[simp]
theorem rounded_neg (v : ℝ) : rounded (-v) = -rounded v := by
  simp [rounded]

@[simp]
theorem rounded_zero : rounded 0 = 0 := by
  rw [rounded, onGrid_zero, saturated_of_abs_le (abs_zero.trans_le limit_pos.le)]

theorem rounded_nonneg {v : ℝ} (nonneg : 0 ≤ v) : 0 ≤ rounded v := by
  simpa using rounded_mono nonneg

/-- A whole number is rounded to a whole number: its grid is of whole numbers, or so fine that the
number is on it. -/
theorem exists_rounded_intCast (n : ℤ) : ∃ k : ℤ, rounded n = k := by
  have whole : ∃ k : ℤ, onGrid n = k := by
    by_cases fine : gridExponent n ≤ 0
    · have same := onGrid_of_le (m := n) (e := 0) (by simpa using fine)
      exact ⟨n, by simpa using same⟩
    · obtain ⟨k, same⟩ := Int.eq_ofNat_of_zero_le (not_le.mp fine).le
      refine ⟨significand n * 2 ^ k, ?_⟩
      rw [onGrid, same]
      push_cast
      rfl
  obtain ⟨k, same⟩ := whole
  obtain ⟨l, most⟩ := limit_whole
  refine ⟨max (-l) (min k l), ?_⟩
  rw [rounded, same, saturated, most]
  push_cast
  rfl

/-! ### What is representable -/

/-- Holds of the values of doubles: no more than 53 digits, and none out of range. -/
def Representable (v : ℝ) : Prop :=
  |v| ≤ limit ∧ ∃ m e : ℤ, |m| ≤ 2 ^ 53 ∧ -1074 ≤ e ∧ v = m * 2 ^ e

/-- **What is representable is its own nearest double.** -/
theorem rounded_of_representable {v : ℝ} (representable : Representable v) : rounded v = v := by
  obtain ⟨range, m, e, few, least, rfl⟩ := representable
  rw [rounded, onGrid_of_few few least, saturated_of_abs_le range]

/-- **Rounding passes no bound that is representable.** -/
theorem rounded_le {v bound : ℝ} (representable : Representable bound) (le : v ≤ bound) :
    rounded v ≤ bound :=
  (rounded_mono le).trans_eq (rounded_of_representable representable)

theorem representable_intCast {n : ℤ} (few : |n| ≤ 2 ^ 53) : Representable n := by
  have range : |(n : ℝ)| ≤ 2 ^ (53 : ℤ) := by exact_mod_cast few
  refine ⟨range.trans (two_zpow_le_limit (by norm_num)), n, 0, few, by norm_num, ?_⟩
  rw [zpow_zero, mul_one]

theorem representable_zero : Representable 0 := by
  simpa using representable_intCast (n := 0) (by norm_num)

theorem representable_one : Representable 1 := by
  simpa using representable_intCast (n := 1) (by norm_num)

theorem representable_limit : Representable limit :=
  ⟨(abs_of_pos limit_pos).le, 1, 1024, by norm_num, by norm_num, by rw [Int.cast_one, one_mul]; rfl⟩

theorem Representable.neg {v : ℝ} (representable : Representable v) : Representable (-v) := by
  obtain ⟨range, m, e, few, least, rfl⟩ := representable
  refine ⟨(abs_neg _).trans_le range, -m, e, (abs_neg m).trans_le few, least, ?_⟩
  push_cast
  ring

/-- What is representable and not whole has few digits before the point. -/
theorem Representable.abs_lt_of_not_whole {v : ℝ} (representable : Representable v)
    (broken : ∀ n : ℤ, v ≠ n) : |v| < 2 ^ 53 := by
  obtain ⟨_, m, e, few, _, rfl⟩ := representable
  have fraction : e < 0 := by
    by_contra whole
    obtain ⟨k, same⟩ := Int.eq_ofNat_of_zero_le (not_lt.mp whole)
    refine broken (m * 2 ^ k) ?_
    rw [same]
    push_cast
    rfl
  have small : (2 : ℝ) ^ e < 1 := zpow_lt_one_of_neg₀ one_lt_two fraction
  have few' : |(m : ℝ)| ≤ 2 ^ 53 := by exact_mod_cast few
  calc |(m : ℝ) * 2 ^ e| = |(m : ℝ)| * 2 ^ e := by
        rw [abs_mul, abs_of_pos (by positivity : (0 : ℝ) < 2 ^ e)]
    _ ≤ 2 ^ 53 * 2 ^ e := mul_le_mul_of_nonneg_right few' (by positivity)
    _ < 2 ^ 53 := mul_lt_of_lt_one_right (by positivity) small

end PointerForecast.Double
