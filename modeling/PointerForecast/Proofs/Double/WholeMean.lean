/-
**Sums and means of whole numbers in double precision.**

A sum of two whole numbers is rounded to a whole number, so as long as a sum from left to right stays
finite, it is whole. If it is positive, it is at least one, and the mean of at most twenty terms is
at least the double nearest to a twentieth. That one is a little above a twentieth.

* `whole_foldl_add`, `whole_sum`: **a finite sum of whole numbers is whole.**
* `twentieth_le_rounded`: a twentieth is rounded up.
* `one_le_mean`: **a positive mean of at most twenty whole numbers is at least a twentieth.**
-/

import PointerForecast.Proofs.Double.Operations

namespace PointerForecast.Double

/-! ### Sums -/

variable {first : Float}

theorem isFinite_of_foldl_add {terms : List Float}
    (finite : (terms.foldl (· + ·) first).isFinite = true) : first.isFinite = true := by
  induction terms generalizing first with
  | nil => exact finite
  | cons term rest ih =>
    by_contra special
    have spread := isFinite_add (y := term) (Or.inl (Bool.eq_false_iff.mpr special))
    exact Bool.false_ne_true (spread.symm.trans (ih finite))

theorem whole_ofInt (n : ℤ) : ∃ k : ℤ, value (n : Float) = k := by
  obtain ⟨k, same⟩ := exists_rounded_intCast n
  exact ⟨k, (denotes_ofInt n).2.trans same⟩

theorem whole_add {x y : Float} (finite : (x + y).isFinite = true)
    (whole : ∃ k : ℤ, value x = k) (whole' : ∃ k : ℤ, value y = k) :
    ∃ k : ℤ, value (x + y) = k := by
  have finite' : x.isFinite = true ∧ y.isFinite = true := by
    by_contra special
    rw [not_and_or, Bool.not_eq_true, Bool.not_eq_true] at special
    exact Bool.false_ne_true ((isFinite_add special).symm.trans finite)
  obtain ⟨k, same⟩ := whole
  obtain ⟨l, same'⟩ := whole'
  obtain ⟨m, sum⟩ := exists_rounded_intCast (k + l)
  refine ⟨m, ?_⟩
  rw [(denotes_add finite'.1 finite'.2).2, same, same', ← Int.cast_add, sum]

/-- **A finite sum of whole numbers is whole**, since each addition rounds to a whole number. -/
theorem whole_foldl_add (whole : List ℤ) (start : ∃ k : ℤ, value first = k)
    (finite : ((whole.map (Int.cast : ℤ → Float)).foldl (· + ·) first).isFinite = true) :
    ∃ k : ℤ, value ((whole.map (Int.cast : ℤ → Float)).foldl (· + ·) first) = k := by
  induction whole generalizing first with
  | nil => exact start
  | cons n rest ih =>
    have partway : (first + (n : Float)).isFinite = true := isFinite_of_foldl_add finite
    exact ih (whole_add partway start (whole_ofInt n)) finite

theorem whole_sum (whole : List ℤ)
    (finite : (Scalar.sum (whole.map (Int.cast : ℤ → Float))).isFinite = true) :
    ∃ k : ℤ, value (Scalar.sum (whole.map (Int.cast : ℤ → Float))) = k := by
  cases whole with
  | nil => exact ⟨0, value_zero.trans Int.cast_zero.symm⟩
  | cons n rest => exact whole_foldl_add rest (whole_ofInt n) finite

/-! ### Means -/

/-- The double nearest to a twentieth is not below it. -/
theorem twentieth_le_rounded : (1 / 20 : ℝ) ≤ rounded (1 / 20) := by
  have exponent : gridExponent (1 / 20) = -57 := by
    have digits : Int.log 2 |(1 / 20 : ℝ)| = -5 := by
      rw [abs_of_pos (by norm_num)]
      exact log_eq (by norm_num) (by norm_num)
    rw [gridExponent, digits]
    norm_num
  have nearest : significand (1 / 20) = 7205759403792794 := by
    have gap : (1 / 20 : ℝ) / 2 ^ (-57 : ℤ) - (7205759403792794 : ℤ) = -(2 / 5) := by norm_num
    rw [significand, exponent]
    refine nearestInt_eq (Or.inl ?_)
    rw [gap, abs_neg, abs_of_pos (by norm_num)]
    norm_num
  have point : onGrid (1 / 20) = 7205759403792794 * 2 ^ (-57 : ℤ) := by
    rw [onGrid, nearest, exponent]
    norm_num
  have range : |onGrid (1 / 20)| ≤ limit := by
    refine le_trans ?_ one_lt_limit.le
    rw [point, abs_of_pos (by positivity)]
    norm_num
  rw [rounded, saturated_of_abs_le range, point]
  norm_num

/-- A whole number over a count of at most twenty is at least a twentieth, if it is positive. -/
theorem one_le_div {x : Float} {k : ℤ} (finite : x.isFinite = true) (whole : value x = k)
    {count : ℕ} (some : 0 < count) (few : count ≤ 20)
    (positive : 0 < value (x / Float.ofInt count)) : 1 ≤ 20 * value (x / Float.ofInt count) := by
  have some' : (0 : ℝ) < count := by exact_mod_cast some
  have few' : (count : ℝ) ≤ 20 := by exact_mod_cast few
  have divisor : value (Float.ofInt count) = count := by
    have digits : |(count : ℤ)| ≤ 2 ^ 53 := by
      rw [abs_of_nonneg (Int.natCast_nonneg count)]
      omega
    exact (denotes_ofInt_exact digits).2.trans (Int.cast_natCast count)
  have quotient : value (x / Float.ofInt count) = rounded (k / count) := by
    have finite' : (Float.ofInt count).isFinite = true :=
      isFinite_ofInt (by exact_mod_cast some) (by omega)
    have nonzero : value (Float.ofInt count) ≠ 0 := by
      rw [divisor]
      exact some'.ne'
    rw [(denotes_div finite finite' nonzero).2, whole, divisor]
  rw [quotient] at positive ⊢
  have unit : 1 ≤ k := by
    by_contra none
    have nonpos : (k : ℝ) ≤ 0 := by exact_mod_cast Int.lt_add_one_iff.mp (not_le.mp none)
    have below : (k : ℝ) / count ≤ 0 := div_nonpos_of_nonpos_of_nonneg nonpos some'.le
    exact positive.not_ge (rounded_le representable_zero below)
  have least : (1 / 20 : ℝ) ≤ k / count := by
    have unit' : (1 : ℝ) ≤ k := by exact_mod_cast unit
    rw [le_div_iff₀ some']
    linarith
  have bound := twentieth_le_rounded.trans (rounded_mono least)
  linarith

/-- **A positive mean of at most twenty whole numbers is at least a twentieth.** -/
theorem one_le_mean {whole : List ℤ} (few : whole.length ≤ 20)
    (finite : (Scalar.mean (whole.map (Int.cast : ℤ → Float))).isFinite = true)
    (positive : 0 < value (Scalar.mean (whole.map (Int.cast : ℤ → Float)))) :
    1 ≤ 20 * value (Scalar.mean (whole.map (Int.cast : ℤ → Float))) := by
  cases whole with
  | nil => exact absurd value_zero positive.ne'
  | cons n rest =>
    have mean : Scalar.mean ((n :: rest).map (Int.cast : ℤ → Float)) =
        Scalar.sum ((n :: rest).map (Int.cast : ℤ → Float)) /
          Float.ofInt ((n :: rest).length : ℕ) := by
      rw [← List.length_map (Int.cast : ℤ → Float)]
      rfl
    rw [mean] at finite positive ⊢
    have finite' : (Scalar.sum ((n :: rest).map (Int.cast : ℤ → Float))).isFinite = true := by
      by_contra special
      have spread := isFinite_div (y := Float.ofInt ((n :: rest).length : ℕ))
        (Bool.eq_false_iff.mpr special)
      exact Bool.false_ne_true (spread.symm.trans finite)
    obtain ⟨k, total⟩ := whole_sum (n :: rest) finite'
    exact one_le_div finite' total (Nat.succ_pos _) few positive

end PointerForecast.Double
