/-
**The real number that a double stands for.**

An infinite double counts as the first power of two out of range, and what is not a number as zero,
so that every double has a `value`. With it, a significand and what is known of the digits cut off
behind it is rounded to the nearest double of the exact value, and comparing two numbers is comparing
their values.

* `Locates`, `Extends`: what is known of the digits cut off; shifting keeps it.
* `roundWithAccuracy_spec`, `round_spec`, `normalize_spec`: **rounding goes to the nearest double.**
* `unpackedValue_pack`: packing only cuts off what is out of range.
* `value`, `Denotes`: the value of a double; `denotes_pack`: that of a rounded result.
* `representable_value`, `isFinite_iff`, `lt_iff_value`, `le_iff_value`: **doubles and their values.**
-/

import PointerForecast.Proofs.Double.Nearest
import PointerForecast.Proofs.Double.UnitInterval

namespace PointerForecast.Double

open Float.Model (Format UnpackedFloat totalExponent)
open Float.Model.UnpackedFloat

/-! ### Digits cut off -/

/-- Holds if an accuracy says where between zero and one the digits cut off lie. -/
def Locates : Accuracy → ℝ → Prop
  | .exact, rest => rest = 0
  | .inexact .lt, rest => 0 < rest ∧ rest < 1 - rest
  | .inexact .eq, rest => rest = 1 - rest
  | .inexact .gt, rest => 1 - rest < rest ∧ rest < 1

theorem Locates.bounds {accuracy : Accuracy} {rest : ℝ} (located : Locates accuracy rest) :
    0 ≤ rest ∧ rest < 1 := by
  match accuracy, located with
  | .exact, same =>
    obtain rfl : rest = 0 := same
    norm_num
  | .inexact .lt, ⟨low, high⟩ => exact ⟨low.le, by linarith⟩
  | .inexact .eq, same =>
    have middle : rest = 1 - rest := same
    exact ⟨by linarith, by linarith⟩
  | .inexact .gt, ⟨low, high⟩ => exact ⟨by linarith, high⟩

theorem Locates.floor_eq {accuracy : Accuracy} {m : ℕ} {w : ℝ}
    (located : Locates accuracy (w - m)) : ⌊w⌋ = m := by
  obtain ⟨low, high⟩ := located.bounds
  rw [Int.floor_eq_iff, Int.cast_natCast]
  exact ⟨by linarith, by linarith⟩

/-- **The rounding of a located rest is to the nearest.** -/
theorem Locates.isNearest {accuracy : Accuracy} {m : ℕ} {w : ℝ} (located : Locates accuracy (w - m)) :
    IsNearest w (accuracy.roundToNearestEven m : ℕ) := by
  match accuracy, located with
  | .exact, same =>
    refine Or.inl ?_
    have gap : w - (m : ℤ) = 0 := same
    show 2 * |w - (m : ℤ)| < 1
    rw [gap]
    norm_num
  | .inexact .lt, ⟨low, high⟩ =>
    refine Or.inl ?_
    show 2 * |w - (m : ℤ)| < 1
    rw [Int.cast_natCast, abs_of_pos low]
    linarith
  | .inexact .eq, same =>
    have middle : w - m = 1 - (w - m) := same
    have half : w - m = 1 / 2 := by linarith
    refine Or.inr ?_
    show 2 * |w - ((m + m % 2 : ℕ) : ℤ)| = 1 ∧ Even ((m + m % 2 : ℕ) : ℤ)
    rcases Nat.mod_two_eq_zero_or_one m with even | odd
    · rw [even, Nat.add_zero, Int.cast_natCast, half]
      exact ⟨by norm_num, (Int.even_coe_nat m).mpr (Nat.even_iff.mpr even)⟩
    · have gap : w - ((m + 1 : ℕ) : ℤ) = -(1 / 2) := by
        push_cast
        linarith
      rw [odd, gap]
      exact ⟨by norm_num, (Int.even_coe_nat _).mpr (Nat.even_iff.mpr (by omega))⟩
  | .inexact .gt, ⟨low, high⟩ =>
    refine Or.inl ?_
    have gap : w - ((m + 1 : ℕ) : ℤ) = -(1 - (w - m)) := by
      push_cast
      ring
    show 2 * |w - ((m + 1 : ℕ) : ℤ)| < 1
    rw [gap, abs_neg, abs_of_pos (by linarith)]
    linarith

/-- Holds if a significand with its two bits describes a real number. -/
def Extends (em : ExtendedMantissa) (w : ℝ) : Prop := Locates em.accuracy (w - em.mantissa)

theorem extends_of_locates {accuracy : Accuracy} {m : ℕ} {w : ℝ}
    (located : Locates accuracy (w - m)) :
    Extends (ExtendedMantissa.ofMantissaAndAccuracy m accuracy) w := by
  match accuracy with
  | .exact => exact located
  | .inexact .lt => exact located
  | .inexact .eq => exact located
  | .inexact .gt => exact located

namespace Extends

variable {em : ExtendedMantissa} {w : ℝ}

theorem nearestInt_eq (described : Extends em w) : nearestInt w = em.roundedMantissa :=
  Double.nearestInt_eq described.isNearest

/-- Dropping one digit keeps the description. -/
theorem shiftRightOne (described : Extends em w) : Extends em.shiftRightOne (w / 2) := by
  obtain ⟨m, round, sticky⟩ := em
  have digits : (m : ℝ) = 2 * (m / 2 : ℕ) + (m % 2 : ℕ) := by
    exact_mod_cast (Nat.div_add_mod m 2).symm
  have rest : w / 2 - (m / 2 : ℕ) = ((w - m) + (m % 2 : ℕ)) / 2 := by linarith
  unfold Extends ExtendedMantissa.shiftRightOne at *
  dsimp only at described ⊢
  rw [rest]
  generalize w - m = r at described
  have one : (1 != 0) = true := rfl
  rcases Nat.mod_two_eq_zero_or_one m with last | last <;> rw [last] <;>
    cases round <;> cases sticky <;>
    simp only [ExtendedMantissa.accuracy, Locates, Bool.or_false, Bool.or_true, bne_self_eq_false,
      one, Nat.cast_zero, Nat.cast_one] at described ⊢
  -- a digit of zero halves what is known of the rest, a digit of one moves it beyond the middle
  · linarith
  · exact ⟨by linarith [described.1], by linarith [described.2]⟩
  · exact ⟨by linarith, by linarith⟩
  · exact ⟨by linarith [described.1], by linarith [described.2]⟩
  · linarith
  · exact ⟨by linarith [described.1], by linarith [described.2]⟩
  · exact ⟨by linarith, by linarith⟩
  · exact ⟨by linarith [described.1], by linarith [described.2]⟩

theorem shiftRight (described : Extends em w) (k : ℕ) : Extends (em >>> k) (w / 2 ^ k) := by
  change Extends (k.repeat ExtendedMantissa.shiftRightOne em) _
  induction k with
  | zero => simpa [Nat.repeat] using described
  | succ k ih =>
    rw [Nat.repeat, pow_succ, ← div_div]
    exact ih.shiftRightOne

end Extends

/-! ### The grid of the model -/

theorem log_eq {v : ℝ} {k : ℤ} (low : 2 ^ k ≤ v) (high : v < 2 ^ (k + 1)) : Int.log 2 v = k := by
  have positive : 0 < v := (zpow_pos two_pos k).trans_le low
  refine le_antisymm ?_ ?_
  · exact Int.lt_add_one_iff.mp ((Int.lt_zpow_iff_log_lt one_lt_two positive).mp (by exact_mod_cast high))
  · exact (Int.zpow_le_iff_le_log one_lt_two positive).mp (by exact_mod_cast low)

theorem targetExponent_def (m : ℕ) (e : ℤ) :
    Format.binary64.targetExponent (totalExponent m e) = max (m.log2 + e - 52) (-1074) := by
  unfold Format.targetExponent totalExponent Format.mantissaBits Format.minExponent
  norm_num [Format.mantissaBits]
  omega

/-- The exponent that the model rounds to is that of the grid. -/
theorem targetExponent_of_pos {m : ℕ} {w : ℝ} (positive : 0 < m) (floor : ⌊w⌋ = m) (e : ℤ) :
    Format.binary64.targetExponent (totalExponent m e) = gridExponent (w * 2 ^ e) := by
  obtain ⟨low, high⟩ := Int.floor_eq_iff.mp floor
  obtain ⟨least, most⟩ := (Nat.log2_eq_iff positive.ne').mp rfl
  rw [Int.cast_natCast] at low high
  have least' : (2 : ℝ) ^ m.log2 ≤ m := by exact_mod_cast least
  have most' : (m : ℝ) + 1 ≤ 2 ^ (m.log2 + 1) := by exact_mod_cast most
  have positive' : 0 < w := (Nat.cast_pos.mpr positive).trans_le low
  have digits : Int.log 2 (w * 2 ^ e) = m.log2 + e := by
    refine log_eq ?_ ?_
    · rw [zpow_add₀ two_ne_zero, zpow_natCast]
      exact mul_le_mul_of_nonneg_right (least'.trans low) (by positivity)
    · rw [add_right_comm, zpow_add₀ two_ne_zero]
      exact mul_lt_mul_of_pos_right (high.trans_le most') (by positivity)
  rw [targetExponent_def, gridExponent, abs_of_pos (by positivity), digits]

/-- It is so without a whole step too, if the grid is not finer than the given exponent. -/
theorem targetExponent_eq {m : ℕ} {e : ℤ} {w : ℝ} (positive : 0 < w) (floor : ⌊w⌋ = m)
    (fine : e ≤ gridExponent (w * 2 ^ e)) :
    Format.binary64.targetExponent (totalExponent m e) = gridExponent (w * 2 ^ e) := by
  rcases Nat.eq_zero_or_pos m with rfl | some
  · -- the number is less than one step of the exponent, so the grid is the finest one
    have high := (Int.floor_eq_iff.mp floor).2
    rw [Nat.cast_zero, Int.cast_zero, zero_add] at high
    have small : w * 2 ^ e < 2 ^ e := mul_lt_of_lt_one_left (by positivity) high
    have whole : 0 < w * 2 ^ e := by positivity
    have digits : Int.log 2 (w * 2 ^ e) < e :=
      (Int.lt_zpow_iff_log_lt one_lt_two whole).mp (by exact_mod_cast small)
    rw [targetExponent_def, Nat.log2_zero]
    unfold gridExponent at fine ⊢
    rw [abs_of_pos whole] at fine ⊢
    omega
  · exact targetExponent_of_pos some floor e

/-! ### Values -/

/-- The number with a sign put before it. -/
def signed : Sign → ℝ → ℝ
  | .positive, v => v
  | .negative, v => -v

theorem signed_apply (s : Sign) (n : ℤ) : ((s.apply n : ℤ) : ℝ) = signed s n := by
  cases s <;> simp [Sign.apply, signed]

theorem abs_signed (s : Sign) (v : ℝ) : |signed s v| = |v| := by
  cases s
  · exact abs_neg v
  · rfl

theorem onGrid_signed (s : Sign) (v : ℝ) : onGrid (signed s v) = signed s (onGrid v) := by
  cases s
  · exact onGrid_neg v
  · rfl

theorem saturated_signed (s : Sign) (v : ℝ) : saturated (signed s v) = signed s (saturated v) := by
  cases s
  · exact saturated_neg v
  · rfl

/-- The real number that an unpacked double stands for. -/
noncomputable def unpackedValue : UnpackedFloat → ℝ
  | .notANumber => 0
  | .infinity s => signed s limit
  | .zero _ => 0
  | .finite s m e _ => signed s (gridPoint m e)

/-- Holds of a significand of 53 digits, or fewer at the least exponent. -/
def IsCanonical : UnpackedFloat → Prop
  | .finite _ m e _ => m < 2 ^ 53 ∧ -1074 ≤ e ∧ (-1074 < e → 2 ^ 52 ≤ m)
  | _ => True

/-! ### Rounding -/

theorem shiftToTargetExponent_canonical {m : ℕ} {e : ℤ} (digits : m < 2 ^ 53) (least : -1074 ≤ e) :
    shiftToTargetExponent Format.binary64 m e .exact = (⟨m, false, false⟩, e) := by
  have few : m.log2 ≤ 52 := by
    by_cases zero : m = 0
    · simp [zero]
    · exact Nat.lt_succ_iff.mp ((Nat.log2_lt zero).mpr digits)
  have amount : (Format.binary64.targetExponent (totalExponent m e) - e).toNat = 0 := by
    rw [targetExponent_def]
    omega
  unfold shiftToTargetExponent shiftToExponent
  simp only [amount]
  exact Prod.ext rfl (add_zero e)

/-- The first shift leads to the grid, where the significand is rounded to the nearest. -/
theorem shiftToTargetExponent_located {m : ℕ} {e : ℤ} {accuracy : Accuracy} {w : ℝ}
    (positive : 0 < w) (located : Locates accuracy (w - m)) (fine : e ≤ gridExponent (w * 2 ^ e)) :
    ∃ em, shiftToTargetExponent Format.binary64 m e accuracy = (em, gridExponent (w * 2 ^ e)) ∧
      significand (w * 2 ^ e) = em.roundedMantissa := by
  obtain ⟨k, steps⟩ := Int.eq_ofNat_of_zero_le (sub_nonneg.mpr fine)
  have exponent : gridExponent (w * 2 ^ e) = e + k := by omega
  refine ⟨ExtendedMantissa.ofMantissaAndAccuracy m accuracy >>> k, ?_, ?_⟩
  · unfold shiftToTargetExponent shiftToExponent
    simp only [targetExponent_eq positive located.floor_eq fine, exponent, add_sub_cancel_left,
      Int.toNat_natCast]
  · have quotient : w / 2 ^ k = w * 2 ^ e / 2 ^ gridExponent (w * 2 ^ e) := by
      rw [exponent, zpow_add₀ two_ne_zero, zpow_natCast, mul_comm ((2 : ℝ) ^ e),
        mul_div_mul_right _ _ (by positivity)]
    rw [significand, ← quotient]
    exact ((extends_of_locates located).shiftRight k).nearestInt_eq

/-- **Rounding goes to the nearest point of the grid.** The significand is described by what was
found when the digits behind it were cut off. -/
theorem roundWithAccuracy_spec (s : Sign) {m : ℕ} {e : ℤ} {accuracy : Accuracy} {w : ℝ}
    (positive : 0 < w) (located : Locates accuracy (w - m)) (fine : e ≤ gridExponent (w * 2 ^ e)) :
    IsCanonical (roundWithAccuracy Format.binary64 s m e accuracy) ∧
      unpackedValue (roundWithAccuracy Format.binary64 s m e accuracy) =
        signed s (onGrid (w * 2 ^ e)) := by
  obtain ⟨em, first, rounding⟩ := shiftToTargetExponent_located positive located fine
  have few := significand_le (w * 2 ^ e)
  have many := le_significand (v := w * 2 ^ e) (by positivity)
  have least := least_le_gridExponent (w * 2 ^ e)
  rw [onGrid, rounding, Int.cast_natCast]
  rw [rounding] at few many
  unfold roundWithAccuracy
  rw [first]
  dsimp only
  generalize gridExponent (w * 2 ^ e) = t at many least
  generalize em.roundedMantissa = r at few many
  rcases lt_or_eq_of_le few with fits | carry
  · have digits : r < 2 ^ 53 := by exact_mod_cast fits
    simp only [shiftToTargetExponent_canonical digits least]
    by_cases zero : r = 0
    · rw [dif_pos zero]
      refine ⟨trivial, ?_⟩
      cases s <;> simp [unpackedValue, signed, zero]
    · rw [dif_neg zero]
      exact ⟨⟨digits, least, fun coarse => by exact_mod_cast many coarse⟩, rfl⟩
  · -- the rounding has carried over into a digit too many, and the second shift makes room for it
    obtain rfl : r = 2 ^ 52 * 2 ^ 1 := by exact_mod_cast carry
    have second := shiftToTargetExponent_exact Nat.log2_two_pow 1 (e := t) (by push_cast; omega)
    simp only [second]
    refine ⟨⟨by norm_num, by push_cast; omega, fun _ => le_rfl⟩, ?_⟩
    show signed s (_ * 2 ^ (t + 1)) = signed s (_ * 2 ^ t)
    congr 1
    push_cast
    rw [zpow_add_one₀ two_ne_zero]
    ring

theorem decreaseExponent_spec {m : ℕ} {e target : ℤ} (below : target ≤ e) :
    ∃ k : ℕ, decreaseExponent m e target = (m * 2 ^ k, target) ∧ e = target + k := by
  obtain ⟨k, steps⟩ := Int.eq_ofNat_of_zero_le (sub_nonneg.mpr below)
  refine ⟨k, ?_, by omega⟩
  unfold decreaseExponent
  simp only [steps, Int.toNat_natCast, Nat.shiftLeft_eq]
  exact Prod.ext rfl (by dsimp only; omega)

theorem mul_two_pow_mul_zpow (v : ℝ) (k : ℕ) (e : ℤ) : v * 2 ^ k * 2 ^ e = v * 2 ^ (e + k) := by
  rw [zpow_add₀ two_ne_zero, zpow_natCast]
  ring

theorem locates_exact (m : ℕ) : Locates .exact ((m : ℝ) - m) := sub_self _

/-- **A significand and an exponent are rounded to the nearest point of the grid.** -/
theorem round_spec (s : Sign) {m : ℕ} (positive : 0 < m) (e : ℤ) :
    IsCanonical (UnpackedFloat.round Format.binary64 s m e) ∧
      unpackedValue (UnpackedFloat.round Format.binary64 s m e) = signed s (onGrid (m * 2 ^ e)) := by
  have target := targetExponent_of_pos positive (Int.floor_natCast m) e
  unfold UnpackedFloat.round
  rcases le_total (gridExponent (m * 2 ^ e)) e with coarse | fine
  · obtain ⟨k, decreased, exponent⟩ := decreaseExponent_spec (m := m) coarse
    have value : ((m * 2 ^ k : ℕ) : ℝ) * 2 ^ gridExponent (m * 2 ^ e) = m * 2 ^ e := by
      push_cast
      rw [mul_two_pow_mul_zpow, ← exponent]
    have spec := roundWithAccuracy_spec s (m := m * 2 ^ k) (e := gridExponent (m * 2 ^ e))
      (by positivity) (locates_exact _) (by rw [value])
    rw [value] at spec
    simp only [target, decreased]
    exact spec
  · have amount : (e - gridExponent (m * 2 ^ e)).toNat = 0 := by omega
    have spec := roundWithAccuracy_spec s (Nat.cast_pos.mpr positive) (locates_exact m) fine
    unfold decreaseExponent
    simp only [target, amount, Nat.shiftLeft_zero, Nat.cast_zero, sub_zero]
    exact spec

theorem normalize_spec (m e : ℤ) (s : Sign) :
    IsCanonical (UnpackedFloat.normalize Format.binary64 m e s) ∧
      unpackedValue (UnpackedFloat.normalize Format.binary64 m e s) = onGrid (m * 2 ^ e) := by
  unfold UnpackedFloat.normalize
  rcases lt_trichotomy m 0 with negative | rfl | positive
  · have size : (((-m).toNat : ℕ) : ℝ) = -m := by
      have : (((-m).toNat : ℕ) : ℤ) = -m := Int.toNat_of_nonneg (by omega)
      exact_mod_cast this
    have spec := round_spec .negative (m := (-m).toNat) (by omega) e
    rw [size, neg_mul, onGrid_neg, signed, neg_neg] at spec
    rw [Int.compare_eq_lt.mpr negative]
    exact spec
  · rw [Int.compare_eq_eq.mpr rfl, Int.cast_zero, zero_mul, onGrid_zero]
    exact ⟨trivial, rfl⟩
  · have size : ((m.toNat : ℕ) : ℝ) = m := by
      have : ((m.toNat : ℕ) : ℤ) = m := Int.toNat_of_nonneg positive.le
      exact_mod_cast this
    have spec := round_spec .positive (m := m.toNat) (by omega) e
    rw [size, signed] at spec
    rw [Int.compare_eq_gt.mpr positive]
    exact spec

/-! ### Packing -/

theorem unpack_pack_subnormal (s : Sign) {m : ℕ} (positive : 0 < m) (small : m < 2 ^ 52) :
    (Float.Model.pack (.finite s m (-1074) positive)).unpack = .finite s m (-1074) positive := by
  have few : m.log2 < 52 := (Nat.log2_lt positive.ne').mpr small
  have packed : UnpackedFloat.pack Format.binary64 (.finite s m (-1074) positive) =
      packComponents Format.binary64 s 0#11 (BitVec.ofNat 52 m) := by
    have stored : ((-1074 : ℤ) + Format.binary64.exponentBias + 52).toNat = 1 := rfl
    have narrow : ¬ m.log2 + 1 = Format.binary64.mantissaBits := by
      show ¬ m.log2 + 1 = 53
      omega
    simp only [UnpackedFloat.pack, Nat.cast_ofNat, stored, if_neg narrow]
    rfl
  have kept : (BitVec.ofNat 52 m).toNat = m := by rw [BitVec.toNat_ofNat, Nat.mod_eq_of_lt small]
  have some : BitVec.ofNat 52 m ≠ 0#52 := by
    intro zero
    have none := congrArg BitVec.toNat zero
    rw [kept, BitVec.toNat_zero] at none
    omega
  show UnpackedFloat.unpack Format.binary64 (UnpackedFloat.pack Format.binary64 _) = _
  rw [packed]
  unfold UnpackedFloat.unpack
  simp only [unpackMantissa_packComponents, unpackExponent_packComponents,
    unpackSign_packComponents, Sign.ofBitVec_toBitVec, dif_neg some, kept]
  rfl

theorem abs_finite_lt {m : ℕ} {e : ℤ} (digits : m < 2 ^ 53) (high : e ≤ 971) :
    |(m : ℝ) * 2 ^ e| < limit := by
  have digits' : (m : ℝ) < 2 ^ 53 := by exact_mod_cast digits
  calc |(m : ℝ) * 2 ^ e| = m * 2 ^ e := abs_of_nonneg (by positivity)
    _ < 2 ^ 53 * 2 ^ e := mul_lt_mul_of_pos_right digits' (by positivity)
    _ = 2 ^ (e + 53) := by
      rw [zpow_add₀ two_ne_zero, mul_comm]
      norm_num
    _ ≤ limit := two_zpow_le_limit (by omega)

/-- What is in range is packed without loss. -/
theorem unpack_pack_inRange (s : Sign) {m : ℕ} {e : ℤ} (positive : 0 < m)
    (canonical : IsCanonical (.finite s m e positive)) (high : e ≤ 971) :
    (Float.Model.pack (.finite s m e positive)).unpack = .finite s m e positive := by
  obtain ⟨digits, low, full⟩ := canonical
  rcases lt_or_ge m (2 ^ 52) with few | many
  · obtain rfl : e = -1074 := by
      by_contra coarse
      have := full (by omega)
      omega
    exact unpack_pack_subnormal s positive few
  · have width : m.log2 = 52 := (Nat.log2_eq_iff positive.ne').mpr ⟨many, digits⟩
    exact unpack_pack width low high s positive

/-- What is out of range is packed as an infinite value. -/
theorem unpack_pack_overflow (s : Sign) {m : ℕ} {e : ℤ} (positive : 0 < m) (overflow : 971 < e) :
    (Float.Model.pack (.finite s m e positive)).unpack = .infinity s := by
  have packed : UnpackedFloat.pack Format.binary64 (.finite s m e positive) =
      packedInfinity Format.binary64 s := by
    have wide : 2 ^ Format.binary64.exponentBits ≤
        (e + Format.binary64.exponentBias + Format.binary64.mantissaBitsWithoutImplicit).toNat
          + 1 := by
      show 2 ^ 11 ≤ (e + (1023 : ℕ) + (52 : ℕ)).toNat + 1
      omega
    unfold UnpackedFloat.pack
    rw [if_pos wide]
  show UnpackedFloat.unpack Format.binary64 (UnpackedFloat.pack Format.binary64 _) = _
  rw [packed]
  exact unpack_pack_infinity s

theorem limit_le_finite {m : ℕ} {e : ℤ} (full : 2 ^ 52 ≤ m) (overflow : 971 < e) :
    limit ≤ (m : ℝ) * 2 ^ e := by
  have many : (2 : ℝ) ^ 52 ≤ m := by exact_mod_cast full
  calc limit = 2 ^ 52 * 2 ^ (972 : ℤ) := by
        rw [limit, ← zpow_natCast, ← zpow_add₀ two_ne_zero]
        norm_num
    _ ≤ m * 2 ^ e := mul_le_mul many (zpow_le_zpow_right₀ one_le_two overflow)
      (by positivity) (by positivity)

/-- **Packing only cuts off what is out of range.** -/
theorem unpackedValue_pack {u : UnpackedFloat} (canonical : IsCanonical u) :
    unpackedValue (Float.Model.pack u).unpack = saturated (unpackedValue u) := by
  cases u with
  | notANumber =>
    have special : (Float.Model.pack .notANumber).unpack = .notANumber := unpack_packedNaN
    rw [special]
    exact (saturated_of_abs_le (abs_zero.trans_le limit_pos.le)).symm
  | infinity s =>
    have special : (Float.Model.pack (.infinity s)).unpack = .infinity s := unpack_pack_infinity s
    rw [special]
    refine (saturated_of_abs_le ?_).symm
    exact (abs_signed s limit).trans_le (abs_of_pos limit_pos).le
  | zero s =>
    have special : (Float.Model.pack (.zero s)).unpack = .zero s := unpack_packedZero
    rw [special]
    exact (saturated_of_abs_le (abs_zero.trans_le limit_pos.le)).symm
  | finite s m e positive =>
    rcases le_or_gt e 971 with high | overflow
    · rw [unpack_pack_inRange s positive canonical high]
      refine (saturated_of_abs_le ?_).symm
      exact (abs_signed s _).trans_le (abs_finite_lt canonical.1 high).le
    · obtain ⟨_, _, full⟩ := canonical
      rw [unpack_pack_overflow s positive overflow]
      show signed s limit = saturated (signed s (m * 2 ^ e))
      rw [saturated_signed, saturated_of_ge (limit_le_finite (full (by omega)) overflow)]

/-! ### Doubles -/

/-- The real number that a double stands for. -/
noncomputable def value (x : Float) : ℝ := unpackedValue x.toModel.unpack

theorem value_zero : value 0 = 0 := rfl

theorem value_one : value 1 = 1 := by
  rw [value, unpack_unit]
  show ((2 ^ 52 : ℕ) : ℝ) * 2 ^ (-52 : ℤ) = 1
  norm_num

theorem value_of_isNaN {x : Float} (special : x.isNaN = true) : value x = 0 := by
  rw [value, isNaN_iff_unpack.mp special]
  rfl

/-- Holds of a double that is a number and stands for a real number. -/
def Denotes (x : Float) (v : ℝ) : Prop := x.isNaN = false ∧ value x = v

/-- **A result on the grid, packed, denotes the nearest double.** -/
theorem denotes_pack {u : UnpackedFloat} {v : ℝ} (canonical : IsCanonical u)
    (number : u.isNaN = false) (same : unpackedValue u = onGrid v) :
    Denotes (Float.ofModel (.pack u)) (rounded v) := by
  refine ⟨(isNaN_unpack_pack u).trans number, ?_⟩
  rw [rounded, ← same]
  exact unpackedValue_pack canonical

/-- The exponent of a finite double is in range. -/
theorem unpack_range {x : Float} {s : Sign} {m : ℕ} {e : ℤ} {positive : 0 < m}
    (unpacked : x.toModel.unpack = .finite s m e positive) : -1074 ≤ e ∧ e ≤ 971 := by
  change unpack Format.binary64 x.toModel.toBits.toBitVec = _ at unpacked
  generalize x.toModel.toBits.toBitVec = bits at unpacked
  unfold unpack at unpacked
  extract_lets mantissa stored exponent signBit sign at unpacked
  have power : exponent = (stored.toNat : ℤ) - 1075 := rfl
  have bounded := stored.isLt
  split at unpacked
  · split at unpacked <;> cases unpacked
  · rename_i notLast
    split at unpacked
    · rename_i first
      split at unpacked
      · cases unpacked
      · injection unpacked with _ _ same
        rw [first] at power
        change exponent = 0 - 1075 at power
        omega
    · rename_i notFirst
      injection unpacked with _ _ same
      have some : stored.toNat ≠ 0 := fun zero => notFirst (BitVec.eq_of_toNat_eq zero)
      have less : stored.toNat ≠ 2047 := fun last => notLast (BitVec.eq_of_toNat_eq last)
      change stored.toNat < 2048 at bounded
      omega

theorem isCanonical_unpack (x : Float) : IsCanonical x.toModel.unpack := by
  cases unpacked : x.toModel.unpack with
  | finite s m e positive =>
    obtain ⟨digits, full⟩ := unpack_canonical unpacked
    exact ⟨digits, (unpack_range unpacked).1, full⟩
  | _ => trivial

/-- **The value of a double is representable.** -/
theorem representable_value (x : Float) : Representable (value x) := by
  have signs {v : ℝ} (s : Sign) (representable : Representable v) : Representable (signed s v) := by
    cases s
    · exact representable.neg
    · exact representable
  unfold value
  cases unpacked : x.toModel.unpack with
  | notANumber => exact representable_zero
  | zero s => exact representable_zero
  | infinity s => exact signs s representable_limit
  | finite s m e positive =>
    obtain ⟨low, high⟩ := unpack_range unpacked
    obtain ⟨digits, _⟩ := unpack_canonical unpacked
    refine signs s ⟨(abs_finite_lt digits high).le, m, e, ?_, low, rfl⟩
    rw [abs_of_nonneg (Int.natCast_nonneg m)]
    exact_mod_cast digits.le

@[simp]
theorem rounded_value (x : Float) : rounded (value x) = value x :=
  rounded_of_representable (representable_value x)

theorem abs_value_le (x : Float) : |value x| ≤ limit := (representable_value x).1

/-- **A number is finite if it is in range.** -/
theorem isFinite_iff {x : Float} : x.isFinite = true ↔ x.isNaN = false ∧ |value x| < limit := by
  show x.toModel.unpack.isFinite = true ↔ x.toModel.unpack.isNaN = false ∧
    |unpackedValue x.toModel.unpack| < limit
  cases unpacked : x.toModel.unpack with
  | notANumber => simp [UnpackedFloat.isFinite, UnpackedFloat.isNaN]
  | zero s =>
    simpa [UnpackedFloat.isFinite, UnpackedFloat.isNaN, unpackedValue] using limit_pos
  | infinity s =>
    simp [UnpackedFloat.isFinite, UnpackedFloat.isNaN, unpackedValue, abs_signed,
      abs_of_pos limit_pos]
  | finite s m e positive =>
    have inside := abs_finite_lt (unpack_canonical unpacked).1 (unpack_range unpacked).2
    simpa [UnpackedFloat.isFinite, UnpackedFloat.isNaN, unpackedValue, abs_signed] using inside

/-! ### The order -/

/-- A full significand is above all those with a lower exponent. -/
theorem mul_zpow_lt {m n : ℕ} {e f : ℤ} (digits : m < 2 ^ 53) (full : 2 ^ 52 ≤ n) (lower : e < f) :
    (m : ℝ) * 2 ^ e < n * 2 ^ f := by
  have digits' : (m : ℝ) < 2 ^ 53 := by exact_mod_cast digits
  have full' : (2 : ℝ) ^ 52 ≤ n := by exact_mod_cast full
  calc (m : ℝ) * 2 ^ e < 2 ^ 53 * 2 ^ e := mul_lt_mul_of_pos_right digits' (by positivity)
    _ = 2 ^ 52 * 2 ^ (e + 1) := by
      rw [zpow_add_one₀ two_ne_zero]
      ring
    _ ≤ n * 2 ^ f :=
      mul_le_mul full' (zpow_le_zpow_right₀ one_le_two lower) (by positivity) (by positivity)

/-- Comparing canonical significands and exponents is comparing what they stand for. -/
theorem compare_finite {m n : ℕ} {e f : ℤ} (digits : m < 2 ^ 53) (full : -1074 < e → 2 ^ 52 ≤ m)
    (least : -1074 ≤ e) (digits' : n < 2 ^ 53) (full' : -1074 < f → 2 ^ 52 ≤ n)
    (least' : -1074 ≤ f) :
    (compare e f).then (compare m n) = compare ((m : ℝ) * 2 ^ e) (n * 2 ^ f) := by
  rcases lt_trichotomy e f with lower | rfl | higher
  · rw [compare_lt_iff_lt.mpr lower]
    exact (compare_lt_iff_lt.mpr (mul_zpow_lt digits (full' (by omega)) lower)).symm
  · have positive : (0 : ℝ) < 2 ^ e := by positivity
    rw [compare_eq_iff_eq.mpr rfl]
    rcases lt_trichotomy m n with less | rfl | more
    · have less' : (m : ℝ) < n := by exact_mod_cast less
      rw [compare_lt_iff_lt.mpr less]
      exact (compare_lt_iff_lt.mpr (mul_lt_mul_of_pos_right less' positive)).symm
    · rw [compare_eq_iff_eq.mpr rfl]
      exact (compare_eq_iff_eq.mpr rfl).symm
    · have more' : (n : ℝ) < m := by exact_mod_cast more
      rw [compare_gt_iff_gt.mpr more]
      exact (compare_gt_iff_gt.mpr (mul_lt_mul_of_pos_right more' positive)).symm
  · rw [compare_gt_iff_gt.mpr higher]
    exact (compare_gt_iff_gt.mpr (mul_zpow_lt digits' (full (by omega)) higher)).symm

theorem compare_neg (a b : ℝ) : compare (-a) (-b) = (compare a b).swap := by
  rcases lt_trichotomy a b with less | rfl | more
  · rw [compare_lt_iff_lt.mpr less]
    exact compare_gt_iff_gt.mpr (neg_lt_neg less)
  · rw [compare_eq_iff_eq.mpr rfl, compare_eq_iff_eq.mpr rfl]
    rfl
  · rw [compare_gt_iff_gt.mpr more]
    exact compare_lt_iff_lt.mpr (neg_lt_neg more)

section Order

variable {u v : UnpackedFloat}

theorem compare_symm (same : u.compare v = some (compare (unpackedValue u) (unpackedValue v))) :
    v.compare u = some (compare (unpackedValue v) (unpackedValue u)) := by
  rw [compare_swap u v, same, Option.map_some, ← Std.OrientedCmp.eq_swap]

/-- What is in range lies between the infinite values. -/
theorem compare_infinity (s : Sign) (finite : u.isFinite = true)
    (inside : |unpackedValue u| < limit) : (UnpackedFloat.infinity s).compare u =
      some (compare (unpackedValue (.infinity s)) (unpackedValue u)) := by
  obtain ⟨low, high⟩ := abs_lt.mp inside
  cases s with
  | negative =>
    have less : compare (unpackedValue (.infinity .negative)) (unpackedValue u) = .lt :=
      compare_lt_iff_lt.mpr low
    rw [less]
    cases u with
    | zero t => rfl
    | finite t n f positive => rfl
    | _ => cases finite
  | positive =>
    have more : compare (unpackedValue (.infinity .positive)) (unpackedValue u) = .gt :=
      compare_gt_iff_gt.mpr high
    rw [more]
    cases u with
    | zero t => rfl
    | finite t n f positive => rfl
    | _ => cases finite

theorem compare_infinity_infinity (s t : Sign) :
    (UnpackedFloat.infinity s).compare (.infinity t) =
      some (compare (unpackedValue (.infinity s)) (unpackedValue (.infinity t))) := by
  have apart : -limit < limit := neg_lt_self limit_pos
  cases s <;> cases t
  · exact congrArg some (compare_eq_iff_eq.mpr rfl).symm
  · exact congrArg some (compare_lt_iff_lt.mpr apart).symm
  · exact congrArg some (compare_gt_iff_gt.mpr apart).symm
  · exact congrArg some (compare_eq_iff_eq.mpr rfl).symm

theorem compare_zero (s : Sign) (finite : u.isFinite = true) : (UnpackedFloat.zero s).compare u =
    some (compare (unpackedValue (.zero s)) (unpackedValue u)) := by
  cases u with
  | notANumber => cases finite
  | infinity t => cases finite
  | zero t => exact congrArg some (compare_eq_iff_eq.mpr rfl).symm
  | finite t n f positive =>
    have above : (0 : ℝ) < n * 2 ^ f := by positivity
    cases t
    · exact congrArg some (compare_gt_iff_gt.mpr (neg_lt_zero.mpr above)).symm
    · exact congrArg some (compare_lt_iff_lt.mpr above).symm

/-- Finite values are compared by their signs, and by their magnitudes if these are the same. -/
theorem compare_canonical (finite : u.isFinite = true) (finite' : v.isFinite = true)
    (canonical : IsCanonical u) (canonical' : IsCanonical v) :
    u.compare v = some (compare (unpackedValue u) (unpackedValue v)) := by
  cases u with
  | notANumber => cases finite
  | infinity s => cases finite
  | zero s => exact compare_zero s finite'
  | finite s m e positive => cases v with
    | notANumber => cases finite'
    | infinity t => cases finite'
    | zero t => exact compare_symm (compare_zero t finite)
    | finite t n f positive' =>
      have above : (0 : ℝ) < m * 2 ^ e := by positivity
      have above' : (0 : ℝ) < n * 2 ^ f := by positivity
      obtain ⟨digits, least, full⟩ := canonical
      obtain ⟨digits', least', full'⟩ := canonical'
      have same := compare_finite digits full least digits' full' least'
      cases s <;> cases t
      · exact congrArg some ((congrArg Ordering.swap same).trans (compare_neg _ _).symm)
      · exact congrArg some (compare_lt_iff_lt.mpr ((neg_lt_zero.mpr above).trans above')).symm
      · exact congrArg some (compare_gt_iff_gt.mpr ((neg_lt_zero.mpr above').trans above)).symm
      · exact congrArg some same

/-- A number that is not finite is infinite. -/
theorem exists_infinity {x : Float} (number : x.isNaN = false) (special : ¬ x.isFinite = true) :
    ∃ s, x.toModel.unpack = .infinity s := by
  rcases not_finite_cases (Bool.eq_false_iff.mpr special) with unpacked | infinite
  · exact absurd (isNaN_iff_unpack.mpr unpacked) (Bool.eq_false_iff.mp number)
  · exact infinite

/-- **Comparing numbers is comparing their values.** -/
theorem compare_value {x y : Float} (number : x.isNaN = false) (other : y.isNaN = false) :
    x.toModel.unpack.compare y.toModel.unpack = some (compare (value x) (value y)) := by
  unfold value
  by_cases finite : x.isFinite = true
  · by_cases finite' : y.isFinite = true
    · exact compare_canonical finite finite' (isCanonical_unpack x) (isCanonical_unpack y)
    · obtain ⟨t, unpacked⟩ := exists_infinity other finite'
      rw [unpacked]
      exact compare_symm (compare_infinity t finite (isFinite_iff.mp finite).2)
  · obtain ⟨s, unpacked⟩ := exists_infinity number finite
    rw [unpacked]
    by_cases finite' : y.isFinite = true
    · exact compare_infinity s finite' (isFinite_iff.mp finite').2
    · obtain ⟨t, unpacked'⟩ := exists_infinity other finite'
      rw [unpacked']
      exact compare_infinity_infinity s t

end Order

theorem lt_iff_value {x y : Float} :
    x < y ↔ (x.isNaN = false ∧ y.isNaN = false) ∧ value x < value y := by
  constructor
  · intro less
    obtain ⟨number, other⟩ := not_isNaN_of_lt less
    rw [lt_iff_compare, compare_value number other, Option.some.injEq, compare_lt_iff_lt] at less
    exact ⟨⟨number, other⟩, less⟩
  · rintro ⟨⟨number, other⟩, less⟩
    rw [lt_iff_compare, compare_value number other, Option.some.injEq, compare_lt_iff_lt]
    exact less

theorem le_iff_value {x y : Float} (number : x.isNaN = false) (other : y.isNaN = false) :
    x ≤ y ↔ value x ≤ value y := by
  rw [le_iff_compare, compare_value number other, Option.any_some, ← compare_le_iff_le]
  cases compare (value x) (value y) <;> simp

end PointerForecast.Double
