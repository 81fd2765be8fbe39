/-
**Whole numbers in double precision.**

A positive whole number below `2 ^ 53` is a double: its significand `stretched n` is the number
itself with zeros below, as many as fill 53 bits. The proof follows the conversion, which rounds to
the full width and multiplies by one; neither step drops a digit that is not zero.

* `roundWithAccuracy_exact`: rounding a full significand with zeros below loses nothing.
* `unpack_pack`: a full significand within the range of exponents survives packing.
* `unpack_ofNat`: **the double of a whole number**.
* `isFinite_ofInt`, `ofInt_pos`: it is finite, and it is positive.
-/

import PointerForecast.Proofs.Double.Special

namespace PointerForecast.Double

open Float.Model
open Float.Model.UnpackedFloat

/-! ### Rounding a full significand -/

/-- Dropping low zeros leaves nothing to round. -/
theorem shift_exact (m k : Nat) :
    ExtendedMantissa.mk (m * 2 ^ k) false false >>> k = ⟨m, false, false⟩ := by
  change k.repeat ExtendedMantissa.shiftRightOne ⟨m * 2 ^ k, false, false⟩ = ⟨m, false, false⟩
  induction k generalizing m with
  | zero => simp [Nat.repeat]
  | succ k ih =>
    have one : m * 2 ^ (k + 1) = (m * 2) * 2 ^ k := by ring
    rw [Nat.repeat, one, ih]
    simp [ExtendedMantissa.shiftRightOne]

theorem log2_mul_two_pow {m : Nat} (positive : 0 < m) (k : Nat) :
    (m * 2 ^ k).log2 = m.log2 + k := by
  induction k with
  | zero => simp
  | succ k ih =>
    have double : m * 2 ^ (k + 1) = 2 * (m * 2 ^ k) := by ring
    rw [double, Nat.log2_two_mul (by positivity), ih, add_assoc]

theorem shiftToTargetExponent_exact {m : Nat} (full : m.log2 = 52) (k : Nat) {e : Int}
    (normal : -1074 ≤ e + k) :
    shiftToTargetExponent Format.binary64 (m * 2 ^ k) e .exact = (⟨m, false, false⟩, e + k) := by
  have positive : 0 < m := Nat.pos_of_ne_zero fun zero => by simp [zero] at full
  have target : Format.binary64.targetExponent (totalExponent (m * 2 ^ k) e) = e + k := by
    unfold Format.targetExponent totalExponent Format.mantissaBits Format.minExponent
    rw [log2_mul_two_pow positive, full]
    norm_num [Format.mantissaBits]
    omega
  have amount : (e + k - e).toNat = k := by omega
  unfold shiftToTargetExponent shiftToExponent
  simp only [target, amount]
  exact Prod.ext (shift_exact m k) rfl

/-- **A full significand with zeros below is rounded to itself.** -/
theorem roundWithAccuracy_exact {m : Nat} (full : m.log2 = 52) (k : Nat) {e : Int}
    (normal : -1074 ≤ e + k) (s : Sign) (positive : 0 < m) :
    roundWithAccuracy Format.binary64 s (m * 2 ^ k) e .exact = .finite s m (e + k) positive := by
  -- the second shift, after the rounding, finds the significand in place
  have second := shiftToTargetExponent_exact full 0 (e := e + k) (by simpa using normal)
  rw [pow_zero, mul_one, Nat.cast_zero, add_zero] at second
  have rounded : (ExtendedMantissa.mk m false false).roundedMantissa = m := rfl
  unfold roundWithAccuracy
  simp only [shiftToTargetExponent_exact full k normal, rounded, second]
  rw [dif_neg positive.ne']

theorem shift_mantissa (em : ExtendedMantissa) (k : Nat) :
    (em >>> k).mantissa = em.mantissa / 2 ^ k := by
  change (k.repeat ExtendedMantissa.shiftRightOne em).mantissa = _
  induction k with
  | zero => exact (Nat.div_one _).symm
  | succ k ih =>
    show (k.repeat ExtendedMantissa.shiftRightOne em).mantissa / 2 = _
    rw [ih, Nat.div_div_eq_div_mul, pow_succ]

/-- Rounding adds at most one. -/
theorem roundedMantissa_bounds (em : ExtendedMantissa) :
    em.mantissa ≤ em.roundedMantissa ∧ em.roundedMantissa ≤ em.mantissa + 1 := by
  obtain ⟨m, round, sticky⟩ := em
  cases round <;> cases sticky <;>
    simp only [ExtendedMantissa.roundedMantissa, ExtendedMantissa.accuracy,
      Accuracy.roundToNearestEven] <;> omega

/-- **A wide significand is rounded to a full one**, with one more power of two if the rounding
carries over. -/
theorem roundWithAccuracy_wide {m : Nat} (wide : 52 ≤ m.log2) {e : Int}
    (normal : -1074 ≤ e + (m.log2 - 52 : Nat)) (s : Sign) :
    ∃ (m' k : Nat) (positive : 0 < m'), m'.log2 = 52 ∧ k ≤ m.log2 - 51 ∧
      m.log2 - 52 ≤ k ∧
      roundWithAccuracy Format.binary64 s m e .exact = .finite s m' (e + k) positive := by
  have nonzero : m ≠ 0 := fun zero => by simp [zero] at wide
  obtain ⟨lower, upper⟩ := (Nat.log2_eq_iff nonzero).mp rfl
  obtain ⟨k, digits⟩ : ∃ k, m.log2 = 52 + k := ⟨m.log2 - 52, by omega⟩
  have amount : (Format.binary64.targetExponent (totalExponent m e) - e).toNat = k := by
    unfold Format.targetExponent totalExponent Format.mantissaBits Format.minExponent
    norm_num [Format.mantissaBits]
    omega
  have first : shiftToTargetExponent Format.binary64 m e .exact =
      (ExtendedMantissa.mk m false false >>> k, e + k) := by
    unfold shiftToTargetExponent shiftToExponent
    simp only [amount]
    rfl
  obtain ⟨least, most⟩ := roundedMantissa_bounds (ExtendedMantissa.mk m false false >>> k)
  rw [shift_mantissa] at least most
  rw [digits, pow_add] at lower
  rw [digits, show 52 + k + 1 = 53 + k from by omega, pow_add] at upper
  have floor : 2 ^ 52 ≤ m / 2 ^ k := (Nat.le_div_iff_mul_le (by positivity)).mpr lower
  have ceiling : m / 2 ^ k < 2 ^ 53 := Nat.div_lt_of_lt_mul (by rw [mul_comm]; exact upper)
  obtain ⟨m', l, full, carried, second⟩ : ∃ m' l : Nat, m'.log2 = 52 ∧ l ≤ 1 ∧
      (ExtendedMantissa.mk m false false >>> k).roundedMantissa = m' * 2 ^ l := by
    generalize (ExtendedMantissa.mk m false false >>> k).roundedMantissa = r at least most
    change m / 2 ^ k ≤ r at least
    change r ≤ m / 2 ^ k + 1 at most
    by_cases carry : r = 2 ^ 53
    · exact ⟨2 ^ 52, 1, Nat.log2_two_pow, le_rfl, carry⟩
    · exact ⟨r, 0, (Nat.log2_eq_iff (by omega)).mpr ⟨by omega, by omega⟩, Nat.zero_le 1,
        (mul_one r).symm⟩
  have positive : 0 < m' := Nat.pos_of_ne_zero fun zero => by simp [zero] at full
  have placed := shiftToTargetExponent_exact full l (e := e + k) (by omega)
  refine ⟨m', k + l, positive, full, by omega, by omega, ?_⟩
  unfold roundWithAccuracy
  simp only [first, second, placed]
  rw [dif_neg positive.ne']
  congr 1
  push_cast
  ring

/-! ### Packing -/

/-- **A full significand within the range of exponents survives packing.** -/
theorem unpack_pack {m : Nat} (full : m.log2 = 52) {e : Int} (low : -1074 ≤ e) (high : e ≤ 971)
    (s : Sign) (positive : 0 < m) :
    (Float.Model.pack (.finite s m e positive)).unpack = .finite s m e positive := by
  obtain ⟨biased, stored⟩ : ∃ biased : Nat, (biased : Int) = e + 1075 :=
    ⟨(e + 1075).toNat, by omega⟩
  have bias : (Format.binary64.exponentBias : Int) = 1023 := rfl
  have packed : UnpackedFloat.pack Format.binary64 (.finite s m e positive) =
      packComponents Format.binary64 s (BitVec.ofNat 11 biased) (BitVec.ofNat 52 m) := by
    have sum : (e + Format.binary64.exponentBias + 52).toNat = biased := by omega
    have fits : ¬ 2 ^ 11 ≤ biased + 1 := by omega
    have normal : m.log2 + 1 = Format.binary64.mantissaBits := by rw [full]; rfl
    simp only [UnpackedFloat.pack, Nat.cast_ofNat, sum, if_neg fits, if_pos normal]
  show UnpackedFloat.unpack Format.binary64 (UnpackedFloat.pack Format.binary64 _) = _
  rw [packed, unpack_packComponents_normal positive full (by omega) (by show _ < 2 ^ 11; omega)]
  congr 1
  show (biased : Int) - (Format.binary64.exponentBias + 52) = e
  omega

/-! ### The double of a whole number -/

/-- The significand of a whole number, with zeros below up to the full width. -/
def stretched (n : Nat) : Nat := n * 2 ^ (52 - n.log2)

theorem stretched_pos {n : Nat} (positive : 0 < n) : 0 < stretched n := by
  unfold stretched
  positivity

theorem log2_stretched {n : Nat} (positive : 0 < n) (bounded : n < 2 ^ 53) :
    (stretched n).log2 = 52 := by
  have small : n.log2 < 53 := (Nat.log2_lt positive.ne').mpr bounded
  unfold stretched
  rw [log2_mul_two_pow positive]
  omega

theorem round_whole {n : Nat} (positive : 0 < n) (bounded : n < 2 ^ 53) :
    UnpackedFloat.ofNat Format.binary64 n =
      .finite .positive (stretched n) (n.log2 - 52) (stretched_pos positive) := by
  have small : n.log2 < 53 := (Nat.log2_lt positive.ne').mpr bounded
  have sign : compare (n : Int) 0 = .gt := Int.compare_eq_gt.mpr (by exact_mod_cast positive)
  have target : Format.binary64.targetExponent (totalExponent n 0) = n.log2 - 52 := by
    unfold Format.targetExponent totalExponent Format.mantissaBits Format.minExponent
    norm_num [Format.mantissaBits]
    omega
  have amount : ((0 : Int) - (n.log2 - 52)).toNat = 52 - n.log2 := by omega
  have exponent : (0 : Int) - (52 - n.log2 : Nat) = n.log2 - 52 := by omega
  have rounded := roundWithAccuracy_exact (log2_stretched positive bounded) 0
    (e := n.log2 - 52) (by omega) .positive (stretched_pos positive)
  rw [pow_zero, mul_one, Nat.cast_zero, add_zero] at rounded
  simp only [UnpackedFloat.ofNat, UnpackedFloat.ofInt, UnpackedFloat.normalize, sign,
    UnpackedFloat.round, Int.toNat_natCast, target, decreaseExponent, amount, exponent,
    Nat.shiftLeft_eq]
  exact rounded

theorem unpack_toFloat {n : Nat} (positive : 0 < n) (bounded : n < 2 ^ 53) :
    n.toUInt64.toFloat.toModel.unpack =
      .finite .positive (stretched n) (n.log2 - 52) (stretched_pos positive) := by
  have same : n.toUInt64.toNat = n := Nat.mod_eq_of_lt (by omega)
  have small : n.log2 < 53 := (Nat.log2_lt positive.ne').mpr bounded
  show (Float.Model.pack (UnpackedFloat.ofNat Format.binary64 n.toUInt64.toNat)).unpack = _
  rw [same, round_whole positive bounded]
  exact unpack_pack (log2_stretched positive bounded) (by omega) (by omega) _ _

theorem unpack_one : (Float.ofBits 0x3FF0000000000000).toModel.unpack =
    .finite .positive (2 ^ 52) (-52) (by decide) := rfl

/-- **The double of a whole number below `2 ^ 53` is the number.** -/
theorem unpack_ofNat {n : Nat} (positive : 0 < n) (bounded : n < 2 ^ 53) :
    (Float.ofNat n).toModel.unpack =
      .finite .positive (stretched n) (n.log2 - 52) (stretched_pos positive) := by
  have small : n.log2 < 53 := (Nat.log2_lt positive.ne').mpr bounded
  have product : Float.ofNat n = n.toUInt64.toFloat * Float.ofBits 0x3FF0000000000000 := by
    show Float.ofScientific n false 0 = _
    unfold Float.ofScientific
    rw [dif_pos ⟨bounded, by decide⟩]
    rfl
  have rounded := roundWithAccuracy_exact (log2_stretched positive bounded) 52
    (e := n.log2 - 52 + -52) (by omega) .positive (stretched_pos positive)
  rw [product]
  show (Float.Model.pack (UnpackedFloat.mul Format.binary64 n.toUInt64.toFloat.toModel.unpack
    (Float.ofBits 0x3FF0000000000000).toModel.unpack)).unpack = _
  rw [unpack_toFloat positive bounded, unpack_one]
  show (Float.Model.pack (roundWithAccuracy Format.binary64 .positive (stretched n * 2 ^ 52)
    (n.log2 - 52 + -52) .exact)).unpack = _
  rw [rounded, unpack_pack (log2_stretched positive bounded) (by omega) (by omega)]
  congr 1
  omega

theorem isFinite_ofInt {n : Int} (positive : 0 < n) (bounded : n < 2 ^ 53) :
    (Float.ofInt n).isFinite = true := by
  obtain ⟨n, rfl⟩ := Int.eq_ofNat_of_zero_le positive.le
  show (Float.ofNat n).toModel.unpack.isFinite = true
  rw [unpack_ofNat (by exact_mod_cast positive) (by exact_mod_cast bounded)]
  rfl

theorem ofInt_pos {n : Int} (positive : 0 < n) (bounded : n < 2 ^ 53) : 0 < Float.ofInt n := by
  obtain ⟨n, rfl⟩ := Int.eq_ofNat_of_zero_le positive.le
  refine decide_eq_true (p := (Float.ofNat 0).toModel < (Float.ofNat n).toModel) ?_
  show UnpackedFloat.lt (Float.ofNat 0).toModel.unpack (Float.ofNat n).toModel.unpack = true
  rw [unpack_ofNat (n := n) (by exact_mod_cast positive) (by exact_mod_cast bounded)]
  rfl

end PointerForecast.Double
