/-
**Doubles from zero to one.**

A pressure is cut off outside `[0, 1]` and then rounded to single precision. Neither bound is passed
in rounding: a significand `m` over `2 ^ n` with `m ≤ 2 ^ n` keeps that relation while digits are
dropped, and packing does not change it.

* `AtMostOne`: what an unpacked value from zero to one is.
* `atMostOne_round`, `atMostOne_unpack_pack`: **rounding and packing do not pass one**, in any format.
* `inUnit_iff`: a double lies in `[0, 1]` if and only if it stands for such a value.
* `inUnit_roundSingle`: **rounding to single precision stays in `[0, 1]`.**
-/

import PointerForecast.Proofs.Double.Special
import PointerForecast.Proofs.Double.WholeNumber

namespace PointerForecast.Double

open Float.Model (Format UnpackedFloat totalExponent)
open Float.Model.UnpackedFloat

/-- Holds of zero and of what is positive and not above one. -/
def AtMostOne : UnpackedFloat → Prop
  | .zero _ => True
  | .finite .positive m e _ => ∃ n : Nat, e = -n ∧ m ≤ 2 ^ n
  | _ => False

/-! ### Rounding -/

/-- A significand that is at most a power of two is rounded to one that is at most the shifted
power. -/
theorem roundedMantissa_shift_le {m n k : Nat} (bounded : m ≤ 2 ^ n) (fits : k ≤ n) :
    (ExtendedMantissa.mk m false false >>> k).roundedMantissa ≤ 2 ^ (n - k) := by
  have split : 2 ^ n = 2 ^ (n - k) * 2 ^ k := by rw [← pow_add, Nat.sub_add_cancel fits]
  rcases Nat.lt_or_eq_of_le bounded with below | equal
  · have dropped : m / 2 ^ k < 2 ^ (n - k) :=
      Nat.div_lt_of_lt_mul (by rw [mul_comm, ← split]; exact below)
    refine (roundedMantissa_bounds _).2.trans ?_
    rw [shift_mantissa]
    exact dropped
  · rw [equal, split, shift_exact]
    exact le_rfl

section Rounding

variable {spec : Format}

/-- A value of at most one is shifted by no more digits than stand behind its point. -/
theorem shiftToTargetExponent_small {m n : Nat} (low : spec.minExponent ≤ 0)
    (bounded : m ≤ 2 ^ n) :
    ∃ k ≤ n, shiftToTargetExponent spec m (-n) .exact =
      (ExtendedMantissa.mk m false false >>> k, -((n - k : Nat) : Int)) := by
  have digits : m.log2 ≤ n := by
    by_cases zero : m = 0
    · rw [zero]
      exact Nat.zero_le n
    · have below : m < 2 ^ (n + 1) := bounded.trans_lt (Nat.pow_lt_pow_succ Nat.one_lt_two)
      exact Nat.lt_succ_iff.mp ((Nat.log2_lt zero).mpr below)
  have target : spec.targetExponent (totalExponent m (-n)) ≤ 0 := by
    unfold Format.targetExponent totalExponent Format.mantissaBits
    omega
  refine ⟨(spec.targetExponent (totalExponent m (-n)) - -n).toNat, by omega, Prod.ext rfl ?_⟩
  show -(n : Int) + (spec.targetExponent (totalExponent m (-n)) - -n).toNat = _
  omega

theorem atMostOne_roundWithAccuracy {m n : Nat} (low : spec.minExponent ≤ 0)
    (bounded : m ≤ 2 ^ n) :
    AtMostOne (roundWithAccuracy spec .positive m (-n) .exact) := by
  -- the first shift rounds, and the second one makes room for a digit that this may have added
  obtain ⟨k, dropped, first⟩ := shiftToTargetExponent_small low bounded
  have rounded := roundedMantissa_shift_le bounded dropped
  obtain ⟨l, fits, second⟩ := shiftToTargetExponent_small low rounded
  have split : 2 ^ (n - k) = 2 ^ l * 2 ^ (n - k - l) := by
    rw [← pow_add, Nat.add_sub_cancel' fits]
  unfold roundWithAccuracy
  simp only [first, second, shift_mantissa]
  split
  · trivial
  · exact ⟨n - k - l, rfl, Nat.div_le_of_le_mul (rounded.trans_eq split)⟩

/-- **Rounding does not pass one.** -/
theorem atMostOne_round {m n : Nat} (low : spec.minExponent ≤ 0) (bounded : m ≤ 2 ^ n) :
    AtMostOne (UnpackedFloat.round spec .positive m (-n)) := by
  unfold UnpackedFloat.round decreaseExponent
  dsimp only
  generalize ((-(n : Int)) - spec.targetExponent (totalExponent m (-n))).toNat = k
  have exponent : -(n : Int) - k = -((n + k : Nat) : Int) := by omega
  rw [exponent, Nat.shiftLeft_eq]
  refine atMostOne_roundWithAccuracy low ?_
  rw [pow_add]
  exact Nat.mul_le_mul_right _ bounded

/-! ### Packing -/

theorem atMostOne_unpack_subnormal (wide : spec.mantissaBitsWithoutImplicit ≤ spec.exponentBias)
    (mantissa : BitVec spec.mantissaBitsWithoutImplicit) :
    AtMostOne (unpack spec (packComponents spec .positive 0#_ mantissa)) := by
  have some := spec.hm
  have notLast : (0#_ : BitVec spec.exponentBits) ≠ -1#_ := by
    simp [Nat.pos_iff_ne_zero.mp spec.he]
  unfold unpack
  simp only [unpackMantissa_packComponents, unpackExponent_packComponents,
    unpackSign_packComponents, Sign.ofBitVec_toBitVec, if_neg notLast, if_true]
  split
  · trivial
  · refine ⟨spec.exponentBias + spec.mantissaBitsWithoutImplicit - 1, ?_, ?_⟩
    · simp only [BitVec.toNat_ofNat, Nat.zero_mod]
      omega
    · exact mantissa.isLt.le.trans (Nat.pow_le_pow_right Nat.two_pos (by omega))

/-- **Packing does not pass one.** -/
theorem atMostOne_unpack_pack (wide : spec.mantissaBitsWithoutImplicit ≤ spec.exponentBias)
    {u : UnpackedFloat} (small : AtMostOne u) : AtMostOne (unpack spec (pack spec u)) := by
  cases u with
  | notANumber => cases small
  | infinity s => cases small
  | zero s =>
    rw [show pack spec (.zero s) = packedZero spec s from rfl, unpack_packedZero]
    trivial
  | finite s m e positive =>
    cases s with
    | negative => cases small
    | positive =>
      obtain ⟨n, rfl, bounded⟩ := small
      have range : 2 * (spec.exponentBias + 1) = 2 ^ spec.exponentBits := by
        unfold Format.exponentBias
        rw [Nat.sub_add_cancel Nat.one_le_two_pow, ← pow_succ', Nat.sub_add_cancel spec.he]
      unfold pack
      extract_lets bits stored
      rw [if_neg (by omega)]
      by_cases full : bits + 1 = spec.mantissaBits
      · rw [if_pos full]
        by_cases normal : 0 < stored
        · have digits : m.log2 = spec.mantissaBitsWithoutImplicit := by
            unfold Format.mantissaBits at full
            omega
          rw [unpack_packComponents_normal positive digits normal (by omega)]
          exact ⟨n, by omega, bounded⟩
        · rw [Nat.eq_zero_of_not_pos normal]
          exact atMostOne_unpack_subnormal wide _
      · rw [if_neg full]
        exact atMostOne_unpack_subnormal wide _

end Rounding

/-! ### Doubles -/

theorem unpack_zero : (0 : Float).toModel.unpack = .zero .positive := rfl

/-- The significand of a double has 53 digits, fewer only at the least exponent. -/
theorem unpack_canonical {x : Float} {s : Sign} {m : Nat} {e : Int} {positive : 0 < m}
    (unpacked : x.toModel.unpack = .finite s m e positive) :
    m < 2 ^ 53 ∧ (-1074 < e → 2 ^ 52 ≤ m) := by
  change unpack Format.binary64 x.toModel.toBits.toBitVec = _ at unpacked
  generalize x.toModel.toBits.toBitVec = bits at unpacked
  unfold unpack at unpacked
  extract_lets mantissa stored exponent signBit sign at unpacked
  have narrow : mantissa.toNat < 2 ^ 52 := mantissa.isLt
  split at unpacked
  · split at unpacked <;> cases unpacked
  · split at unpacked
    · rename_i first
      split at unpacked
      · cases unpacked
      · injection unpacked with _ significand power
        have least : exponent = -1075 := by
          show (stored.toNat : Int) - (Format.binary64.exponentBias + 52) = -1075
          rw [first]
          rfl
        omega
    · injection unpacked with _ significand power
      rw [BitVec.toNat_append, ← Nat.shiftLeft_add_eq_or_of_lt mantissa.isLt] at significand
      change 1 <<< 52 + mantissa.toNat = m at significand
      omega

/-- Two values compare the other way round when they are exchanged. -/
theorem compare_swap (u v : UnpackedFloat) : v.compare u = (u.compare v).map Ordering.swap := by
  have order (m₁ m₂ : Nat) (e₁ e₂ : Int) : (compare e₂ e₁).then (compare m₂ m₁) =
      ((compare e₁ e₂).then (compare m₁ m₂)).swap := by
    rw [Ordering.swap_then, Int.compare_swap, Nat.compare_swap]
  cases u with
  | notANumber => cases v <;> rfl
  | infinity s => cases v with
    | infinity t => cases s <;> cases t <;> rfl
    | _ => cases s <;> rfl
  | zero s => cases v with
    | infinity t => cases t <;> rfl
    | finite t n d above => cases t <;> rfl
    | _ => rfl
  | finite s m e positive => cases v with
    | infinity t => cases t <;> rfl
    | notANumber => rfl
    | zero t => cases s <;> rfl
    | finite t n d above =>
      cases s <;> cases t
      · exact congrArg (fun o => some o.swap) (order m n e d)
      · rfl
      · rfl
      · exact congrArg some (order m n e d)

theorem lt_iff_compare {x y : Float} :
    x < y ↔ x.toModel.unpack.compare y.toModel.unpack = some .lt :=
  (decide_eq_true_iff (p := x.toModel < y.toModel)).trans beq_iff_eq

theorem le_iff_compare {x y : Float} :
    x ≤ y ↔ (x.toModel.unpack.compare y.toModel.unpack).any (·.isLE) = true :=
  decide_eq_true_iff (p := x.toModel ≤ y.toModel)

/-- Only what is not a number cannot be compared. -/
theorem isSome_compare {u v : UnpackedFloat} (number : u.isNaN = false) (other : v.isNaN = false) :
    (u.compare v).isSome = true := by
  cases u with
  | notANumber => cases number
  | infinity s => cases v with
    | notANumber => cases other
    | infinity t => rfl
    | _ => cases s <;> rfl
  | zero s => cases v with
    | notANumber => cases other
    | zero t => rfl
    | infinity t => cases t <;> rfl
    | finite t n d above => cases t <;> rfl
  | finite s m e positive => cases v with
    | notANumber => cases other
    | zero t => cases s <;> rfl
    | infinity t => cases t <;> rfl
    | finite t n d above => cases s <;> cases t <;> rfl

/-- What is less than something is a number, and so is the other one. -/
theorem not_isNaN_of_lt {x y : Float} (less : x < y) : x.isNaN = false ∧ y.isNaN = false := by
  rw [lt_iff_compare] at less
  show x.toModel.unpack.isNaN = false ∧ y.toModel.unpack.isNaN = false
  cases first : x.toModel.unpack with
  | notANumber => rw [first] at less; cases less
  | _ =>
    cases second : y.toModel.unpack with
    | notANumber => rw [compare_swap y.toModel.unpack, second] at less; cases less
    | _ => exact ⟨rfl, rfl⟩

/-- What is at most something is a number, and so is the other one. -/
theorem not_isNaN_of_le {x y : Float} (le : x ≤ y) : x.isNaN = false ∧ y.isNaN = false := by
  rw [le_iff_compare] at le
  show x.toModel.unpack.isNaN = false ∧ y.toModel.unpack.isNaN = false
  cases first : x.toModel.unpack with
  | notANumber => rw [first] at le; cases le
  | _ =>
    cases second : y.toModel.unpack with
    | notANumber => rw [compare_swap y.toModel.unpack, second] at le; cases le
    | _ => exact ⟨rfl, rfl⟩

/-- What is negative is less than what is positive. -/
theorem lt_of_neg {x y : Float} (negative : x < 0) {m : Nat} {e : Int} {positive : 0 < m}
    (unpacked : y.toModel.unpack = .finite .positive m e positive) : x < y := by
  rw [lt_iff_compare] at negative ⊢
  rw [unpack_zero] at negative
  rw [unpacked]
  cases first : x.toModel.unpack with
  | notANumber => rw [first] at negative; cases negative
  | infinity s => rw [first] at negative; cases s <;> first | rfl | cases negative
  | zero s => rw [first] at negative; cases negative
  | finite s n d above => rw [first] at negative; cases s <;> first | rfl | cases negative

/-- Of two numbers, one is less than the other one or at least it. -/
theorem le_of_not_lt {x y : Float} (number : x.isNaN = false) (other : y.isNaN = false)
    (notLess : ¬ x < y) : y ≤ x := by
  obtain ⟨order, compared⟩ := Option.isSome_iff_exists.mp (isSome_compare number other)
  rw [lt_iff_compare, compared] at notLess
  rw [le_iff_compare, compare_swap x.toModel.unpack, compared]
  cases order with
  | lt => exact absurd rfl notLess
  | eq => rfl
  | gt => rfl

/-- Holds of doubles from zero to one. -/
def InUnit (x : Float) : Prop := 0 ≤ x ∧ x ≤ 1

theorem unpack_unit : (1 : Float).toModel.unpack = .finite .positive (2 ^ 52) (-52) (by decide) :=
  rfl

/-- A positive significand compares with one by its exponent first. -/
theorem compare_unit_isLE {m : Nat} {e : Int} :
    ((compare e (-52)).then (compare m (2 ^ 52))).isLE = true ↔
      e < -52 ∨ e = -52 ∧ m ≤ 2 ^ 52 := by
  rw [Ordering.isLE_then_iff_or, Int.compare_eq_lt, Int.compare_eq_eq, Nat.isLE_compare]

theorem inUnit_iff {x : Float} : InUnit x ↔ AtMostOne x.toModel.unpack := by
  unfold InUnit
  rw [le_iff_compare, le_iff_compare, unpack_zero, unpack_unit]
  cases unpacked : x.toModel.unpack with
  | notANumber => exact ⟨fun bounds => absurd bounds.1 nofun, nofun⟩
  | infinity s =>
    cases s with
    | negative => exact ⟨fun bounds => absurd bounds.1 nofun, nofun⟩
    | positive => exact ⟨fun bounds => absurd bounds.2 nofun, nofun⟩
  | zero s => exact ⟨fun _ => trivial, fun _ => ⟨rfl, rfl⟩⟩
  | finite s m e positive =>
    cases s with
    | negative => exact ⟨fun bounds => absurd bounds.1 nofun, nofun⟩
    | positive =>
      obtain ⟨digits, full⟩ := unpack_canonical unpacked
      have compared : Option.any (·.isLE) (UnpackedFloat.compare (.finite .positive m e positive)
          (.finite .positive (2 ^ 52) (-52) (by decide))) = true ↔ e < -52 ∨ e = -52 ∧ m ≤ 2 ^ 52 :=
        compare_unit_isLE
      rw [compared]
      constructor
      · rintro ⟨_, small | ⟨rfl, least⟩⟩
        · obtain ⟨n, rfl⟩ : ∃ n : Nat, e = -n := ⟨(-e).toNat, by omega⟩
          exact ⟨n, rfl, digits.le.trans (Nat.pow_le_pow_right Nat.two_pos (by omega))⟩
        · exact ⟨52, rfl, least⟩
      · rintro ⟨n, rfl, bounded⟩
        refine ⟨rfl, ?_⟩
        rcases Nat.lt_trichotomy n 52 with few | rfl | many
        · -- a significand with fewer digits behind the point would be above one
          have fewer : 2 ^ n < 2 ^ 52 := Nat.pow_lt_pow_right Nat.one_lt_two few
          have := full (by omega)
          omega
        · exact Or.inr ⟨rfl, bounded⟩
        · exact Or.inl (by omega)

/-- **Rounding to single precision stays in `[0, 1]`.** -/
theorem inUnit_roundSingle {x : Float} (bounds : InUnit x) : InUnit (roundSingle x) := by
  rw [inUnit_iff] at bounds ⊢
  have nearest : AtMostOne (nearestSingle x).toModel.unpack := by
    unfold nearestSingle
    cases unpacked : x.toModel.unpack with
    | finite s m e positive =>
      rw [unpacked] at bounds
      cases s with
      | negative => cases bounds
      | positive =>
        obtain ⟨n, rfl, bounded⟩ := bounds
        exact atMostOne_unpack_pack (by decide) (atMostOne_round (by decide) bounded)
    | _ =>
      rw [unpacked] at bounds
      exact atMostOne_unpack_pack (by decide) bounds
  unfold roundSingle widenSingle
  cases unpacked : (nearestSingle x).toModel.unpack with
  | finite s m e positive =>
    rw [unpacked] at nearest
    cases s with
    | negative => cases nearest
    | positive =>
      obtain ⟨n, rfl, bounded⟩ := nearest
      exact atMostOne_unpack_pack (by decide) (atMostOne_round (by decide) bounded)
  | _ =>
    rw [unpacked] at nearest
    exact atMostOne_unpack_pack (by decide) nearest

/-! ### Cutting off -/

theorem not_isNaN_zero : (0 : Float).isNaN = false := rfl

theorem not_isNaN_one : (1 : Float).isNaN = false := rfl

/-- **A number is cut off to one from zero to one.** -/
theorem inUnit_clamp {x : Float} (number : x.isNaN = false) : InUnit (Scalar.clamp x 0 1) := by
  unfold Scalar.clamp
  split
  · exact ⟨rfl, rfl⟩
  · rename_i low
    split
    · exact ⟨rfl, rfl⟩
    · rename_i high
      exact ⟨le_of_not_lt number not_isNaN_zero low, le_of_not_lt not_isNaN_one number high⟩

/-- What is not a number is not cut off. -/
theorem clamp_of_isNaN {x : Float} (special : x.isNaN = true) (low high : Float) :
    Scalar.clamp x low high = x := by
  have below : ¬ x < low := fun less =>
    Bool.false_ne_true ((not_isNaN_of_lt less).1.symm.trans special)
  have above : ¬ high < x := fun less =>
    Bool.false_ne_true ((not_isNaN_of_lt less).2.symm.trans special)
  unfold Scalar.clamp
  rw [if_neg below, if_neg above]

/-- The smaller of anything and a number is a number. -/
theorem not_isNaN_min (x : Float) {y : Float} (number : y.isNaN = false) :
    (Scalar.min x y).isNaN = false := by
  unfold Scalar.min
  split
  · exact number
  · rename_i other
    exact Bool.eq_false_iff.mpr fun special => other (Bool.or_eq_true_iff.mpr (Or.inl special))

/-- What is not less than something positive is cut off at one to lie between zero and one. -/
theorem inUnit_min {x low : Float} {m : Nat} {e : Int} {positive : 0 < m}
    (unpacked : low.toModel.unpack = .finite .positive m e positive) (held : ¬ x < low) :
    InUnit (Scalar.min x 1) := by
  unfold Scalar.min
  split
  · exact ⟨rfl, rfl⟩
  · rename_i other
    have number : x.isNaN = false :=
      Bool.eq_false_iff.mpr fun special => other (Bool.or_eq_true_iff.mpr (Or.inl special))
    have high : ¬ 1 < x := fun less => other (Bool.or_eq_true_iff.mpr (Or.inr (decide_eq_true less)))
    have nonneg : ¬ x < 0 := fun negative => held (lt_of_neg negative unpacked)
    exact ⟨le_of_not_lt number not_isNaN_zero nonneg, le_of_not_lt not_isNaN_one number high⟩

end PointerForecast.Double
