/-
**Values that are not finite.**

A double is unpacked, the operation is done on what it stands for, and the result is packed again.
Packing keeps what is infinite and what is not a number, so the special values spread through sums and
products, and nothing else makes a value that is not a number out of numbers but an infinity that meets
a zero, another infinity or its opposite.

* `isNaN_unpack_pack`, `isFinite_unpack_pack`: **packing keeps special values**, in any format.
* `isNaN_add`, `isNaN_sub`, `isNaN_mul`, `isNaN_div`, `isNaN_sqrt`: not a number stays so.
* `isFinite_add`, `isFinite_mul`, `isNaN_zero_mul`: what is not finite spreads.
* `isNaN_mul_ordinary`, `isNaN_div_ordinary`: a number times or over an ordinary one is a number.
-/

import PointerForecast.Scalar.Double
import Mathlib

namespace PointerForecast.Double

open Float.Model (Format UnpackedFloat)
open Float.Model.UnpackedFloat

/-! ### Packing -/

section Packing

variable {spec : Format}

theorem unpack_pack_infinity (s : Sign) : unpack spec (pack spec (.infinity s)) = .infinity s := by
  simp [pack, packedInfinity, unpack]

/-- The exponent of a packed finite value is not the last one, or nothing is stored beside it. -/
theorem isNaN_unpack_packComponents_zero (s : Sign) (exponent : BitVec spec.exponentBits) :
    (unpack spec (packComponents spec s exponent 0)).isNaN = false := by
  unfold unpack
  simp only [unpackMantissa_packComponents, unpackExponent_packComponents]
  split
  · simp [isNaN]
  · split
    · simp [isNaN]
    · rfl

theorem isNaN_unpack_packComponents (s : Sign) {exponent : BitVec spec.exponentBits}
    (notLast : exponent ≠ -1#_) (mantissa : BitVec spec.mantissaBitsWithoutImplicit) :
    (unpack spec (packComponents spec s exponent mantissa)).isNaN = false := by
  unfold unpack
  simp only [unpackMantissa_packComponents, unpackExponent_packComponents, if_neg notLast]
  split
  · split <;> rfl
  · rfl

/-- A full significand is unpacked as it was packed, if its exponent is stored. -/
theorem unpack_packComponents_normal {m stored : Nat} (positive : 0 < m)
    (full : m.log2 = spec.mantissaBitsWithoutImplicit) (normal : 0 < stored)
    (fits : stored + 1 < 2 ^ spec.exponentBits) (s : Sign) :
    unpack spec (packComponents spec s (BitVec.ofNat _ stored) (BitVec.ofNat _ m)) =
      .finite s m (stored - (spec.exponentBias + spec.mantissaBitsWithoutImplicit)) positive := by
  obtain ⟨lower, upper⟩ := (Nat.log2_eq_iff positive.ne').mp full
  have exponent : (BitVec.ofNat spec.exponentBits stored).toNat = stored := by
    rw [BitVec.toNat_ofNat, Nat.mod_eq_of_lt (by omega)]
  have significand : (1#1 ++ BitVec.ofNat spec.mantissaBitsWithoutImplicit m).toNat = m := by
    rw [BitVec.toNat_append, ← Nat.shiftLeft_add_eq_or_of_lt (BitVec.isLt _)]
    rw [pow_succ] at upper
    have remainder : m % 2 ^ spec.mantissaBitsWithoutImplicit =
        m - 2 ^ spec.mantissaBitsWithoutImplicit := by
      rw [Nat.mod_eq_sub_mod lower, Nat.mod_eq_of_lt (by omega)]
    rw [BitVec.toNat_ofNat, BitVec.toNat_ofNat, Nat.shiftLeft_eq, remainder]
    omega
  have notLast : BitVec.ofNat spec.exponentBits stored ≠ -1#_ := by
    intro same
    have value := congrArg BitVec.toNat same
    rw [exponent, BitVec.neg_one_eq_allOnes, BitVec.toNat_allOnes] at value
    omega
  have notFirst : BitVec.ofNat spec.exponentBits stored ≠ 0#_ := by
    intro same
    have value := congrArg BitVec.toNat same
    rw [exponent, BitVec.toNat_ofNat, Nat.zero_mod] at value
    omega
  unfold unpack
  simp only [unpackMantissa_packComponents, unpackExponent_packComponents,
    unpackSign_packComponents, Sign.ofBitVec_toBitVec, if_neg notLast, if_neg notFirst,
    significand, exponent]

/-- **Packing keeps what is not a number**, and makes nothing else so. -/
theorem isNaN_unpack_pack (u : UnpackedFloat) :
    (unpack spec (pack spec u)).isNaN = u.isNaN := by
  cases u with
  | notANumber => simp [pack, isNaN]
  | infinity s => rw [unpack_pack_infinity]
  | zero s => exact isNaN_unpack_packComponents_zero s 0
  | finite s m e positive =>
    show _ = false
    unfold pack
    extract_lets bits biased
    by_cases overflow : 2 ^ spec.exponentBits ≤ biased + 1
    · rw [if_pos overflow]
      exact isNaN_unpack_packComponents_zero s _
    · have nonzero := Nat.pos_iff_ne_zero.mp spec.he
      rw [if_neg overflow]
      split
      · refine isNaN_unpack_packComponents s (fun last => ?_) _
        have value := congrArg BitVec.toNat last
        rw [BitVec.neg_one_eq_allOnes, BitVec.toNat_ofNat, BitVec.toNat_allOnes,
          Nat.mod_eq_of_lt (by omega)] at value
        omega
      · exact isNaN_unpack_packComponents s (by simp [nonzero]) _

theorem isFinite_unpack_pack {u : UnpackedFloat} (special : u.isFinite = false) :
    (unpack spec (pack spec u)).isFinite = false := by
  cases u with
  | notANumber => rw [show pack spec .notANumber = packedNaN spec from rfl, unpack_packedNaN]; rfl
  | infinity s => rw [unpack_pack_infinity]; rfl
  | zero s => cases special
  | finite s m e positive => cases special

end Packing

/-! ### Rounding -/

theorem isNaN_roundWithAccuracy (spec : Format) (s : Sign) (m : Nat) (e : Int)
    (accuracy : Accuracy) : (roundWithAccuracy spec s m e accuracy).isNaN = false := by
  unfold roundWithAccuracy
  dsimp only
  split <;> rfl

theorem isNaN_normalize (spec : Format) (m e : Int) (s : Sign) :
    (UnpackedFloat.normalize spec m e s).isNaN = false := by
  unfold UnpackedFloat.normalize
  split
  · exact isNaN_roundWithAccuracy ..
  · rfl
  · exact isNaN_roundWithAccuracy ..

theorem isNaN_widenSingle (x : Float32) : (widenSingle x).isNaN = x.toModel.unpack.isNaN := by
  show (widenSingle x).toModel.unpack.isNaN = _
  unfold widenSingle
  cases x.toModel.unpack with
  | finite s m e positive => exact (isNaN_unpack_pack _).trans (isNaN_roundWithAccuracy ..)
  | _ => exact isNaN_unpack_pack _

/-- **Rounding to single precision keeps what is not a number**, and makes nothing else so. -/
theorem isNaN_roundSingle (x : Float) : (roundSingle x).isNaN = x.isNaN := by
  refine (isNaN_widenSingle (nearestSingle x)).trans ?_
  show _ = x.toModel.unpack.isNaN
  unfold nearestSingle
  cases x.toModel.unpack with
  | finite s m e positive => exact (isNaN_unpack_pack _).trans (isNaN_roundWithAccuracy ..)
  | _ => exact isNaN_unpack_pack _

/-! ### Special values spread -/

section Operations

variable {spec : Format} {u v : UnpackedFloat} {x y : Float}

theorem not_finite_cases (special : u.isFinite = false) :
    u = .notANumber ∨ ∃ s, u = .infinity s := by
  cases u with
  | notANumber => exact Or.inl rfl
  | infinity s => exact Or.inr ⟨s, rfl⟩
  | zero s => cases special
  | finite s m e positive => cases special

/-- Holds of an operation in which special values spread. -/
structure Spreads (operation : UnpackedFloat → UnpackedFloat → UnpackedFloat) : Prop where
  /-- What is not a number stays so. -/
  notANumber : ∀ u v, u = .notANumber ∨ v = .notANumber → operation u v = .notANumber
  /-- An infinite value gives one that is not finite. -/
  infinity : ∀ s u, (operation (.infinity s) u).isFinite = false ∧
    (operation u (.infinity s)).isFinite = false

theorem spreads_add : Spreads (add spec) where
  notANumber u v special := by
    rcases special with rfl | rfl
    · rfl
    · cases u <;> rfl
  infinity s u := by
    cases u with
    | infinity t => cases s <;> cases t <;> exact ⟨rfl, rfl⟩
    | _ => exact ⟨rfl, rfl⟩

theorem spreads_sub : Spreads (sub spec) where
  notANumber u v special := by
    rcases special with rfl | rfl
    · rfl
    · cases u <;> rfl
  infinity s u := by
    cases u with
    | infinity t => cases s <;> cases t <;> exact ⟨rfl, rfl⟩
    | _ => exact ⟨rfl, rfl⟩

theorem spreads_mul : Spreads (mul spec) where
  notANumber u v special := by
    rcases special with rfl | rfl
    · rfl
    · cases u <;> rfl
  infinity s u := by cases u <;> exact ⟨rfl, rfl⟩

namespace Spreads

variable {operation : UnpackedFloat → UnpackedFloat → UnpackedFloat}

theorem notFinite (spreads : Spreads operation)
    (special : u.isFinite = false ∨ v.isFinite = false) : (operation u v).isFinite = false := by
  rcases special with first | second
  · rcases not_finite_cases first with rfl | ⟨s, rfl⟩
    · rw [spreads.notANumber _ _ (Or.inl rfl)]
      rfl
    · exact (spreads.infinity s v).1
  · rcases not_finite_cases second with rfl | ⟨s, rfl⟩
    · rw [spreads.notANumber _ _ (Or.inr rfl)]
      rfl
    · exact (spreads.infinity s u).2

theorem isFinite (spreads : Spreads operation)
    (special : x.isFinite = false ∨ y.isFinite = false) :
    (Float.ofModel (.pack (operation x.toModel.unpack y.toModel.unpack))).isFinite = false :=
  isFinite_unpack_pack (spreads.notFinite special)

end Spreads

/-- A double is not a number if what it stands for is not. -/
theorem isNaN_iff_unpack : x.isNaN = true ↔ x.toModel.unpack = .notANumber :=
  UnpackedFloat.isNaN_iff

theorem isNaN_pack (special : u = .notANumber) : (Float.ofModel (.pack u)).isNaN = true :=
  (isNaN_unpack_pack u).trans (by rw [special]; rfl)

theorem Spreads.isNaN {operation : UnpackedFloat → UnpackedFloat → UnpackedFloat}
    (spreads : Spreads operation) (special : x.isNaN = true ∨ y.isNaN = true) :
    (Float.ofModel (.pack (operation x.toModel.unpack y.toModel.unpack))).isNaN = true :=
  isNaN_pack (spreads.notANumber _ _ (special.imp isNaN_iff_unpack.mp isNaN_iff_unpack.mp))

theorem isNaN_add (special : x.isNaN = true ∨ y.isNaN = true) : (x + y).isNaN = true :=
  spreads_add.isNaN special

theorem isNaN_sub (special : x.isNaN = true ∨ y.isNaN = true) : (x - y).isNaN = true :=
  spreads_sub.isNaN special

theorem isNaN_mul (special : x.isNaN = true ∨ y.isNaN = true) : (x * y).isNaN = true :=
  spreads_mul.isNaN special

theorem isNaN_div (special : x.isNaN = true) : (x / y).isNaN = true :=
  isNaN_pack (by rw [isNaN_iff_unpack.mp special]; rfl)

theorem isNaN_sqrt (special : x.isNaN = true) : x.sqrt.isNaN = true :=
  isNaN_pack (by rw [isNaN_iff_unpack.mp special]; rfl)

theorem isFinite_add (special : x.isFinite = false ∨ y.isFinite = false) :
    (x + y).isFinite = false := spreads_add.isFinite special

theorem isFinite_sub (special : x.isFinite = false ∨ y.isFinite = false) :
    (x - y).isFinite = false := spreads_sub.isFinite special

theorem isFinite_mul (special : x.isFinite = false ∨ y.isFinite = false) :
    (x * y).isFinite = false := spreads_mul.isFinite special

/-- A quotient of what is not finite is not finite. -/
theorem isFinite_div (special : x.isFinite = false) : (x / y).isFinite = false := by
  refine isFinite_unpack_pack (u := div Format.binary64 x.toModel.unpack y.toModel.unpack) ?_
  rcases not_finite_cases special with unpacked | ⟨s, unpacked⟩
  · rw [unpacked]
    rfl
  · rw [unpacked]
    cases y.toModel.unpack <;> rfl

theorem isFinite_of_isNaN (special : x.isNaN = true) : x.isFinite = false := by
  show x.toModel.unpack.isFinite = false
  rw [isNaN_iff_unpack.mp special]
  rfl

/-- **Zero times what is not finite is not a number.** -/
theorem isNaN_zero_mul (special : x.isFinite = false) : (0 * x).isNaN = true := by
  refine isNaN_pack (u := mul Format.binary64 (.zero .positive) x.toModel.unpack) ?_
  rcases not_finite_cases special with unpacked | ⟨s, unpacked⟩
  · rw [unpacked]
    rfl
  · rw [unpacked]
    rfl

/-! ### Numbers stay numbers -/

theorem isNaN_mul_finite (u : UnpackedFloat) (s : Sign) {m : Nat} (e : Int) (positive : 0 < m) :
    (mul spec u (.finite s m e positive)).isNaN = u.isNaN := by
  cases u with
  | finite t n d above => exact isNaN_roundWithAccuracy ..
  | _ => rfl

theorem isNaN_div_finite (u : UnpackedFloat) (s : Sign) {m : Nat} (e : Int) (positive : 0 < m) :
    (div spec u (.finite s m e positive)).isNaN = u.isNaN := by
  cases u with
  | finite t n d above => exact isNaN_roundWithAccuracy ..
  | _ => rfl

theorem isNaN_ofScientific (m : Nat) (e : Int) : (ofScientific spec m e).isNaN = false := by
  unfold ofScientific
  split
  · rfl
  split
  · rfl
  split
  · rfl
  split
  · exact isNaN_mul_finite ..
  · exact isNaN_div_finite ..

/-- Holds of a double that is neither zero nor special. -/
def isOrdinary (x : Float) : Bool :=
  match x.toModel.unpack with
  | .finite .. => true
  | _ => false

theorem exists_of_isOrdinary (ordinary : isOrdinary x = true) :
    ∃ s m e positive, x.toModel.unpack = .finite s m e positive := by
  unfold isOrdinary at ordinary
  split at ordinary
  · exact ⟨_, _, _, _, by assumption⟩
  · cases ordinary

/-- A number times an ordinary one is a number. -/
theorem isNaN_mul_ordinary (ordinary : isOrdinary y = true) : (x * y).isNaN = x.isNaN := by
  obtain ⟨s, m, e, positive, unpacked⟩ := exists_of_isOrdinary ordinary
  refine (isNaN_unpack_pack (mul Format.binary64 x.toModel.unpack y.toModel.unpack)).trans ?_
  rw [unpacked]
  exact isNaN_mul_finite ..

/-- A number over an ordinary one is a number. -/
theorem isNaN_div_ordinary (ordinary : isOrdinary y = true) : (x / y).isNaN = x.isNaN := by
  obtain ⟨s, m, e, positive, unpacked⟩ := exists_of_isOrdinary ordinary
  refine (isNaN_unpack_pack (div Format.binary64 x.toModel.unpack y.toModel.unpack)).trans ?_
  rw [unpacked]
  exact isNaN_div_finite ..

theorem isNaN_unpack_pack_neg (u : UnpackedFloat) :
    (unpack spec (pack spec u.neg)).isNaN = u.isNaN := by
  rw [isNaN_unpack_pack]
  cases u <;> rfl

theorem isNaN_neg (x : Float) : (-x).isNaN = x.isNaN :=
  isNaN_unpack_pack_neg x.toModel.unpack

/-- The double of a natural number is a number. -/
theorem isNaN_ofNat (n : Nat) : (Float.ofNat n).isNaN = false := by
  show (Float.ofScientific n false 0).isNaN = false
  unfold Float.ofScientific
  split
  · refine (isNaN_mul_ordinary (y := Float.ofBits 0x3FF0000000000000) rfl).trans ?_
    exact (isNaN_unpack_pack _).trans (isNaN_normalize ..)
  · exact (isNaN_unpack_pack _).trans (isNaN_ofScientific ..)

theorem isNaN_ofNat_single (n : Nat) : (Float32.ofNat n).toModel.unpack.isNaN = false := by
  show (Float32.ofScientific n false 0).toModel.unpack.isNaN = false
  unfold Float32.ofScientific
  split
  · have one : (Float32.ofBits 0x3F800000).toModel.unpack =
        .finite .positive (2 ^ 23) (-23) (by decide) := rfl
    refine (isNaN_unpack_pack (mul Format.binary32 n.toUInt64.toFloat32.toModel.unpack
      (Float32.ofBits 0x3F800000).toModel.unpack)).trans ?_
    rw [one, isNaN_mul_finite]
    exact (isNaN_unpack_pack _).trans (isNaN_normalize ..)
  · exact (isNaN_unpack_pack _).trans (isNaN_ofScientific ..)

end Operations

end PointerForecast.Double
