/-
**Every operation gives the nearest double.**

For finite operands a sum, a difference, a product and a quotient denote the nearest double of the
real one, and so does the double of an integer; no operation of finite numbers makes what is not a
number. The ceiling as a 64-bit word is the ceiling of the value, cut off at the largest word: a value
that is not whole is so small that the whole numbers beside it are doubles.

* `denotes_add`, `denotes_sub`, `denotes_mul`, `denotes_div`, `denotes_neg`: **the operations.**
* `denotes_ofInt`, `denotes_ofInt_exact`: the double of an integer.
* `ceilWord_eq`: **the ceiling.**
-/

import PointerForecast.Proofs.Double.Value

namespace PointerForecast.Double

open Float.Model (Format UnpackedFloat totalExponent)
open Float.Model.UnpackedFloat

/-! ### Signs -/

theorem signed_mul (s t : Sign) (v w : ℝ) : signed (s * t) (v * w) = signed s v * signed t w := by
  cases s <;> cases t
  · exact (neg_mul_neg v w).symm
  · exact (neg_mul v w).symm
  · exact (mul_neg v w).symm
  · rfl

theorem signed_div (s t : Sign) (v w : ℝ) : signed (s / t) (v / w) = signed s v / signed t w := by
  cases s <;> cases t
  · exact (neg_div_neg_eq v w).symm
  · exact (neg_div w v).symm
  · exact (div_neg v).symm
  · rfl

theorem signed_neg (s : Sign) (v : ℝ) : signed (-s) v = -signed s v := by
  cases s
  · exact (neg_neg v).symm
  · rfl

theorem signed_mul_right (s : Sign) (v w : ℝ) : signed s (v * w) = signed s v * w := by
  cases s
  · exact (neg_mul v w).symm
  · rfl

/-! ### On the grid -/

/-- What stands for a double is on its grid. -/
theorem onGrid_unpackedValue {u : UnpackedFloat} (finite : u.isFinite = true)
    (canonical : IsCanonical u) : onGrid (unpackedValue u) = unpackedValue u := by
  cases u with
  | notANumber => cases finite
  | infinity s => cases finite
  | zero s => exact onGrid_zero
  | finite s m e positive =>
    have few : |(m : ℤ)| ≤ 2 ^ 53 := by
      rw [abs_of_nonneg (Int.natCast_nonneg m)]
      exact_mod_cast canonical.1.le
    show onGrid (signed s (m * 2 ^ e)) = signed s (m * 2 ^ e)
    rw [onGrid_signed]
    exact congrArg (signed s) (onGrid_of_few few canonical.2.1)

theorem le_gridExponent {v : ℝ} {e : ℤ} (digits : (2 : ℝ) ^ (e + 52) ≤ |v|) :
    e ≤ gridExponent v := by
  have positive : 0 < |v| := (zpow_pos two_pos _).trans_le digits
  have high : e + 52 ≤ Int.log 2 |v| :=
    (Int.zpow_le_iff_le_log one_lt_two positive).mp (by exact_mod_cast digits)
  unfold gridExponent
  omega

/-- Holds of a result that stands for the nearest point of the grid. -/
def Lands (u : UnpackedFloat) (v : ℝ) : Prop :=
  IsCanonical u ∧ u.isNaN = false ∧ unpackedValue u = onGrid v

theorem Lands.denotes {u : UnpackedFloat} {v : ℝ} (lands : Lands u v) :
    Denotes (Float.ofModel (.pack u)) (rounded v) :=
  denotes_pack lands.1 lands.2.1 lands.2.2

theorem lands_self {u : UnpackedFloat} (finite : u.isFinite = true) (canonical : IsCanonical u) :
    Lands u (unpackedValue u) := by
  refine ⟨canonical, ?_, (onGrid_unpackedValue finite canonical).symm⟩
  cases u with
  | notANumber => cases finite
  | _ => rfl

theorem lands_zero (s : Sign) : Lands (.zero s) 0 := ⟨trivial, rfl, onGrid_zero.symm⟩

/-! ### Sums -/

theorem decreaseExponent_value (s : Sign) (m : ℕ) {e target : ℤ} (below : target ≤ e) :
    (s.apply (decreaseExponent m e target).1 : ℤ) * (2 : ℝ) ^ target = signed s (m * 2 ^ e) := by
  obtain ⟨k, decreased, exponent⟩ := decreaseExponent_spec (m := m) below
  rw [decreased, signed_apply, ← signed_mul_right]
  push_cast
  rw [mul_two_pow_mul_zpow, ← exponent]

theorem lands_add {u v : UnpackedFloat} (finite : u.isFinite = true) (finite' : v.isFinite = true)
    (canonical : IsCanonical u) (canonical' : IsCanonical v) :
    Lands (UnpackedFloat.add Format.binary64 u v) (unpackedValue u + unpackedValue v) := by
  cases u with
  | notANumber => cases finite
  | infinity s => cases finite
  | zero s => cases v with
    | notANumber => cases finite'
    | infinity t => cases finite'
    | zero t =>
      have sum : unpackedValue (.zero s) + unpackedValue (.zero t) = 0 := add_zero 0
      rw [sum]
      show Lands (if s == t then .zero s else .zero .positive) 0
      split <;> exact lands_zero _
    | finite t n f positive' =>
      have sum : unpackedValue (.zero s) + unpackedValue (.finite t n f positive') =
        unpackedValue (.finite t n f positive') := zero_add _
      rw [sum]
      exact lands_self finite' canonical'
  | finite s m e positive => cases v with
    | notANumber => cases finite'
    | infinity t => cases finite'
    | zero t =>
      have sum : unpackedValue (.finite s m e positive) + unpackedValue (.zero t) =
        unpackedValue (.finite s m e positive) := add_zero _
      rw [sum]
      exact lands_self finite canonical
    | finite t n f positive' =>
      have sum : signed s (m * 2 ^ e) + signed t (n * 2 ^ f) =
          (s.apply (decreaseExponent m e (min e f)).1 +
            t.apply (decreaseExponent n f (min e f)).1 : ℤ) * (2 : ℝ) ^ min e f := by
        rw [Int.cast_add, add_mul, decreaseExponent_value s m (min_le_left e f),
          decreaseExponent_value t n (min_le_right e f)]
      show Lands _ (signed s (m * 2 ^ e) + signed t (n * 2 ^ f))
      rw [sum]
      obtain ⟨canonical'', same⟩ := normalize_spec _ (min e f) .positive
      exact ⟨canonical'', isNaN_normalize .., same⟩

/-- **A sum denotes the nearest double.** -/
theorem denotes_add {x y : Float} (finite : x.isFinite = true) (finite' : y.isFinite = true) :
    Denotes (x + y) (rounded (value x + value y)) :=
  (lands_add finite finite' (isCanonical_unpack x) (isCanonical_unpack y)).denotes

/-! ### Products and quotients -/

/-- The digits of a product lie on its grid or further: unless both exponents are the least ones, one
of the significands is full. -/
theorem add_le_gridExponent {s t : Sign} {m n : ℕ} {e f : ℤ} (positive : 0 < m)
    (positive' : 0 < n) (canonical : IsCanonical (.finite s m e positive))
    (canonical' : IsCanonical (.finite t n f positive')) :
    e + f ≤ gridExponent ((m * n : ℕ) * 2 ^ (e + f)) := by
  obtain ⟨_, low, full⟩ := canonical
  obtain ⟨_, low', full'⟩ := canonical'
  by_cases least : e + f ≤ -1074
  · exact least.trans (least_le_gridExponent _)
  · have digits : 2 ^ 52 ≤ m * n := by
      rcases lt_or_eq_of_le low with coarse | rfl
      · exact (full coarse).trans (Nat.le_mul_of_pos_right m positive')
      · exact (full' (by omega)).trans (Nat.le_mul_of_pos_left n positive)
    have digits' : (2 : ℝ) ^ 52 ≤ (m * n : ℕ) := by exact_mod_cast digits
    refine le_gridExponent ?_
    rw [abs_of_nonneg (by positivity), zpow_add₀ two_ne_zero, mul_comm]
    exact mul_le_mul_of_nonneg_right (by exact_mod_cast digits') (by positivity)

theorem lands_mul {u v : UnpackedFloat} (finite : u.isFinite = true) (finite' : v.isFinite = true)
    (canonical : IsCanonical u) (canonical' : IsCanonical v) :
    Lands (UnpackedFloat.mul Format.binary64 u v) (unpackedValue u * unpackedValue v) := by
  cases u with
  | notANumber => cases finite
  | infinity s => cases finite
  | zero s =>
    have product : unpackedValue (.zero s) * unpackedValue v = 0 := zero_mul _
    rw [product]
    cases v with
    | notANumber => cases finite'
    | infinity t => cases finite'
    | zero t => exact lands_zero _
    | finite t n f positive' => exact lands_zero _
  | finite s m e positive => cases v with
    | notANumber => cases finite'
    | infinity t => cases finite'
    | zero t =>
      have product : unpackedValue (.finite s m e positive) * unpackedValue (.zero t) = 0 :=
        mul_zero _
      rw [product]
      exact lands_zero _
    | finite t n f positive' =>
      have product : signed s (m * 2 ^ e) * signed t (n * 2 ^ f) =
          signed (s * t) ((m * n : ℕ) * 2 ^ (e + f)) := by
        rw [← signed_mul, zpow_add₀ two_ne_zero]
        push_cast
        ring_nf
      have fine := add_le_gridExponent positive positive' canonical canonical'
      show Lands _ (signed s (m * 2 ^ e) * signed t (n * 2 ^ f))
      rw [product]
      obtain ⟨canonical'', same⟩ := roundWithAccuracy_spec (s * t)
        (Nat.cast_pos.mpr (Nat.mul_pos positive positive')) (locates_exact (m * n)) fine
      exact ⟨canonical'', isNaN_roundWithAccuracy .., by rw [onGrid_signed]; exact same⟩

/-- **A product denotes the nearest double.** -/
theorem denotes_mul {x y : Float} (finite : x.isFinite = true) (finite' : y.isFinite = true) :
    Denotes (x * y) (rounded (value x * value y)) :=
  (lands_mul finite finite' (isCanonical_unpack x) (isCanonical_unpack y)).denotes

/-- The remainder of a division locates the quotient. -/
theorem locates_quotient (n : ℕ) {d : ℕ} (positive : 0 < d) :
    Locates (accuracyOfFraction (n % d) d) ((n : ℝ) / d - (n / d : ℕ)) := by
  have positive' : (0 : ℝ) < d := Nat.cast_pos.mpr positive
  have rest : (n : ℝ) / d - (n / d : ℕ) = (n % d : ℕ) / d := by
    have split : (n : ℝ) = d * (n / d : ℕ) + (n % d : ℕ) := by
      exact_mod_cast (Nat.div_add_mod n d).symm
    rw [div_sub' positive'.ne', div_left_inj' positive'.ne']
    linarith
  have below : ((n % d : ℕ) : ℝ) < d := by exact_mod_cast Nat.mod_lt n positive
  rw [rest]
  generalize n % d = r at below
  unfold accuracyOfFraction
  by_cases zero : r = 0
  · rw [if_pos zero, zero]
    exact (congrArg (· / (d : ℝ)) Nat.cast_zero).trans (zero_div _)
  · rw [if_neg zero]
    have some : (0 : ℝ) < r := Nat.cast_pos.mpr (Nat.pos_of_ne_zero zero)
    have opposite : 1 - (r : ℝ) / d = (d - r) / d := by rw [sub_div, div_self positive'.ne']
    rcases lt_trichotomy (2 * r) d with low | half | high
    · have low' : (2 : ℝ) * r < d := by exact_mod_cast low
      rw [compare_lt_iff_lt.mpr low]
      refine ⟨div_pos some positive', ?_⟩
      rw [opposite, div_lt_div_iff_of_pos_right positive']
      linarith
    · have half' : (2 : ℝ) * r = d := by exact_mod_cast half
      rw [compare_eq_iff_eq.mpr half]
      show (r : ℝ) / d = 1 - r / d
      rw [opposite, div_left_inj' positive'.ne']
      linarith
    · have high' : (d : ℝ) < 2 * r := by exact_mod_cast high
      rw [compare_gt_iff_gt.mpr high]
      refine ⟨?_, (div_lt_one positive').mpr below⟩
      rw [opposite, div_lt_div_iff_of_pos_right positive']
      linarith

/-- The digits of a quotient lie on its grid or further. -/
theorem targetExponent_quotient_le {m n : ℕ} (positive : 0 < m) (positive' : 0 < n) (e f : ℤ) :
    Format.binary64.targetExponent (totalExponent m e - totalExponent n f) ≤
      gridExponent (m * 2 ^ e / (n * 2 ^ f)) := by
  have target : Format.binary64.targetExponent (totalExponent m e - totalExponent n f) =
      max (m.log2 + e - (n.log2 + f) - 53) (-1074) := by
    unfold Format.targetExponent totalExponent Format.mantissaBits Format.minExponent
    norm_num [Format.mantissaBits]
    omega
  have least : (2 : ℝ) ^ m.log2 ≤ m := by exact_mod_cast Nat.log2_self_le positive.ne'
  have most : (n : ℝ) ≤ 2 ^ (n.log2 + 1) := by exact_mod_cast Nat.lt_log2_self.le
  rw [target]
  refine max_le (le_gridExponent ?_) (least_le_gridExponent _)
  rw [abs_of_nonneg (by positivity), le_div_iff₀ (by positivity)]
  calc (2 : ℝ) ^ (m.log2 + e - (n.log2 + f) - 53 + 52) * (n * 2 ^ f)
      ≤ 2 ^ (m.log2 + e - (n.log2 + f) - 53 + 52) * (2 ^ (n.log2 + 1) * 2 ^ f) := by gcongr
    _ = 2 ^ m.log2 * 2 ^ e := by
      rw [← zpow_natCast, ← zpow_natCast, ← zpow_add₀ two_ne_zero, ← zpow_add₀ two_ne_zero,
        ← zpow_add₀ two_ne_zero]
      congr 1
      push_cast
      ring
    _ ≤ m * 2 ^ e := by gcongr

theorem lands_div {u v : UnpackedFloat} (finite : u.isFinite = true) (finite' : v.isFinite = true)
    (nonzero : unpackedValue v ≠ 0) :
    Lands (UnpackedFloat.div Format.binary64 u v) (unpackedValue u / unpackedValue v) := by
  cases v with
  | notANumber => cases finite'
  | infinity t => cases finite'
  | zero t => exact absurd rfl nonzero
  | finite t n f positive' => cases u with
    | notANumber => cases finite
    | infinity s => cases finite
    | zero s =>
      have quotient : unpackedValue (.zero s) / unpackedValue (.finite t n f positive') = 0 :=
        zero_div _
      rw [quotient]
      exact lands_zero _
    | finite s m e positive =>
      have least := min_le_left (e - f)
        (Format.binary64.targetExponent (totalExponent m e - totalExponent n f))
      have fine := (min_le_right (e - f)
        (Format.binary64.targetExponent (totalExponent m e - totalExponent n f))).trans
          (targetExponent_quotient_le positive positive' e f)
      show Lands (roundWithAccuracy Format.binary64 (s / t) (divCore Format.binary64 m e n f).1
        (divCore Format.binary64 m e n f).2.1 (divCore Format.binary64 m e n f).2.2)
        (signed s (m * 2 ^ e) / signed t (n * 2 ^ f))
      unfold divCore
      dsimp only
      generalize min (e - f)
        (Format.binary64.targetExponent (totalExponent m e - totalExponent n f)) = target at least fine
      obtain ⟨k, steps⟩ := Int.eq_ofNat_of_zero_le (sub_nonneg.mpr least)
      rw [steps, Int.toNat_natCast, Nat.shiftLeft_eq]
      have quotient : ((m * 2 ^ k : ℕ) : ℝ) / n * 2 ^ target = m * 2 ^ e / (n * 2 ^ f) := by
        rw [show e = target + k + f by omega, zpow_add₀ two_ne_zero, zpow_add₀ two_ne_zero,
          zpow_natCast]
        push_cast
        field_simp
      rw [← quotient] at fine
      obtain ⟨canonical, same⟩ := roundWithAccuracy_spec (s / t) (by positivity)
        (locates_quotient (m * 2 ^ k) positive') fine
      rw [← signed_div, ← quotient]
      exact ⟨canonical, isNaN_roundWithAccuracy .., by rw [onGrid_signed]; exact same⟩

/-- **A quotient denotes the nearest double.** -/
theorem denotes_div {x y : Float} (finite : x.isFinite = true) (finite' : y.isFinite = true)
    (nonzero : value y ≠ 0) : Denotes (x / y) (rounded (value x / value y)) :=
  (lands_div finite finite' nonzero).denotes

/-! ### Negation and differences -/

theorem unpackedValue_neg (u : UnpackedFloat) : unpackedValue u.neg = -unpackedValue u := by
  cases u with
  | notANumber => exact neg_zero.symm
  | zero s => exact neg_zero.symm
  | infinity s => exact signed_neg s limit
  | finite s m e positive => exact signed_neg s _

theorem isCanonical_neg {u : UnpackedFloat} (canonical : IsCanonical u) : IsCanonical u.neg := by
  cases u with
  | finite s m e positive => exact canonical
  | _ => trivial

theorem isFinite_neg (u : UnpackedFloat) : u.neg.isFinite = u.isFinite := by
  cases u <;> rfl

theorem value_neg (x : Float) : value (-x) = -value x := by
  show unpackedValue (Float.Model.pack x.toModel.unpack.neg).unpack = -value x
  rw [unpackedValue_pack (isCanonical_neg (isCanonical_unpack x)), unpackedValue_neg]
  exact saturated_of_abs_le ((abs_neg _).trans_le (abs_value_le x))

/-- Subtracting is adding the opposite. -/
theorem sub_eq_add (spec : Format) (u v : UnpackedFloat) :
    UnpackedFloat.sub spec u v = UnpackedFloat.add spec u v.neg := by
  cases u with
  | notANumber => rfl
  | infinity s => cases v <;> rfl
  | zero s => cases v <;> rfl
  | finite s m e positive => cases v with
    | finite t n f positive' =>
      have opposite (k : ℤ) : (-t).apply k = -t.apply k := by
        cases t <;> simp [Sign.apply]
      simp only [UnpackedFloat.sub, UnpackedFloat.add, UnpackedFloat.neg, opposite, sub_eq_add_neg]
    | _ => rfl

/-- **A difference denotes the nearest double.** -/
theorem denotes_sub {x y : Float} (finite : x.isFinite = true) (finite' : y.isFinite = true) :
    Denotes (x - y) (rounded (value x - value y)) := by
  have lands := lands_add finite ((isFinite_neg _).trans finite') (isCanonical_unpack x)
    (isCanonical_neg (isCanonical_unpack y))
  rw [unpackedValue_neg, ← sub_eq_add, ← sub_eq_add_neg] at lands
  exact lands.denotes

/-! ### Integers -/

theorem stretched_value {n : ℕ} (bounded : n < 2 ^ 53) :
    (stretched n : ℝ) * 2 ^ ((n.log2 : ℤ) - 52) = n := by
  have few : n.log2 ≤ 52 := by
    by_cases zero : n = 0
    · simp [zero]
    · exact Nat.lt_succ_iff.mp ((Nat.log2_lt zero).mpr bounded)
  have exponent : (n.log2 : ℤ) - 52 + (52 - n.log2 : ℕ) = 0 := by omega
  unfold stretched
  push_cast
  rw [mul_two_pow_mul_zpow, exponent, zpow_zero, mul_one]

theorem denotes_ofNat_small {n : ℕ} (positive : 0 < n) (small : n < 2 ^ 53) :
    Denotes (Float.ofNat n) (rounded n) := by
  have exact := rounded_of_representable (representable_intCast (n := n) (by
    rw [abs_of_nonneg (Int.natCast_nonneg n)]
    exact_mod_cast small.le))
  rw [Int.cast_natCast] at exact
  refine ⟨isNaN_ofNat n, ?_⟩
  rw [value, unpack_ofNat positive small, exact]
  exact stretched_value small

/-- A large number is converted as a decimal without a fraction, and rounded once. -/
theorem ofNat_large {n : ℕ} (large : 2 ^ 53 ≤ n) :
    Float.ofNat n = Float.ofModel (.pack (roundWithAccuracy Format.binary64 .positive
      (n * 2 ^ 53) (-53) .exact)) := by
  have converted : UnpackedFloat.ofScientific Format.binary64 n 0 =
      roundWithAccuracy Format.binary64 .positive (n * 2 ^ 53) (-53) .exact := by
    have inRange : ¬ (0 : ℤ) < -((2 ^ Format.binary64.exponentBits : ℤ) + n.log2) := by
      show ¬ (0 : ℤ) < -(2 ^ 11 + n.log2)
      omega
    unfold UnpackedFloat.ofScientific
    rw [dif_neg (by omega), if_neg (by decide), if_neg inRange, if_pos le_rfl]
    show roundWithAccuracy Format.binary64 .positive (n <<< 53 * 1) (-53 + 0) .exact = _
    rw [Nat.shiftLeft_eq, mul_one, add_zero]
  rw [← converted]
  show Float.ofScientific n false 0 = _
  unfold Float.ofScientific
  rw [dif_neg (by omega)]
  rfl

theorem denotes_ofNat_large {n : ℕ} (large : 2 ^ 53 ≤ n) :
    Denotes (Float.ofNat n) (rounded n) := by
  have exact : ((n * 2 ^ 53 : ℕ) : ℝ) * 2 ^ (-53 : ℤ) = n := by
    rw [Nat.cast_mul, Nat.cast_pow, Nat.cast_ofNat, mul_two_pow_mul_zpow]
    norm_num
  have fine : -53 ≤ gridExponent (((n * 2 ^ 53 : ℕ) : ℝ) * 2 ^ (-53 : ℤ)) := by
    have whole : (1 : ℝ) ≤ n := by exact_mod_cast (Nat.one_le_two_pow.trans large)
    refine le_gridExponent ?_
    rw [exact, Nat.abs_cast]
    refine le_trans ?_ whole
    norm_num
  obtain ⟨canonical, same⟩ := roundWithAccuracy_spec .positive
    (Nat.cast_pos.mpr (by omega)) (locates_exact (n * 2 ^ 53)) fine
  rw [exact] at same
  rw [ofNat_large large]
  exact denotes_pack canonical (isNaN_roundWithAccuracy ..) same

/-- **The double of a natural number is the nearest one.** -/
theorem denotes_ofNat (n : ℕ) : Denotes (Float.ofNat n) (rounded n) := by
  rcases Nat.eq_zero_or_pos n with rfl | positive
  · rw [Nat.cast_zero, rounded_zero]
    exact ⟨rfl, rfl⟩
  · rcases lt_or_ge n (2 ^ 53) with small | large
    · exact denotes_ofNat_small positive small
    · exact denotes_ofNat_large large

/-- **The double of an integer is the nearest one.** -/
theorem denotes_ofInt (n : ℤ) : Denotes (Float.ofInt n) (rounded n) := by
  cases n with
  | ofNat n =>
    rw [Int.ofNat_eq_natCast, Int.cast_natCast]
    exact denotes_ofNat n
  | negSucc n =>
    obtain ⟨number, same⟩ := denotes_ofNat (n + 1)
    have opposite : ((Int.negSucc n : ℤ) : ℝ) = -((n + 1 : ℕ) : ℝ) := by
      rw [Int.cast_negSucc]
    refine ⟨(isNaN_neg _).trans number, ?_⟩
    rw [opposite, rounded_neg, ← same]
    exact value_neg _

/-- An integer of no more than 53 digits is a double. -/
theorem denotes_ofInt_exact {n : ℤ} (few : |n| ≤ 2 ^ 53) : Denotes (Float.ofInt n) n := by
  have nearest := denotes_ofInt n
  rwa [rounded_of_representable (representable_intCast few)] at nearest

theorem denotes_ofInt32 (n : Int32) : Denotes (Float.ofInt n.toInt) n.toInt := by
  have low := n.le_toInt
  have high := n.toInt_lt
  exact denotes_ofInt_exact (abs_le.mpr ⟨by omega, by omega⟩)

theorem denotes_toFloat (word : UInt64) : Denotes word.toFloat (rounded word.toNat) := by
  obtain ⟨canonical, same⟩ := normalize_spec word.toNat 0 .positive
  rw [zpow_zero, mul_one, Int.cast_natCast] at same
  exact denotes_pack canonical (isNaN_normalize ..) same

/-! ### The ceiling -/

/-- The conversion to an integer cuts off the digits behind the point. -/
theorem roundToInt_eq (s : Sign) (m : ℕ) (e : ℤ) :
    roundToInt s m e = s.apply ⌊(m : ℝ) * 2 ^ e⌋ := by
  rcases le_total 0 e with whole | fraction
  · obtain ⟨k, rfl⟩ := Int.eq_ofNat_of_zero_le whole
    have value : (m : ℝ) * 2 ^ (k : ℤ) = (m * 2 ^ k : ℕ) := by
      rw [zpow_natCast]
      push_cast
      rfl
    have unshifted : roundToInt s m k = s.apply (m <<< k : ℕ) := by
      unfold roundToInt decreaseExponent shiftToExponent
      simp only [sub_zero, Int.toNat_natCast, sub_self, Int.toNat_zero]
      rfl
    rw [unshifted, value, Int.floor_natCast, Nat.shiftLeft_eq]
  · obtain ⟨k, same⟩ := Int.eq_ofNat_of_zero_le (neg_nonneg.mpr fraction)
    obtain rfl : e = -k := by omega
    have value : (m : ℝ) * 2 ^ (-(k : ℤ)) = (m : ℝ) / (2 ^ k : ℕ) := by
      rw [zpow_neg, zpow_natCast, ← div_eq_mul_inv]
      push_cast
      rfl
    have shifted : roundToInt s m (-k) =
        s.apply (ExtendedMantissa.mk m false false >>> k).mantissa := by
      have still : (-(k : ℤ)).toNat = 0 := by omega
      have amount : (0 - -(k : ℤ)).toNat = k := by omega
      unfold roundToInt decreaseExponent shiftToExponent
      simp only [sub_zero, still, Nat.cast_zero, amount, Nat.shiftLeft_zero]
      rfl
    rw [shifted, value, shift_mantissa, Int.floor_div_natCast, Int.floor_natCast]
    norm_cast

theorem toNat_ofNatClamp (n : ℕ) : (UInt64.ofNatClamp n).toNat = min n maxWord := by
  have most : maxWord = UInt64.size - 1 := rfl
  have some : 0 < UInt64.size := by decide
  unfold UInt64.ofNatClamp
  split
  · show n = min n maxWord
    omega
  · show UInt64.size - 1 = min n maxWord
    omega

theorem toNat_toUInt64 (x : Float) : x.toUInt64.toNat = min ⌊value x⌋₊ maxWord := by
  have nothing : (UInt64.ofNatClamp 0).toNat = min 0 maxWord := rfl
  show x.toModel.unpack.toUInt64.toNat = min ⌊unpackedValue x.toModel.unpack⌋₊ maxWord
  cases x.toModel.unpack with
  | notANumber =>
    show (UInt64.ofNatClamp 0).toNat = min ⌊(0 : ℝ)⌋₊ maxWord
    rw [nothing, Nat.floor_zero]
  | zero s =>
    show (UInt64.ofNatClamp 0).toNat = min ⌊(0 : ℝ)⌋₊ maxWord
    rw [nothing, Nat.floor_zero]
  | infinity s => cases s with
    | negative =>
      show (UInt64.ofNatClamp 0).toNat = min ⌊-limit⌋₊ maxWord
      rw [nothing, Nat.floor_of_nonpos (neg_nonpos.mpr limit_pos.le)]
    | positive =>
      have beyond : maxWord ≤ ⌊limit⌋₊ := by
        refine Nat.le_floor ?_
        calc (maxWord : ℝ) ≤ 2 ^ (64 : ℤ) := by norm_num [maxWord, UInt64.size]
          _ ≤ limit := two_zpow_le_limit (by norm_num)
      show (UInt64.ofNatClamp maxWord).toNat = min ⌊limit⌋₊ maxWord
      rw [toNat_ofNatClamp, min_eq_right beyond, min_self]
  | finite s m e positive =>
    have magnitude : (0 : ℝ) ≤ m * 2 ^ e := by positivity
    show (UInt64.ofNatClamp (roundToInt s m e).toNat).toNat = min ⌊signed s (m * 2 ^ e)⌋₊ maxWord
    rw [toNat_ofNatClamp, roundToInt_eq]
    cases s with
    | negative =>
      have low : (-⌊(m : ℝ) * 2 ^ e⌋).toNat = 0 :=
        Int.toNat_of_nonpos (neg_nonpos.mpr (Int.floor_nonneg.mpr magnitude))
      have low' : ⌊-((m : ℝ) * 2 ^ e)⌋₊ = 0 := Nat.floor_of_nonpos (neg_nonpos.mpr magnitude)
      exact congrArg (min · maxWord) (low.trans low'.symm)
    | positive => exact congrArg (min · maxWord) (Int.floor_toNat _)

/-- A number that is not whole has few digits, so the whole number below it is a double. -/
theorem rounded_floor {x : Float} (short : (⌊value x⌋₊ : ℝ) < value x) :
    rounded (⌊value x⌋₊ : ℕ) = ⌊value x⌋₊ := by
  have positive : 0 < value x := (Nat.cast_nonneg _).trans_lt short
  have broken (k : ℤ) : value x ≠ k := by
    intro same
    have above : (0 : ℝ) < k := same ▸ positive
    obtain ⟨j, rfl⟩ := Int.eq_ofNat_of_zero_le (a := k) (by exact_mod_cast above.le)
    rw [same, Int.cast_natCast, Nat.floor_natCast] at short
    exact lt_irrefl _ short
  have few := (representable_value x).abs_lt_of_not_whole broken
  rw [abs_of_pos positive] at few
  have small : (⌊value x⌋₊ : ℝ) < 2 ^ 53 := short.trans few
  have small' : |((⌊value x⌋₊ : ℕ) : ℤ)| ≤ 2 ^ 53 := by
    rw [abs_of_nonneg (Int.natCast_nonneg _)]
    exact_mod_cast small.le
  exact_mod_cast rounded_of_representable (representable_intCast small')

/-- Whether something was cut off shows in the double of the word. -/
theorem ceilWord_def (x : Float) : ceilWord x =
    if rounded x.toUInt64.toNat < value x then min (x.toUInt64.toNat + 1) maxWord
    else x.toUInt64.toNat := by
  obtain ⟨number, back⟩ := denotes_toFloat x.toUInt64
  have less : x.toUInt64.toFloat < x ↔ rounded x.toUInt64.toNat < value x := by
    rw [lt_iff_value, back]
    refine ⟨And.right, fun above => ⟨⟨number, ?_⟩, above⟩⟩
    -- what is not a number counts as zero, and nothing rounds to less than that
    refine Bool.eq_false_iff.mpr fun special => ?_
    rw [value_of_isNaN special] at above
    exact not_lt.mpr (rounded_nonneg (Nat.cast_nonneg _)) above
  unfold ceilWord
  simp only [less]

/-- **The ceiling is that of the value**, cut off at the largest word. -/
theorem ceilWord_eq (x : Float) : ceilWord x = min ⌈value x⌉₊ maxWord := by
  have whole := toNat_toUInt64 x
  have floor_le : ⌊value x⌋₊ ≤ ⌈value x⌉₊ := Nat.floor_le_ceil _
  rw [ceilWord_def]
  rcases le_or_gt maxWord ⌊value x⌋₊ with beyond | inside
  · rw [whole, min_eq_right beyond, min_eq_right (beyond.trans floor_le),
      min_eq_right (Nat.le_succ maxWord), ite_self]
  · rw [whole, min_eq_left inside.le]
    rcases le_or_gt (value x) ⌊value x⌋₊ with reached | short
    · have notLess : ¬ rounded ⌊value x⌋₊ < value x := by
        rw [not_lt]
        exact (rounded_value x).symm.trans_le (rounded_mono reached)
      have same : ⌈value x⌉₊ = ⌊value x⌋₊ := le_antisymm (Nat.ceil_le.mpr reached) floor_le
      rw [if_neg notLess, same]
      exact (min_eq_left inside.le).symm
    · have next : ⌈value x⌉₊ = ⌊value x⌋₊ + 1 :=
        le_antisymm (Nat.ceil_le_floor_add_one _) (Nat.lt_ceil.mpr short)
      rw [rounded_floor short, if_pos short, next]

end PointerForecast.Double
