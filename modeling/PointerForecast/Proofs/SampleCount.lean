/-
**No rounding error in the number of samples.**

A target and a rate are whole numbers of milliseconds below `2 ^ 31`. Where their quotient is above a
whole number, it is so by at least the inverse of the rate. The double of the quotient cannot fall onto
that number or below it: between the two there is a number of few digits, the whole number and the
inverse of the power of two next to the rate, and rounding passes no such number. So the ceiling of the
double is that of the quotient, and wherever a number of samples is computed from a target and a rate,
none is missing and none is added.

* `Double.exists_representable`: the number of few digits below a quotient.
* `Double.ceil_rounded_div`: **the ceiling of a rounded quotient.**
* `samplesUntil`: how many samples a target takes; `ceilNat_div_eq`, `horizon_eq`: **what is computed
  in doubles.**
* `Session.expected?_of_rate`, `Session.steps_linear`: the samples of a session.
* `samples_areExact`: **all of them, after any run.**
-/

import Mathlib.Algebra.Order.Floor.Div
import PointerForecast.Proofs.Configuration
import PointerForecast.Proofs.HorizonOrder

namespace PointerForecast

/-! ### Rounded quotients -/

namespace Double

/-- A whole number and the inverse of a power of two are a number of few digits, if there are few steps
of that size up to it. -/
theorem representable_add_inv {m k : ℕ} (few : m * 2 ^ k + 1 ≤ 2 ^ 53) (coarse : k ≤ 1074) :
    Representable (m + (2 ^ k)⁻¹) := by
  have point : ((m * 2 ^ k + 1 : ℕ) : ℝ) * 2 ^ (-k : ℤ) = m + (2 ^ k)⁻¹ := by
    rw [zpow_neg, zpow_natCast]
    push_cast
    rw [add_mul, one_mul, mul_inv_cancel_right₀ (by positivity)]
  refine ⟨?_, (m * 2 ^ k + 1 : ℕ), -k, ?_, by omega, ?_⟩
  · have nonneg : (0 : ℝ) ≤ m + (2 ^ k)⁻¹ := by positivity
    have whole : m + 1 ≤ 2 ^ 53 :=
      (Nat.add_le_add_right (Nat.le_mul_of_pos_right m (Nat.two_pow_pos k)) 1).trans few
    rw [abs_of_nonneg nonneg]
    calc (m : ℝ) + (2 ^ k)⁻¹ ≤ m + 1 :=
          add_le_add_right (inv_le_one_of_one_le₀ (one_le_pow₀ one_le_two)) _
      _ ≤ 2 ^ (53 : ℤ) := by exact_mod_cast whole
      _ ≤ limit := two_zpow_le_limit (by norm_num)
  · rw [abs_of_nonneg (Int.natCast_nonneg _)]
    exact_mod_cast few
  · rw [Int.cast_natCast, point]

/-- **Below a quotient and above a whole number there is a number of few digits**, if the dividend and
the divisor have few. -/
theorem exists_representable {m t r : ℕ} (positive : 0 < r) (small : r < 2 ^ 31) (few : t < 2 ^ 31)
    (above : m * r < t) : ∃ v, Representable v ∧ (m : ℝ) < v ∧ v * r ≤ t := by
  -- the power of two next to the divisor
  obtain ⟨k, wide, narrow⟩ : ∃ k, r ≤ 2 ^ k ∧ 2 ^ k ≤ 2 * r := by
    refine ⟨Nat.log 2 r + 1, (Nat.lt_pow_succ_log_self one_lt_two r).le, ?_⟩
    rw [pow_succ, mul_comm]
    exact Nat.mul_le_mul_left 2 (Nat.pow_log_le_self 2 positive.ne')
  have coarse : k ≤ 1074 := by
    by_contra fine
    have := Nat.pow_le_pow_right two_pos (Nat.le_of_lt (not_le.mp fine))
    omega
  have steps : m * 2 ^ k + 1 ≤ 2 ^ 53 := by
    calc m * 2 ^ k + 1 ≤ m * (2 * r) + 1 := Nat.add_le_add_right (Nat.mul_le_mul_left m narrow) 1
      _ = 2 * (m * r) + 1 := by ring
      _ ≤ 2 ^ 53 := by omega
  have short : (2 ^ k : ℝ)⁻¹ * r ≤ 1 :=
    inv_mul_le_one_of_le₀ (by exact_mod_cast wide) (by positivity)
  refine ⟨m + (2 ^ k)⁻¹, representable_add_inv steps coarse,
    lt_add_of_pos_right _ (by positivity), ?_⟩
  calc (m + (2 ^ k)⁻¹) * (r : ℝ) = m * r + (2 ^ k)⁻¹ * r := add_mul _ _ _
    _ ≤ m * r + 1 := add_le_add_right short _
    _ ≤ t := by exact_mod_cast above

/-- The ceiling of a quotient of natural numbers is their quotient rounded up. -/
theorem ceil_div (t : ℕ) {r : ℕ} (positive : 0 < r) : ⌈(t / r : ℚ)⌉₊ = (t + r - 1) / r := by
  have divisor : (0 : ℚ) < r := by exact_mod_cast positive
  rw [← Nat.ceilDiv_eq_add_pred_div]
  refine eq_of_forall_ge_iff fun n => ?_
  rw [Nat.ceil_le, div_le_iff₀ divisor, ceilDiv_le_iff_le_mul positive, mul_comm]
  norm_cast

/-- **Rounding a quotient does not change its ceiling.** -/
theorem ceil_rounded_div {t r : ℕ} (few : t < 2 ^ 31) (positive : 0 < r) (small : r < 2 ^ 31) :
    ⌈rounded (t / r : ℚ)⌉₊ = (t + r - 1) / r := by
  rw [← ceil_div t positive]
  have divisor : (0 : ℚ) < r := by exact_mod_cast positive
  apply le_antisymm
  · -- the ceiling has few digits, so rounding does not pass it from below
    have whole : ⌈(t / r : ℚ)⌉₊ ≤ t :=
      Nat.ceil_le.mpr (div_le_self (Nat.cast_nonneg t) (by exact_mod_cast positive))
    have representable : Representable (⌈(t / r : ℚ)⌉₊ : ℕ) := by
      have digits : |(⌈(t / r : ℚ)⌉₊ : ℤ)| ≤ 2 ^ 53 := by
        rw [abs_of_nonneg (Int.natCast_nonneg _)]
        omega
      simpa using representable_intCast digits
    have below : ((t / r : ℚ) : ℝ) ≤ (⌈(t / r : ℚ)⌉₊ : ℕ) := by
      exact_mod_cast Nat.le_ceil (t / r : ℚ)
    exact Nat.ceil_le.mpr (rounded_le representable below)
  · cases reached : ⌈(t / r : ℚ)⌉₊ with
    | zero => exact Nat.zero_le _
    | succ m =>
      -- neither does it pass the number below the quotient from above
      have above : (m : ℚ) < t / r := Nat.lt_ceil.mp (by omega)
      rw [lt_div_iff₀ divisor] at above
      obtain ⟨v, representable, low, high⟩ :=
        exists_representable positive small few (by exact_mod_cast above)
      have product : ((t / r : ℚ) : ℝ) * r = t := by
        exact_mod_cast div_mul_cancel₀ (t : ℚ) divisor.ne'
      have below : v ≤ ((t / r : ℚ) : ℝ) := by
        rw [← product] at high
        exact le_of_mul_le_mul_right high (by exact_mod_cast positive)
      have kept : v ≤ rounded (t / r : ℚ) :=
        (rounded_of_representable representable).symm.trans_le (rounded_mono below)
      exact Nat.lt_ceil.mpr (low.trans_le kept)

/-- **A quotient of whole numbers in doubles** is their quotient rounded. -/
theorem denotes_ofInt_div {m n : ℤ} (few : |m| < 2 ^ 53) (few' : |n| < 2 ^ 53) (nonzero : n ≠ 0) :
    Denotes ((m : Float) / (n : Float)) (rounded (m / n : ℚ)) := by
  have exact {k : ℤ} (few : |k| < 2 ^ 53) :
      (Float.ofInt k).isFinite = true ∧ value (Float.ofInt k) = k := by
    obtain ⟨number, same⟩ := denotes_ofInt_exact few.le
    have below : |(k : ℝ)| < 2 ^ (53 : ℤ) := by exact_mod_cast few
    rw [isFinite_iff, same]
    exact ⟨⟨number, below.trans_le (two_zpow_le_limit (by norm_num))⟩, rfl⟩
  obtain ⟨finite, dividend⟩ := exact few
  obtain ⟨finite', divisor⟩ := exact few'
  have nonzero' : value (Float.ofInt n) ≠ 0 := by
    rw [divisor]
    exact_mod_cast nonzero
  have quotient := denotes_div finite finite' nonzero'
  rw [dividend, divisor] at quotient
  rw [Rat.cast_div, Rat.cast_intCast, Rat.cast_intCast]
  exact quotient

end Double

open Double

/-! ### A target and a rate -/

/-- How many samples at a rate a target takes; a negative target counts as zero. -/
def samplesUntil (target rate : Int32) : ℕ :=
  (target.toInt.toNat + rate.toInt.toNat - 1) / rate.toInt.toNat

theorem samplesUntil_targetInForce (target rate : Int32) :
    samplesUntil (targetInForce target) rate = samplesUntil target rate := by
  unfold samplesUntil
  have same : (max 0 target.toInt).toNat = target.toInt.toNat := by omega
  rw [toInt_targetInForce, same]

section Rate

variable {rate : Int32}

theorem toInt_pos (positive : 0 < rate) : 0 < rate.toInt := by
  simpa using Int32.lt_iff_toInt_lt.mp positive

theorem denotes_target_div_rate (target : Int32) (positive : 0 < rate) :
    Denotes ((target.toInt : Float) / (rate.toInt : Float))
      (rounded (target.toInt / rate.toInt : ℚ)) := by
  have few (n : Int32) : |n.toInt| < 2 ^ 53 := by
    have low := n.le_toInt
    have high := n.toInt_lt
    exact abs_lt.mpr ⟨by omega, by omega⟩
  exact denotes_ofInt_div (few target) (few rate) (toInt_pos positive).ne'

/-- **A quotient of doubles is rounded up to the samples that the target takes.** -/
theorem ceilNat_div_eq (target : Int32) (positive : 0 < rate) :
    Scalar.ceilNat ((target.toInt : Float) / (rate.toInt : Float)) = samplesUntil target rate := by
  have quotient := (denotes_target_div_rate target positive).2
  obtain ⟨r, divisor⟩ := Int.eq_ofNat_of_zero_le (toInt_pos positive).le
  have positive' : 0 < r := by
    have := toInt_pos positive
    omega
  have small := rate.toInt_lt
  have few := target.toInt_lt
  show ceilWord _ = _
  rw [ceilWord_eq, quotient, samplesUntil, divisor, Int.toNat_natCast, Int.cast_natCast]
  rcases le_total target.toInt 0 with negative | nonneg
  · -- not above zero, the quotient is not rounded to a number above zero either
    have below : (target.toInt / r : ℚ) ≤ 0 :=
      div_nonpos_of_nonpos_of_nonneg (by exact_mod_cast negative) (Nat.cast_nonneg r)
    have none : rounded (target.toInt / r : ℚ) ≤ 0 :=
      (rounded_mono (by exact_mod_cast below)).trans_eq rounded_zero
    rw [Nat.ceil_eq_zero.mpr none, Nat.zero_min, Int.toNat_of_nonpos negative, Nat.zero_add,
      Nat.div_eq_of_lt (Nat.sub_lt positive' one_pos)]
  · obtain ⟨t, dividend⟩ := Int.eq_ofNat_of_zero_le nonneg
    rw [dividend, Int.toNat_natCast, Int.cast_natCast,
      ceil_rounded_div (by omega) positive' (by omega)]
    -- so few samples are far from the largest number of them that a word holds
    have most : (t + r - 1) / r ≤ maxWord := by
      have word : maxWord = 18446744073709551615 := rfl
      have := Nat.div_le_self (t + r - 1) r
      omega
    exact Nat.min_eq_left most

/-- Full confidence asks for the samples that the target takes. -/
theorem horizon_eq (target : Int32) (positive : 0 < rate) :
    horizon (target.toInt : Float) (rate.toInt : Float) 1 = samplesUntil target rate := by
  have number := (denotes_target_div_rate target positive).1
  rw [← ceilNat_div_eq target positive]
  show ceilWord (_ * 1) = ceilWord _
  rw [ceilWord_eq, ceilWord_eq, value_mul_one number]

end Rate

/-! ### Sessions -/

namespace Session

variable {M : Type} {rate : Int32}

theorem expected?_of_rate (session : Session Float M) (positive : 0 < rate)
    (given : session.setup.rate? = some (rate.toInt : Float)) :
    session.expected? = some (samplesUntil session.target rate) := by
  rw [expected?_of_given given]
  exact congrArg some (ceilNat_div_eq session.target positive)

/-- **The steps of an extrapolation** at an explicit rate: none where it predicts nothing, else all that
the target takes. -/
theorem steps_linear (tuning : LinearTuning Float) (session : Session Float (Motion Float))
    (positive : 0 < rate) (given : session.setup.rate? = some (rate.toInt : Float)) :
    session.steps (linear tuning) =
      if session.memory.history.isEmpty || session.memory.speed < tuning.minSpeed then 0
      else samplesUntil session.target rate := by
  have settled : session.rate = .overridden (rate.toInt : Float) :=
    ReportRate.given?_eq_some.mp given
  have samples : Scalar.ceilNat (session.targetTime / session.rate.milliseconds) =
      samplesUntil session.target rate := by
    rw [settled]
    exact ceilNat_div_eq session.target positive
  unfold steps
  rw [session.expected?_of_rate positive given]
  show Nat.min (if _ then 0 else Scalar.ceilNat (session.targetTime / session.rate.milliseconds)) _ =
    _
  rw [samples]
  split
  · exact Nat.zero_min _
  · exact Nat.min_self _

end Session

/-! ### All numbers of samples -/

/-- **No rounding error in a number of samples.** Rounding the quotient of two natural numbers below
`2 ^ 31` to the nearest double does not change its ceiling, which is their quotient rounded up. So for
any target and any rate that is not refused,

* the horizon of full confidence is the number of samples that the target takes;
* after any commands whose last target and rate they are, a session with any strategy expects that
  number;
* and the extrapolation walks as many steps, where it predicts anything. -/
theorem samples_areExact :
    (∀ t r : ℕ, t ≤ 2 ^ 31 - 1 → 1 ≤ r → r ≤ 2 ^ 31 - 1 →
      Denotes ((t : ℤ) / (r : ℤ) : Float) (rounded (t / r : ℚ)) ∧
        ⌈rounded (t / r : ℚ)⌉₊ = (t + r - 1) / r ∧ ⌈(t / r : ℚ)⌉₊ = (t + r - 1) / r) ∧
    ∀ target rate : Int32, 0 < rate →
      horizon (target.toInt : Float) (rate.toInt : Float) 1 = samplesUntil target rate ∧
      ∀ commands : List (Command Float), (latest? Command.target? commands).getD 0 = target →
        latest? Command.rate? commands = some rate →
        (∀ (M : Type) (strategy : Strategy Float M),
          (stateAfter (Session.apply strategy) (Session.start strategy) commands).expected? =
            some (samplesUntil target rate)) ∧
        ∀ tuning : LinearTuning Float,
          let session := stateAfter (Session.apply (linear tuning)) (Session.start (linear tuning))
            commands
          session.steps (linear tuning) =
            if session.memory.history.isEmpty || session.memory.speed < tuning.minSpeed then 0
            else samplesUntil target rate := by
  refine ⟨?_, fun target rate positive => ⟨horizon_eq target positive, ?_⟩⟩
  · intro t r few positive few'
    have small {n : ℕ} (few : n ≤ 2 ^ 31 - 1) : |(n : ℤ)| < 2 ^ 53 := by
      rw [abs_of_nonneg (Int.natCast_nonneg n)]
      omega
    have quotient := denotes_ofInt_div (small few) (small few') (by omega)
    rw [Int.cast_natCast, Int.cast_natCast] at quotient
    exact ⟨quotient, ceil_rounded_div (by omega) positive (by omega), ceil_div t positive⟩
  · intro commands lastTarget lastRate
    have configured {M : Type} (strategy : Strategy Float M) :
        let session := stateAfter (Session.apply strategy) (Session.start strategy) commands
        session.target = targetInForce target ∧
          session.setup.rate? = some (rate.toInt : Float) := by
      have configuration := Session.configuration_stateAfter_start strategy commands
      rw [lastTarget, lastRate] at configuration
      exact ⟨congrArg Configuration.target configuration,
        congrArg Configuration.rate? configuration⟩
    refine ⟨fun M strategy => ?_, fun tuning => ?_⟩
    · obtain ⟨inForce, given⟩ := configured strategy
      rw [Session.expected?_of_rate _ positive given, inForce, samplesUntil_targetInForce]
    · obtain ⟨inForce, given⟩ := configured (linear tuning)
      intro session
      rw [Session.steps_linear tuning _ positive given, inForce, samplesUntil_targetInForce]

/-- The quotient of the two largest numbers, just above one, takes two samples, however close its double
is to one. So does a session whose target and rate they are, and a pointer that moves is walked on for
both of them. -/
theorem samples_areExact_largest :
    let rate : Int32 := 2147483646
    let target : Int32 := 2147483647
    let stroke : List (Batch Float) := [⟨0, [⟨0, 0, 1⟩]⟩, ⟨8, [⟨8, 4, 1⟩]⟩]
    let commands : List (Command Float) :=
      [.setTarget target, .observe ⟨.down, [0], stroke⟩, .setRate rate]
    ⌈rounded ((2147483647 : ℕ) / (2147483646 : ℕ) : ℚ)⌉₊ = 2 ∧
      horizon (target.toInt : Float) (rate.toInt : Float) 1 = 2 ∧
      (stateAfter (Session.apply (kalman .ink)) (Session.start (kalman .ink)) commands).expected? =
        some 2 ∧
      (stateAfter (Session.apply (linear .usual)) (Session.start (linear .usual)) commands).steps
        (linear .usual) = 2 := by
  intro rate target stroke commands
  obtain ⟨quotients, sessions⟩ := samples_areExact
  obtain ⟨full, given⟩ := sessions target rate (by decide)
  obtain ⟨expected, steps⟩ := given commands rfl rfl
  have two : samplesUntil target rate = 2 := by decide
  refine ⟨?_, full.trans two, (expected _ (kalman .ink)).trans (congrArg some two), ?_⟩
  · exact (quotients 2147483647 2147483646 (by decide) (by decide) (by decide)).2.1
  · exact ((steps .usual).trans (if_neg (by decide +kernel))).trans two

end PointerForecast
