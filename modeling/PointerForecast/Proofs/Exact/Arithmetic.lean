/-
**Exact arithmetic.**

The real numbers as scalars: every operation is that of the field, and a rounding to single precision
changes nothing. Read over them, a matrix of a filter is a matrix of linear algebra.

* `Scalar.sum_eq`: a sum from left to right is the sum.
* `Mat.toMatrix`: **the matrix of linear algebra**, which every operation respects.
-/

import Mathlib.Analysis.SpecialFunctions.Pow.Real
import Mathlib.Data.Matrix.Mul
import Mathlib.LinearAlgebra.Matrix.PosDef
import PointerForecast.Mat
import PointerForecast.Scalar.Double

namespace PointerForecast

noncomputable section

open Classical in
instance : Scalar ℝ where
  beq a b := decide (a = b)
  decideLT := inferInstance
  sqrt := Real.sqrt
  isNaN _ := false
  isFinite _ := true
  ceilNat a := Nat.min ⌈a⌉₊ maxWord
  single a := a

namespace Scalar

theorem sum_eq (terms : List ℝ) : sum terms = terms.sum := by
  cases terms with
  | nil => rfl
  | cons first rest =>
    show rest.foldl (· + ·) first = (first :: rest).sum
    induction rest generalizing first with
    | nil => rw [List.foldl_nil, List.sum_singleton]
    | cons second rest ih =>
      rw [List.foldl_cons, ih, List.sum_cons, List.sum_cons, List.sum_cons, add_assoc]

theorem sum_ofFn {n : ℕ} (f : Fin n → ℝ) : sum (List.ofFn f) = ∑ i, f i := by
  rw [sum_eq, List.sum_ofFn]

/-- Every real number is a number, so the smaller of two is the least of them. -/
theorem min_eq (a b : ℝ) : min a b = a ⊓ b := by
  have less : (isNaN a || decide (b < a)) = true ↔ b < a := decide_eq_true_iff
  unfold min
  rw [inf_comm, min_def_lt]
  exact if_congr less rfl rfl

end Scalar

namespace Mat

variable {k m n : ℕ}

/-- The matrix of linear algebra with the same entries. -/
def toMatrix (A : Mat ℝ m n) : Matrix (Fin m) (Fin n) ℝ := .of fun i j => A i j

@[simp]
theorem toMatrix_apply (A : Mat ℝ m n) (i : Fin m) (j : Fin n) : A.toMatrix i j = A i j := rfl

@[simp]
theorem toMatrix_one : (1 : Mat ℝ n n).toMatrix = 1 := by
  ext i j
  rw [toMatrix_apply, one_apply, Matrix.one_apply]

@[simp]
theorem toMatrix_add (A B : Mat ℝ m n) : (A + B).toMatrix = A.toMatrix + B.toMatrix := by
  ext i j
  rw [toMatrix_apply, add_apply, Matrix.add_apply]
  rfl

@[simp]
theorem toMatrix_sub (A B : Mat ℝ m n) : (A - B).toMatrix = A.toMatrix - B.toMatrix := by
  ext i j
  rw [toMatrix_apply, sub_apply, Matrix.sub_apply]
  rfl

@[simp]
theorem toMatrix_scale (A : Mat ℝ m n) (s : ℝ) : (A * s).toMatrix = s • A.toMatrix := by
  ext i j
  rw [toMatrix_apply, scale_apply, Matrix.smul_apply, smul_eq_mul, mul_comm]
  rfl

@[simp]
theorem toMatrix_div (A : Mat ℝ m n) (s : ℝ) : (A / s).toMatrix = s⁻¹ • A.toMatrix := by
  ext i j
  rw [toMatrix_apply, div_apply, Matrix.smul_apply, smul_eq_mul, mul_comm]
  exact div_eq_mul_inv _ _

@[simp]
theorem toMatrix_mul (A : Mat ℝ m k) (B : Mat ℝ k n) :
    (A * B).toMatrix = A.toMatrix * B.toMatrix := by
  ext i j
  rw [toMatrix_apply, mul_apply, Scalar.sum_ofFn, Matrix.mul_apply]
  rfl

@[simp]
theorem toMatrix_transpose (A : Mat ℝ m n) : A.transpose.toMatrix = A.toMatrix.transpose := by
  ext i j
  exact transpose_apply A i j

end Mat

end

end PointerForecast
