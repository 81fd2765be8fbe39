/-
**Dense matrices of a fixed size.**

A matrix holds its entries, and is read through the view `A i j`. Every operation says what the
entries of its result are, in a lemma of its own; each follows from `ofFn_apply`.

An entry of a product adds its terms from left to right, all of them: a term with a zero factor
counts too, since zero times infinity is not zero.
-/

import PointerForecast.Scalar

namespace PointerForecast

/-- A matrix with `m` rows and `n` columns. -/
structure Mat (α : Type) (m n : Nat) where
  /-- The rows, from the top, each from the left. -/
  rows : Vector (Vector α n) m
deriving DecidableEq

namespace Mat

variable {α : Type} {k m n : Nat}

/-- The entry in row `i` and column `j`. -/
def entry (A : Mat α m n) (i : Fin m) (j : Fin n) : α := A.rows[i][j]

instance : CoeFun (Mat α m n) fun _ => Fin m → Fin n → α := ⟨entry⟩

/-- The matrix with the given entries. -/
def ofFn (f : Fin m → Fin n → α) : Mat α m n := ⟨.ofFn fun i => .ofFn (f i)⟩

@[simp]
theorem ofFn_apply (f : Fin m → Fin n → α) (i : Fin m) (j : Fin n) : ofFn f i j = f i j := by
  simp [ofFn, entry]

/-- Matrices with the same entries are equal. -/
@[ext]
theorem ext {A B : Mat α m n} (entries : ∀ i j, A i j = B i j) : A = B := by
  cases A with | mk rowsA =>
  cases B with | mk rowsB =>
  congr
  refine Vector.ext fun i hi => Vector.ext fun j hj => ?_
  exact entries ⟨i, hi⟩ ⟨j, hj⟩

/-- Rows become columns. -/
def transpose (A : Mat α m n) : Mat α n m := ofFn fun i j => A j i

@[simp]
theorem transpose_apply (A : Mat α m n) (i : Fin n) (j : Fin m) : A.transpose i j = A j i :=
  ofFn_apply ..

variable [Scalar α]

instance : Zero (Mat α m n) := ⟨ofFn fun _ _ => 0⟩
instance : One (Mat α n n) := ⟨ofFn fun i j => if i = j then 1 else 0⟩
instance : Add (Mat α m n) := ⟨fun A B => ofFn fun i j => A i j + B i j⟩
instance : Sub (Mat α m n) := ⟨fun A B => ofFn fun i j => A i j - B i j⟩
instance : HMul (Mat α m n) α (Mat α m n) := ⟨fun A s => ofFn fun i j => A i j * s⟩
instance : HDiv (Mat α m n) α (Mat α m n) := ⟨fun A s => ofFn fun i j => A i j / s⟩
instance : HMul (Mat α m k) (Mat α k n) (Mat α m n) :=
  ⟨fun A B => ofFn fun i j => Scalar.sum (List.ofFn fun l => A i l * B l j)⟩

@[simp]
theorem zero_apply (i : Fin m) (j : Fin n) : (0 : Mat α m n) i j = 0 := ofFn_apply ..

@[simp]
theorem one_apply (i j : Fin n) : (1 : Mat α n n) i j = if i = j then 1 else 0 := ofFn_apply ..

@[simp]
theorem add_apply (A B : Mat α m n) (i : Fin m) (j : Fin n) : (A + B) i j = A i j + B i j :=
  ofFn_apply ..

@[simp]
theorem sub_apply (A B : Mat α m n) (i : Fin m) (j : Fin n) : (A - B) i j = A i j - B i j :=
  ofFn_apply ..

@[simp]
theorem scale_apply (A : Mat α m n) (s : α) (i : Fin m) (j : Fin n) : (A * s) i j = A i j * s :=
  ofFn_apply ..

@[simp]
theorem div_apply (A : Mat α m n) (s : α) (i : Fin m) (j : Fin n) : (A / s) i j = A i j / s :=
  ofFn_apply ..

theorem mul_apply (A : Mat α m k) (B : Mat α k n) (i : Fin m) (j : Fin n) :
    (A * B) i j = Scalar.sum (List.ofFn fun l => A i l * B l j) :=
  ofFn_apply ..

end Mat

end PointerForecast
