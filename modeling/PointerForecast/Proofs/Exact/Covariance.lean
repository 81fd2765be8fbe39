/-
**The covariance of a filter stays positive definite.**

In exact arithmetic, a model with an invertible transition, a process noise that is positive
semidefinite and a positive measurement noise keeps every covariance symmetric and positive
definite. Both models of an estimator are such, unless the measurement noise is zero.

* A sample of the model maps the covariance to `F P Fᵀ + Q` (`Channel.posDef_propagate`).
* A correction adds the information of the measurement: with the observation row `H`, the corrected
  covariance is the inverse of `P⁻¹ + r⁻¹ Hᵀ H` (`Channel.correct_mul_information`).
* `Channel.corrects`: **what a correction does** to a channel with such a covariance. Its division is
  defined, and the corrected state lies between the propagated one and the measurement.
* `Channel.staysDefinite`: **the invariant of all runs**, from one move (`Channel.posDef_after`).
* `Estimator.filters_stayDefinite`: both models.
-/

import Mathlib.Algebra.Order.Star.Real
import Mathlib.Analysis.Convex.Segment
import Mathlib.LinearAlgebra.Matrix.Block
import Mathlib.LinearAlgebra.Matrix.NonsingularInverse
import PointerForecast.Proofs.Exact.Arithmetic
import PointerForecast.Estimator

namespace PointerForecast

variable {n : ℕ}

/-- A model that never makes a covariance degenerate. -/
structure ChannelModel.Regular (model : ChannelModel ℝ n) : Prop where
  /-- No direction of the states is lost in one sample. -/
  transition : IsUnit model.transition.toMatrix
  /-- The noise of a sample is a covariance. -/
  processNoise : model.processNoise.toMatrix.PosSemidef
  /-- No measurement is exact. -/
  measurementNoise : 0 < model.measurementNoise

namespace Channel

/-! ### What is observed -/

theorem observation_mul {m : ℕ} (A : Mat ℝ (n + 1) m) (j : Fin m) :
    ((observation : Mat ℝ 1 (n + 1)) * A) 0 j = A 0 j := by
  rw [Mat.mul_apply, Scalar.sum_ofFn, Fin.sum_univ_succ]
  simp [observation]

theorem mul_observation {m : ℕ} (A : Mat ℝ m (n + 1)) (i : Fin m) :
    (A * (observation : Mat ℝ 1 (n + 1)).transpose) i 0 = A i 0 := by
  rw [Mat.mul_apply, Scalar.sum_ofFn, Fin.sum_univ_succ]
  simp [observation]

theorem observation_mul_mul (A : Mat ℝ (n + 1) (n + 1)) :
    ((observation : Mat ℝ 1 (n + 1)) * A * (observation : Mat ℝ 1 (n + 1)).transpose) 0 0 =
      A 0 0 := by
  rw [mul_observation, observation_mul]

variable (model : ChannelModel ℝ (n + 1)) (channel : Channel ℝ (n + 1))

theorem observed_eq : channel.observed = channel.component 0 := observation_mul _ _

theorem innovationVariance_eq :
    channel.innovationVariance model = channel.covariance 0 0 + model.measurementNoise :=
  congrArg (· + model.measurementNoise) (observation_mul_mul channel.covariance)

theorem gain_apply (i : Fin (n + 1)) :
    channel.gain model i 0 = channel.covariance i 0 / channel.innovationVariance model := by
  unfold gain
  rw [Mat.div_apply, mul_observation]

theorem correct_state (measurement : ℝ) (i : Fin (n + 1)) (j : Fin 1) :
    (channel.correct model measurement).state i j =
      channel.state i j + channel.gain model i j * (measurement - channel.observed) := by
  unfold correct
  rw [Mat.add_apply, Mat.scale_apply]

theorem correct_component (measurement : ℝ) :
    (channel.correct model measurement).component 0 = channel.component 0 +
      channel.gain model 0 0 * (measurement - channel.component 0) := by
  rw [component, correct_state, observed_eq]
  rfl

/-! ### The covariance -/

theorem posDef_blank : (blank : Channel ℝ n).covariance.toMatrix.PosDef := by
  show (1 : Mat ℝ n n).toMatrix.PosDef
  rw [Mat.toMatrix_one]
  exact Matrix.PosDef.one

theorem toMatrix_propagate_covariance (model : ChannelModel ℝ n) (channel : Channel ℝ n) :
    (channel.propagate model).covariance.toMatrix =
      model.transition.toMatrix * channel.covariance.toMatrix * model.transition.toMatrix.transpose
        + model.processNoise.toMatrix := by
  show (model.transition * channel.covariance * model.transition.transpose
    + model.processNoise : Mat ℝ n n).toMatrix = _
  rw [Mat.toMatrix_add, Mat.toMatrix_mul, Mat.toMatrix_mul, Mat.toMatrix_transpose]

/-- **A sample of the model keeps a covariance positive definite.** -/
theorem posDef_propagate {model : ChannelModel ℝ n} (regular : model.Regular)
    {channel : Channel ℝ n} (posDef : channel.covariance.toMatrix.PosDef) :
    (channel.propagate model).covariance.toMatrix.PosDef := by
  rw [toMatrix_propagate_covariance]
  refine Matrix.PosDef.add_posSemidef ?_ regular.processNoise
  have injective := Matrix.vecMul_injective_iff_isUnit.mpr regular.transition
  have moved := posDef.mul_mul_conjTranspose_same injective
  rwa [Matrix.conjTranspose_eq_transpose_of_trivial] at moved

/-! ### A correction -/

section Correction

variable {model : ChannelModel ℝ (n + 1)} {channel : Channel ℝ (n + 1)}

/-- The observation row as a matrix of linear algebra. -/
noncomputable def observationRow (n : ℕ) : Matrix (Fin 1) (Fin (n + 1)) ℝ :=
  (observation : Mat ℝ 1 (n + 1)).toMatrix

theorem toMatrix_gain : (channel.gain model).toMatrix = (channel.innovationVariance model)⁻¹ •
    (channel.covariance.toMatrix * (observationRow n).transpose) := by
  unfold gain
  rw [Mat.toMatrix_div, Mat.toMatrix_mul, Mat.toMatrix_transpose]
  rfl

theorem observationRow_spread : observationRow n * channel.covariance.toMatrix *
    (observationRow n).transpose = channel.covariance 0 0 • 1 := by
  ext i j
  rw [Subsingleton.elim i 0, Subsingleton.elim j 0, Matrix.smul_apply, Matrix.one_apply_eq,
    smul_eq_mul, mul_one, ← observation_mul_mul, ← Mat.toMatrix_apply, Mat.toMatrix_mul,
    Mat.toMatrix_mul, Mat.toMatrix_transpose]
  rfl

theorem toMatrix_correct_covariance (measurement : ℝ) :
    (channel.correct model measurement).covariance.toMatrix =
      (1 - (channel.gain model).toMatrix * observationRow n) * channel.covariance.toMatrix := by
  show ((1 - channel.gain model * (observation : Mat ℝ 1 (n + 1)) : Mat ℝ (n + 1) (n + 1))
    * channel.covariance : Mat ℝ (n + 1) (n + 1)).toMatrix = _
  rw [Mat.toMatrix_mul, Mat.toMatrix_sub, Mat.toMatrix_one, Mat.toMatrix_mul]
  rfl

theorem correct_variance (measurement : ℝ) :
    (channel.correct model measurement).covariance 0 0 =
      (1 - channel.gain model 0 0) * channel.covariance 0 0 := by
  have seen : (observationRow n * channel.covariance.toMatrix) 0 0 = channel.covariance 0 0 := by
    rw [← observation_mul channel.covariance 0, ← Mat.toMatrix_apply, Mat.toMatrix_mul]
    rfl
  rw [← Mat.toMatrix_apply, toMatrix_correct_covariance, Matrix.sub_mul, Matrix.one_mul,
    Matrix.mul_assoc, Matrix.sub_apply, Matrix.mul_apply, Fin.sum_univ_one, seen,
    Mat.toMatrix_apply, Mat.toMatrix_apply]
  ring

/-- What is observed of the covariance, `P Hᵀ H`, is a multiple of a projection. -/
theorem observedPart_sq :
    (channel.covariance.toMatrix * (observationRow n).transpose * observationRow n) *
        (channel.covariance.toMatrix * (observationRow n).transpose * observationRow n) =
      channel.covariance 0 0 •
        (channel.covariance.toMatrix * (observationRow n).transpose * observationRow n) := by
  calc _ = channel.covariance.toMatrix * (observationRow n).transpose *
        (observationRow n * channel.covariance.toMatrix * (observationRow n).transpose) *
          observationRow n := by simp only [Matrix.mul_assoc]
    _ = _ := by rw [observationRow_spread, Matrix.mul_smul, Matrix.mul_one, Matrix.smul_mul]

/-- **A correction adds the information of the measurement**, `r⁻¹ Hᵀ H`, to the inverse of the
covariance. -/
theorem correct_mul_information (posDef : channel.covariance.toMatrix.PosDef)
    (noisy : 0 < model.measurementNoise) (measurement : ℝ) :
    (channel.correct model measurement).covariance.toMatrix *
      (channel.covariance.toMatrix⁻¹ +
        model.measurementNoise⁻¹ • ((observationRow n).transpose * observationRow n)) = 1 := by
  set part := channel.covariance.toMatrix * (observationRow n).transpose * observationRow n
    with part_eq
  have square : part * part = channel.covariance 0 0 • part := observedPart_sq
  have variance := innovationVariance_eq model channel
  have diagonal : 0 < channel.covariance 0 0 := posDef.diag_pos
  have weights : model.measurementNoise⁻¹ - (channel.innovationVariance model)⁻¹ *
      (1 + model.measurementNoise⁻¹ * channel.covariance 0 0) = 0 := by
    rw [variance]
    field_simp
    ring
  have inverse : channel.covariance.toMatrix * channel.covariance.toMatrix⁻¹ = 1 :=
    Matrix.mul_nonsing_inv _ ((Matrix.isUnit_iff_isUnit_det _).mp posDef.isUnit)
  -- The product is `(1 - s⁻¹ W) (1 + r⁻¹ W)` with `W = P Hᵀ H`, and `W²` is again a multiple of `W`.
  rw [toMatrix_correct_covariance, toMatrix_gain, Matrix.mul_assoc, Matrix.mul_add, inverse,
    Matrix.mul_smul, ← Matrix.mul_assoc, Matrix.smul_mul, ← part_eq]
  simp only [sub_mul, mul_add, one_mul, mul_one, smul_mul_assoc, mul_smul_comm, square]
  match_scalars
  · ring
  · linear_combination weights

/-- **A correction keeps a covariance positive definite.** -/
theorem posDef_correct (posDef : channel.covariance.toMatrix.PosDef)
    (noisy : 0 < model.measurementNoise) (measurement : ℝ) :
    (channel.correct model measurement).covariance.toMatrix.PosDef := by
  have inverse := Matrix.inv_eq_left_inv (correct_mul_information posDef noisy measurement)
  have seen : ((observationRow n).transpose * observationRow n).PosSemidef := by
    have square := Matrix.posSemidef_conjTranspose_mul_self (observationRow n)
    rwa [Matrix.conjTranspose_eq_transpose_of_trivial] at square
  rw [← inverse]
  exact (posDef.inv.add_posSemidef (seen.smul (inv_nonneg.mpr noisy.le))).inv

/-- **What a correction does** to a channel with a positive definite covariance. -/
structure Corrects (model : ChannelModel ℝ (n + 1)) (prior : Channel ℝ (n + 1))
    (measurement : ℝ) : Prop where
  /-- The innovation varies at least as much as a measurement, so the gain can be divided by it. -/
  innovation : 0 < model.measurementNoise ∧
    model.measurementNoise ≤ prior.innovationVariance model
  /-- The first state follows a part of the innovation, but not all of it. -/
  gain : 0 < prior.gain model 0 0 ∧ prior.gain model 0 0 < 1
  /-- It moves from where it was towards the measurement, properly between the two. -/
  between : (prior.correct model measurement).component 0 ∈
    openSegment ℝ (prior.component 0) measurement
  /-- It is known better than from the measurement alone. -/
  variance : (prior.correct model measurement).covariance 0 0 < model.measurementNoise

theorem corrects (posDef : channel.covariance.toMatrix.PosDef)
    (noisy : 0 < model.measurementNoise) (measurement : ℝ) :
    Corrects model channel measurement := by
  have diagonal : 0 < channel.covariance 0 0 := posDef.diag_pos
  have split := innovationVariance_eq model channel
  have known : 0 < channel.innovationVariance model := by linarith
  have gain := gain_apply model channel 0
  have positive : 0 < channel.gain model 0 0 := gain ▸ div_pos diagonal known
  have below : channel.gain model 0 0 < 1 := by
    rw [gain, div_lt_one known]
    linarith
  refine ⟨⟨noisy, by linarith⟩, ⟨positive, below⟩, ?_, ?_⟩
  · refine ⟨1 - channel.gain model 0 0, channel.gain model 0 0, by linarith, positive, by ring, ?_⟩
    rw [correct_component, smul_eq_mul, smul_eq_mul]
    ring
  · rw [correct_variance, gain, split]
    field_simp
    nlinarith

end Correction

/-! ### Runs of a channel -/

section Moves

variable {α : Type} [Scalar α]

/-- What can happen to a channel. -/
inductive Move (α : Type) where
  /-- All is forgotten. -/
  | forget
  /-- The observed state is placed at a measurement. -/
  | seed (measurement : α)
  /-- One sample of the model is followed by a measurement. -/
  | follow (measurement : α)

/-- The channel after a move. -/
def after (model : ChannelModel α n) (channel : Channel α n) : Move α → Channel α n
  | .forget => blank
  | .seed measurement => channel.seed measurement
  | .follow measurement => channel.follow model measurement

/-- The channel that some moves lead to when nothing is known at first. -/
def reached (model : ChannelModel α n) (moves : List (Move α)) : Channel α n :=
  moves.foldl (after model) blank

end Moves

variable {model : ChannelModel ℝ (n + 1)}

/-- **One move keeps a covariance positive definite.** -/
theorem posDef_after (regular : model.Regular) {channel : Channel ℝ (n + 1)}
    (posDef : channel.covariance.toMatrix.PosDef) (move : Move ℝ) :
    (channel.after model move).covariance.toMatrix.PosDef := by
  cases move with
  | forget => exact posDef_blank
  | seed measurement => exact posDef
  | follow measurement =>
    exact posDef_correct (posDef_propagate regular posDef) regular.measurementNoise measurement

theorem posDef_foldl_after (regular : model.Regular) {channel : Channel ℝ (n + 1)}
    (posDef : channel.covariance.toMatrix.PosDef) (moves : List (Move ℝ)) :
    (moves.foldl (after model) channel).covariance.toMatrix.PosDef := by
  induction moves generalizing channel with
  | nil => exact posDef
  | cons move rest ih => exact ih (posDef_after regular posDef move)

/-- What holds of all runs of a model: the covariance is symmetric and positive definite, also before
a correction, and a correction does what `Corrects` says. -/
def StaysDefinite (model : ChannelModel ℝ (n + 1)) : Prop :=
  ∀ moves : List (Move ℝ),
    let channel := reached model moves
    let prior := channel.propagate model
    (channel.covariance.toMatrix.IsSymm ∧ channel.covariance.toMatrix.PosDef) ∧
      (prior.covariance.toMatrix.IsSymm ∧ prior.covariance.toMatrix.PosDef) ∧
      ∀ measurement, Corrects model prior measurement

theorem staysDefinite (regular : model.Regular) : StaysDefinite model := by
  intro moves channel prior
  have definite : channel.covariance.toMatrix.PosDef :=
    posDef_foldl_after regular posDef_blank moves
  have definitePrior : prior.covariance.toMatrix.PosDef := posDef_propagate regular definite
  refine ⟨⟨?_, definite⟩, ⟨?_, definitePrior⟩, ?_⟩
  · exact Matrix.isHermitian_iff_isSymm.mp definite.isHermitian
  · exact Matrix.isHermitian_iff_isSymm.mp definitePrior.isHermitian
  · exact corrects definitePrior regular.measurementNoise

end Channel

/-! ### The models of an estimator -/

theorem ChannelModel.regular_ofImpact {transition : Mat ℝ n n} (impact : Mat ℝ n 1)
    {process measurement : ℝ} (invertible : IsUnit transition.toMatrix) (nonneg : 0 ≤ process)
    (noisy : 0 < measurement) :
    (ChannelModel.ofImpact transition impact process measurement).Regular where
  transition := invertible
  processNoise := by
    have square := Matrix.posSemidef_self_mul_conjTranspose impact.toMatrix
    rw [Matrix.conjTranspose_eq_transpose_of_trivial] at square
    show (impact * impact.transpose * process : Mat ℝ n n).toMatrix.PosSemidef
    rw [Mat.toMatrix_scale, Mat.toMatrix_mul, Mat.toMatrix_transpose]
    exact square.smul nonneg
  measurementNoise := noisy

/-- A matrix with ones on its diagonal and zeros below it can be inverted. -/
theorem Mat.isUnit_of_unitriangular {A : Mat ℝ n n} (below : ∀ i j, j < i → A i j = 0)
    (diagonal : ∀ i, A i i = 1) : IsUnit A.toMatrix := by
  have triangular : A.toMatrix.BlockTriangular id := fun i j lower => below i j lower
  rw [Matrix.isUnit_iff_isUnit_det, Matrix.det_of_isUpperTriangular triangular]
  simp [diagonal]

namespace Noise

variable {noise : Noise ℝ}

theorem regular_axisModel (nonneg : 0 ≤ noise.process) (noisy : 0 < noise.measurement) :
    (axisModel noise).Regular := by
  refine ChannelModel.regular_ofImpact _ (Mat.isUnit_of_unitriangular ?_ ?_) nonneg noisy
  · intro i j below
    fin_cases i <;> fin_cases j <;> first | rfl | simp at below
  · intro i
    fin_cases i <;> rfl

theorem regular_pressureModel (nonneg : 0 ≤ noise.process) (noisy : 0 < noise.measurement) :
    (pressureModel noise).Regular := by
  refine ChannelModel.regular_ofImpact _ (Mat.isUnit_of_unitriangular ?_ ?_) nonneg noisy
  · intro i j below
    fin_cases i <;> fin_cases j <;> first | rfl | simp at below
  · intro i
    fin_cases i <;> rfl

end Noise

/-- **The filters of an estimator stay definite**, whatever is measured, unless a measurement is
taken to be exact. -/
theorem Estimator.filters_stayDefinite (noise : Noise ℝ) (nonneg : 0 ≤ noise.process)
    (noisy : 0 < noise.measurement) :
    Channel.StaysDefinite (axisModel noise) ∧ Channel.StaysDefinite (pressureModel noise) :=
  ⟨Channel.staysDefinite (Noise.regular_axisModel nonneg noisy),
    Channel.staysDefinite (Noise.regular_pressureModel nonneg noisy)⟩

/-- A filter that is placed at 0 and then measures 10 lands properly between the two. -/
theorem Estimator.filters_stayDefinite_pull :
    let pulled := Channel.reached (pressureModel (⟨0.01, 1⟩ : Noise ℝ)) [.seed 0, .follow 10]
    0 < pulled.component 0 ∧ pulled.component 0 < 10 := by
  intro pulled
  let model := pressureModel (⟨0.01, 1⟩ : Noise ℝ)
  have definite := Estimator.filters_stayDefinite ⟨0.01, 1⟩ (by norm_num) (by norm_num)
  obtain ⟨_, _, corrects⟩ := definite.2 [.seed 0]
  have still : ((Channel.reached model [.seed 0]).propagate model).component 0 = 0 := by
    show (model.transition * (Channel.blank.seed 0 : Channel ℝ 2).state) 0 0 = 0
    rw [Mat.mul_apply, Scalar.sum_ofFn]
    refine Finset.sum_eq_zero fun l _ => ?_
    simp [Channel.seed, Channel.blank]
  have between := (corrects 10).between
  rw [still, openSegment_eq_Ioo (by norm_num)] at between
  exact between

end PointerForecast
