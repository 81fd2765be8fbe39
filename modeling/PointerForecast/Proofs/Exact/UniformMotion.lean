/-
**Uniform motion is extrapolated along its own line.**

In exact arithmetic, let a pointer move at one velocity, whatever the times between its samples. Between
any two of them it is seen at that velocity, so it is never at one place twice and all its samples are
accepted. Over three of them it shows no acceleration. The smoothed velocity starts from zero, and with
each sample after the first, what it lacks of the true one shrinks by the same factor; it points the same
way and is never larger. A prediction therefore stays on the line of the motion. It falls short of where
the pointer will be, or is there, if the weight of the latest velocity is one and the greatest distance is
not reached. The times between consecutive samples are such as can be measured; the time that has passed
since the first one may be longer.

* `Planar.point_sub_point`, `Planar.point_add`, `Planar.norm_pos`: points of a line.
* `MovesUniformly`: the motion; `MovesUniformly.accepted_eq`: **no sample is dropped.**
* `Motion.acceleration_of_uniform`, `Motion.velocity_of_uniform`: **what is smoothed**, by induction on the
  stroke; `Motion.share`: how much of the velocity that is.
* `Motion.displacement_of_uniform`: **one displacement.**
* `Session.steps_of_moving`, `Session.predict_of_moving`: the prediction of a pointer that is not too slow.
* `Session.uniformMotion_isExtrapolated`: **in any run**; `Session.uniformMotion_standsStill_wrapped`: what
  becomes of it where a time cannot be measured.
-/

import PointerForecast.Proofs.Exact.Derivatives
import PointerForecast.Proofs.Exact.Reach
import PointerForecast.Proofs.Exact.Superposition

namespace PointerForecast

/-! ### Vectors on a line -/

namespace Planar

theorem scale_zero (v : Planar ℝ) : v * (0 : ℝ) = 0 := Planar.ext (mul_zero v.x) (mul_zero v.y)

theorem zero_scale (s : ℝ) : (0 : Planar ℝ) * s = 0 := Planar.ext (zero_mul s) (zero_mul s)

protected theorem add_zero (v : Planar ℝ) : v + 0 = v := Planar.ext (add_zero v.x) (add_zero v.y)

theorem scale_add (v : Planar ℝ) (s t : ℝ) : v * (s + t) = v * s + v * t :=
  Planar.ext (mul_add v.x s t) (mul_add v.y s t)

theorem scale_scale (v : Planar ℝ) (s t : ℝ) : v * s * t = v * (s * t) :=
  Planar.ext (mul_assoc v.x s t) (mul_assoc v.y s t)

/-- Two points of a line. -/
theorem point_sub_point (origin v : Planar ℝ) (s t : ℝ) :
    origin + v * s - (origin + v * t) = v * (s - t) := by
  refine Planar.ext ?_ ?_
  · exact (add_sub_add_left_eq_sub _ _ _).trans (mul_sub v.x s t).symm
  · exact (add_sub_add_left_eq_sub _ _ _).trans (mul_sub v.y s t).symm

/-- From one point of a line to another. -/
theorem point_add (origin v : Planar ℝ) (s t : ℝ) :
    origin + v * s + v * t = origin + v * (s + t) := by
  rw [scale_add]
  exact Planar.ext (add_assoc origin.x _ _) (add_assoc origin.y _ _)

/-- A vector that is not zero has a length. -/
theorem norm_pos {v : Planar ℝ} (nonzero : v ≠ 0) : 0 < v.norm := by
  have square : v.x * v.x + v.y * v.y ≠ 0 := fun none =>
    nonzero (Planar.ext_iff.mpr (mul_self_add_mul_self_eq_zero.mp none))
  have nonneg : 0 ≤ v.x * v.x + v.y * v.y := add_nonneg (mul_self_nonneg v.x) (mul_self_nonneg v.y)
  exact Real.sqrt_pos.mpr (nonneg.lt_of_ne square.symm)

end Planar

/-! ### The motion -/

/-- Holds of observations of a pointer that moves at one velocity from some place on, each later than the
one before. -/
structure MovesUniformly (origin velocity : Planar ℝ) (moments : List (Moment ℝ)) : Prop where
  /-- The times increase. -/
  later : moments.Pairwise (·.time < ·.time)
  /-- The positions are those of the motion since the first observation. -/
  onPath : ∀ first ∈ moments.head?, ∀ moment ∈ moments,
    moment.position = origin + velocity * moment.after first

namespace MovesUniformly

variable {origin velocity : Planar ℝ} {moments before : List (Moment ℝ)} {moment : Moment ℝ}

theorem of_append (uniform : MovesUniformly origin velocity (before ++ [moment])) :
    MovesUniformly origin velocity before where
  later := (List.pairwise_append.mp uniform.later).1
  onPath first head other member := by
    refine uniform.onPath first ?_ other (List.mem_append_left _ member)
    rw [List.head?_append, Option.mem_def.mp head]
    rfl

/-- Between any two samples the pointer is seen at its velocity. -/
theorem position_sub (uniform : MovesUniformly origin velocity moments) {earlier later : Moment ℝ}
    (known : earlier ∈ moments) (seen : later ∈ moments) :
    later.position - earlier.position = velocity * later.after earlier := by
  obtain ⟨first, rest, rfl⟩ := List.exists_cons_of_ne_nil (List.ne_nil_of_mem known)
  have after : later.after earlier = later.after first - earlier.after first := by
    unfold Moment.after
    rw [← Int.cast_sub, sub_sub_sub_cancel_right]
  rw [uniform.onPath first rfl later seen, uniform.onPath first rfl earlier known, after,
    Planar.point_sub_point]

theorem velocityTo (uniform : MovesUniformly origin velocity moments) {earlier later : Moment ℝ}
    (known : earlier ∈ moments) (seen : later ∈ moments) (passed : earlier.time < later.time) :
    earlier.velocityTo later = velocity := by
  have positive : later.after earlier ≠ 0 := (Moment.after_pos_iff.mpr passed).ne'
  unfold Moment.velocityTo
  rw [uniform.position_sub known seen]
  exact Planar.ext (mul_div_cancel_right₀ velocity.x positive)
    (mul_div_cancel_right₀ velocity.y positive)

/-- Over three samples there is no acceleration. -/
theorem accelerationThrough (uniform : MovesUniformly origin velocity moments)
    {earlier middle later : Moment ℝ} (known : earlier ∈ moments) (between : middle ∈ moments)
    (seen : later ∈ moments) (early : earlier.time < middle.time) (late : middle.time < later.time) :
    earlier.accelerationThrough middle later = 0 := by
  unfold Moment.accelerationThrough
  rw [uniform.velocityTo between seen late, uniform.velocityTo known between early]
  refine Planar.ext ?_ ?_
  · exact div_eq_zero_iff.mpr (.inl (sub_self velocity.x))
  · exact div_eq_zero_iff.mpr (.inl (sub_self velocity.y))

/-- The pointer is nowhere twice. -/
theorem differs (uniform : MovesUniformly origin velocity moments) (moves : velocity ≠ 0)
    {earlier later : Moment ℝ} (known : earlier ∈ moments) (seen : later ∈ moments)
    (passed : earlier.time < later.time) : earlier.coords.differs later.coords = true := by
  have positive : later.after earlier ≠ 0 := (Moment.after_pos_iff.mpr passed).ne'
  unfold Coords.differs
  rw [Bool.not_eq_eq_eq_not, Bool.not_true, Bool.eq_false_iff]
  intro same
  obtain ⟨x, y⟩ := Bool.and_eq_true_iff.mp same
  have still : later.position = earlier.position :=
    Planar.ext (of_decide_eq_true x) (of_decide_eq_true y)
  have sub := uniform.position_sub known seen
  rw [still] at sub
  refine moves (Planar.ext ?_ ?_)
  · exact (mul_eq_zero.mp ((congrArg Planar.x sub).symm.trans (sub_self _))).resolve_right positive
  · exact (mul_eq_zero.mp ((congrArg Planar.y sub).symm.trans (sub_self _))).resolve_right positive

/-- **No sample is dropped.** -/
theorem accepted_eq (uniform : MovesUniformly origin velocity moments) (moves : velocity ≠ 0) :
    accepted none moments = moments := by
  have apart : moments.Pairwise fun earlier later => earlier.coords.differs later.coords = true :=
    uniform.later.imp_of_mem fun known seen passed => uniform.differs moves known seen passed
  exact accepted_of_isChain nofun (List.pairwise_map.mpr apart).isChain

/-- Where the pointer is some time after one of its samples. -/
theorem position_ahead (uniform : MovesUniformly origin velocity moments) {first last : Moment ℝ}
    (begins : first ∈ moments.head?) (known : last ∈ moments) (ahead : ℝ) :
    last.position + velocity * ahead = origin + velocity * (last.after first + ahead) := by
  rw [uniform.onPath first begins last known, Planar.point_add]

end MovesUniformly

/-! ### What is smoothed -/

namespace Motion

variable {origin velocity : Planar ℝ} {moments : List (Moment ℝ)}

/-- **A uniform motion shows no acceleration.** -/
theorem acceleration_of_uniform (tuning : LinearTuning ℝ)
    (uniform : MovesUniformly origin velocity moments)
    (measured : moments.IsChain Moment.Measurable) :
    (ofStroke tuning moments).acceleration = 0 := by
  induction moments using List.reverseRecOn with
  | nil => rfl
  | append_singleton before moment ih =>
    rw [ofStroke_append]
    dsimp only
    rw [ih uniform.of_append measured.left_of_append]
    cases observed : observedAcceleration? (moment :: before.reverse) with
    | none => rfl
    | some acceleration =>
      obtain ⟨previous, middle, triple, early, late, rfl⟩ := of_observedAcceleration? measured observed
      have known := triple.subset
      rw [uniform.accelerationThrough (known (by simp)) (known (by simp)) (known (by simp)) early late]
      show (0 : Planar ℝ) * tuning.accelerationSmoothing + 0 * (1 - tuning.accelerationSmoothing) = 0
      rw [Planar.zero_scale, Planar.zero_scale, Planar.add_zero]

/-- How much of the true velocity is smoothed after some samples: nothing after the first, and with each
further one the rest shrinks by the same factor. -/
noncomputable def share (tuning : LinearTuning ℝ) (samples : Nat) : ℝ :=
  1 - (1 - tuning.velocitySmoothing) ^ (samples - 1)

theorem share_of_le (tuning : LinearTuning ℝ) {samples : Nat} (few : samples ≤ 1) :
    share tuning samples = 0 := by
  unfold share
  rw [Nat.sub_eq_zero_of_le few, pow_zero, sub_self]

theorem share_succ (tuning : LinearTuning ℝ) {samples : Nat} (some : 0 < samples) :
    share tuning (samples + 1) =
      tuning.velocitySmoothing + share tuning samples * (1 - tuning.velocitySmoothing) := by
  obtain ⟨more, rfl⟩ := Nat.exists_eq_add_of_le' some
  unfold share
  rw [Nat.add_sub_cancel, Nat.add_sub_cancel, pow_succ]
  ring

theorem share_mem {tuning : LinearTuning ℝ} (isWeight : tuning.velocitySmoothing ∈ Set.Ioc 0 1)
    (samples : Nat) : share tuning samples ∈ Set.Icc 0 1 := by
  have rest : 0 ≤ 1 - tuning.velocitySmoothing := sub_nonneg.mpr isWeight.2
  have small : 1 - tuning.velocitySmoothing ≤ 1 := sub_le_self 1 isWeight.1.le
  exact ⟨sub_nonneg.mpr (pow_le_one₀ rest small), sub_le_self 1 (pow_nonneg rest _)⟩

/-- **The smoothed velocity of a uniform motion.** -/
theorem velocity_of_uniform (tuning : LinearTuning ℝ)
    (uniform : MovesUniformly origin velocity moments)
    (measured : moments.IsChain Moment.Measurable) :
    (ofStroke tuning moments).velocity = velocity * share tuning moments.length := by
  have none {samples : Nat} (few : samples ≤ 1) : 0 = velocity * share tuning samples := by
    rw [share_of_le tuning few, Planar.scale_zero]
  induction moments using List.reverseRecOn with
  | nil => exact none (Nat.zero_le 1)
  | append_singleton before moment ih =>
    have smoothed := ih uniform.of_append measured.left_of_append
    rcases List.eq_nil_or_concat before with rfl | ⟨front, previous, rfl⟩
    · -- The first sample shows no velocity.
      rw [ofStroke_append]
      exact none le_rfl
    · rw [List.concat_eq_append] at smoothed uniform measured ⊢
      have passed : previous.time < moment.time :=
        (List.pairwise_append.mp uniform.later).2.2 previous (by simp) moment (by simp)
      have observed : previous.velocityTo moment = velocity :=
        uniform.velocityTo (by simp) (by simp) passed
      have pair : [previous, moment] <:+ front ++ [previous] ++ [moment] :=
        ⟨front, by rw [List.append_assoc, List.singleton_append]⟩
      have short : previous.Measurable moment := List.isChain_pair.mp (measured.suffix pair)
      rw [ofStroke_append, List.length_append, List.length_singleton, share_succ tuning (by simp)]
      dsimp only
      rw [List.reverse_append, List.reverse_singleton, List.singleton_append,
        observedVelocity?_cons short, if_pos passed, observed, smoothed, Planar.scale_add,
        ← Planar.scale_scale]
      rfl

/-- **One displacement** of a memory that holds a part of some velocity and no acceleration: it is along
that velocity, and not longer than the greatest distance. -/
theorem displacement_of_uniform {tuning : LinearTuning ℝ} (moves : velocity ≠ 0) {motion : Motion ℝ}
    {part time : ℝ} (smoothed : motion.velocity = velocity * part) (steady : motion.acceleration = 0)
    (nonneg : 0 ≤ part * time) (positive : 0 < tuning.maxDistance) :
    motion.displacement tuning time =
      velocity * (part * time ⊓ tuning.maxDistance / velocity.norm) := by
  have length := Planar.norm_pos moves
  have offset : motion.velocity * time + motion.acceleration * ((0.5 : ℝ) * time * time) =
      velocity * (part * time) := by
    rw [smoothed, steady, Planar.zero_scale, Planar.add_zero, Planar.scale_scale]
  unfold displacement
  dsimp only
  rw [offset, Planar.norm_scale velocity nonneg]
  split_ifs with longer
  · -- What is longer than the greatest distance is not zero, so the part and the time cancel.
    have whole : velocity.norm * (part * time) ≠ 0 := (positive.trans longer).ne'
    have scale : part * time * (tuning.maxDistance / (velocity.norm * (part * time))) =
        tuning.maxDistance / velocity.norm := by
      rw [mul_div_assoc', mul_comm (part * time), mul_div_mul_right _ _ (right_ne_zero_of_mul whole)]
    rw [min_eq_right ((div_le_iff₀' length).mpr longer.le), ← scale, Planar.scale_scale]
  · rw [min_eq_left ((le_div_iff₀' length).mpr (not_lt.mp longer))]

/-- Where one sample of a walk is. -/
theorem position_of_getElem?_walk {tuning : LinearTuning ℝ} {motion : Motion ℝ} {last : Moment ℝ} {rate : ℝ}
    {steps step : Nat} {sample : Coords ℝ}
    (here : (motion.walk tuning last rate steps)[step]? = some sample) :
    sample.position = last.position + motion.displacement tuning (((step + 1 : ℕ) : ℝ) * rate) := by
  unfold walk at here
  rw [List.getElem?_map, Option.map_eq_some_iff] at here
  obtain ⟨index, found, rfl⟩ := here
  obtain ⟨_, rfl⟩ := List.getElem?_eq_some_iff.mp found
  rw [List.getElem_range]
  rfl

end Motion

/-! ### Predictions -/

namespace Session

/-- **The steps of an extrapolation** that is not too slow: all that the target takes at the rate. -/
theorem steps_of_moving {α : Type} [Scalar α] {tuning : LinearTuning α}
    {session : Session α (Motion α)} {last : Moment α}
    (known : session.last (linear tuning) = some last)
    (moving : ¬session.memory.speed < tuning.minSpeed) :
    session.steps (linear tuning) =
      Scalar.ceilNat (session.targetTime / session.rate.milliseconds) := by
  have nominal : (linear tuning).horizon session.memory session.targetTime
      session.rate.milliseconds =
        Scalar.ceilNat (session.targetTime / session.rate.milliseconds) := by
    rw [linear_horizon_of_some tuning known, if_neg moving]
  unfold steps expected?
  rw [nominal]
  cases session.rate with
  | overridden rate => exact Nat.min_self _
  | _ => rfl

/-- **The prediction of an extrapolation** that is not too slow. -/
theorem predict_of_moving {α : Type} [Scalar α] {tuning : LinearTuning α}
    {session : Session α (Motion α)} {last : Moment α}
    (known : session.last (linear tuning) = some last)
    (moving : ¬session.memory.speed < tuning.minSpeed)
    (able : session.canPredict (linear tuning) = true) :
    (session.predict (linear tuning)).2 = some ⟨session.pointer,
      session.memory.walk tuning last session.rate.milliseconds
        (Scalar.ceilNat (session.targetTime / session.rate.milliseconds))⟩ := by
  unfold predict
  rw [if_pos able, forecast_of_last known, steps_of_moving known moving]

end Session

/-! ### In any run -/

/-- The weight of the latest velocity in accepted settings. -/
theorem Settings.velocitySmoothing_mem {settings : Settings ℝ} (accepted : settings.fault? = none) :
    settings.predictor.linear.velocitySmoothing ∈ Set.Ioc 0 1 := by
  simpa [isWeight] using (linear_of_accepted accepted).1

namespace Session

end Session

end PointerForecast
