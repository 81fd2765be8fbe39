/-
**The walk in closed form.**

In exact arithmetic, a step adds a tenth of the jank to the acceleration, then half of the new
acceleration to the velocity, then all of the new velocity to the position. So the acceleration counts
for the position as often as a triangular number says, and the jank as often as a tetrahedral one. The
pressure is cut off at one in every step. A pressure that rises is cut off as if only once, at the end,
and one that falls is cut off in the first step and never again. Where the pointer lifts, the pressure is
far from being cut off, so the same formulas hold there.

* `Kinematics.positionAfter`, `Kinematics.pressureAfter`: the formulas.
* `Kinematics.position_iterate`, `Kinematics.pressure_iterate`: **the states on the way**, by induction
  on the steps.
* `Kinematics.lifts_iterate_iff`: when a step finds the pointer lifting.
* `Kinematics.project_closedForm`: **the whole walk.**
-/

import PointerForecast.Proofs.Exact.Arithmetic
import PointerForecast.Proofs.Walk

namespace PointerForecast.Kinematics

noncomputable section

variable (start : Kinematics ℝ)

/-! ### The formulas -/

/-- The position some steps after the start. -/
def positionAfter (k : ℕ) : Planar ℝ :=
  start.position + start.velocity * (k : ℝ) + start.acceleration * ((k * (k + 1) : ℕ) / 4 : ℝ) +
    start.jank * ((k * (k + 1) * (k + 2) : ℕ) / 120 : ℝ)

/-- The pressure some steps, at least one, after the start. -/
def pressureAfter (k : ℕ) : ℝ :=
  if 0 ≤ start.pressureChange then min 1 (start.pressure + k * start.pressureChange)
  else min 1 (start.pressure + start.pressureChange) + (k - 1) * start.pressureChange

/-- The sample some steps after the start. -/
def sampleAfter (k : ℕ) : Coords ℝ :=
  ⟨(start.positionAfter k).x, (start.positionAfter k).y, start.pressureAfter k⟩

/-! ### The states on the way -/

theorem jankInfluence_eq : (jankInfluence : ℝ) = 1 / 10 := by
  unfold jankInfluence
  norm_num

theorem accelerationInfluence_eq : (accelerationInfluence : ℝ) = 1 / 2 := by
  unfold accelerationInfluence
  norm_num

theorem velocityInfluence_eq : (velocityInfluence : ℝ) = 1 := by
  unfold velocityInfluence
  norm_num

theorem jank_iterate (k : ℕ) : (passed^[k] start).jank = start.jank := by
  induction k with
  | zero => rfl
  | succ k ih =>
    rw [Function.iterate_succ_apply']
    exact ih

theorem pressureChange_iterate (k : ℕ) :
    (passed^[k] start).pressureChange = start.pressureChange := by
  induction k with
  | zero => rfl
  | succ k ih =>
    rw [Function.iterate_succ_apply']
    exact ih

theorem acceleration_iterate (k : ℕ) :
    (passed^[k] start).acceleration = start.acceleration + start.jank * (k / 10 : ℝ) := by
  induction k with
  | zero => ext <;> simp
  | succ k ih =>
    have step : (passed^[k + 1] start).acceleration =
        (passed^[k] start).acceleration + (passed^[k] start).jank * (jankInfluence : ℝ) := by
      rw [Function.iterate_succ_apply']
      rfl
    rw [step, ih, jank_iterate, jankInfluence_eq]
    ext <;> push_cast [Planar.add_x, Planar.add_y, Planar.scale_x, Planar.scale_y] <;> ring

theorem velocity_iterate (k : ℕ) :
    (passed^[k] start).velocity = start.velocity + start.acceleration * (k / 2 : ℝ) +
      start.jank * (k * (k + 1) / 40 : ℝ) := by
  induction k with
  | zero => ext <;> simp
  | succ k ih =>
    have step : (passed^[k + 1] start).velocity = (passed^[k] start).velocity +
        (passed^[k + 1] start).acceleration * (accelerationInfluence : ℝ) := by
      rw [Function.iterate_succ_apply']
      rfl
    rw [step, ih, acceleration_iterate, accelerationInfluence_eq]
    ext <;> push_cast [Planar.add_x, Planar.add_y, Planar.scale_x, Planar.scale_y] <;> ring

/-- **The position on the way.** -/
theorem position_iterate (k : ℕ) : (passed^[k] start).position = start.positionAfter k := by
  unfold positionAfter
  induction k with
  | zero => ext <;> simp
  | succ k ih =>
    have step : (passed^[k + 1] start).position = (passed^[k] start).position +
        (passed^[k + 1] start).velocity * (velocityInfluence : ℝ) := by
      rw [Function.iterate_succ_apply']
      rfl
    rw [step, ih, velocity_iterate, velocityInfluence_eq]
    ext <;> push_cast [Planar.add_x, Planar.add_y, Planar.scale_x, Planar.scale_y] <;> ring

/-! ### The pressure on the way -/

theorem pressureAfter_one :
    start.pressureAfter 1 = min 1 (start.pressure + start.pressureChange) := by
  unfold pressureAfter
  split <;> simp

/-- One more step adds the change and cuts off. -/
theorem pressureAfter_succ (k : ℕ) : start.pressureAfter (k + 2) =
    min 1 (start.pressureAfter (k + 1) + start.pressureChange) := by
  unfold pressureAfter
  split
  · rename_i rising
    -- what was cut off to one would be above one now
    have above : (1 : ℝ) ≤ 1 + start.pressureChange := le_add_of_nonneg_right rising
    rw [← min_add_add_right, ← min_assoc, min_eq_left above]
    push_cast
    ring_nf
  · rename_i falling
    have below : start.pressureChange < 0 := not_le.mp falling
    have under : min 1 (start.pressure + start.pressureChange) +
        ((k + 2 : ℕ) - 1) * start.pressureChange ≤ 1 := by
      have first : min 1 (start.pressure + start.pressureChange) ≤ 1 := min_le_left _ _
      have later : ((k + 2 : ℕ) - 1 : ℝ) * start.pressureChange ≤ 0 := by
        refine mul_nonpos_of_nonneg_of_nonpos ?_ below.le
        push_cast
        linarith [Nat.cast_nonneg (α := ℝ) k]
      linarith
    rw [← min_eq_right under]
    push_cast
    ring_nf

/-- **The pressure on the way**, after at least one step. -/
theorem pressure_iterate (k : ℕ) :
    (passed^[k + 1] start).pressure = start.pressureAfter (k + 1) := by
  have step (j : ℕ) : (passed^[j + 1] start).pressure =
      min 1 ((passed^[j] start).pressure + start.pressureChange) := by
    rw [← pressureChange_iterate start j, Function.iterate_succ_apply', min_comm, ← Scalar.min_eq]
    rfl
  induction k with
  | zero => rw [step, pressureAfter_one, Function.iterate_zero_apply]
  | succ k ih => rw [step, ih, pressureAfter_succ]

theorem sample_iterate (k : ℕ) : (passed^[k + 1] start).sample = start.sampleAfter (k + 1) := by
  unfold sampleAfter
  rw [← position_iterate, ← pressure_iterate]
  rfl

/-! ### Lifts -/

theorem liftOffPressure_eq : (liftOffPressure : ℝ) = 1 / 10 := by
  unfold liftOffPressure
  norm_num

theorem pressureAfter_succ_eq (k : ℕ) :
    start.pressureAfter (k + 1) = min (passed^[k] start).advance.pressure 1 := by
  rw [← pressure_iterate, Function.iterate_succ_apply', ← Scalar.min_eq]
  rfl

/-- **A step finds the pointer lifting** if the formula gives less than a tenth. -/
theorem lifts_iterate_iff (k : ℕ) :
    (passed^[k] start).Lifts ↔ start.pressureAfter (k + 1) < 1 / 10 := by
  rw [pressureAfter_succ_eq, ← liftOffPressure_eq, min_lt_iff, Lifts]
  refine ⟨Or.inl, fun low => low.resolve_right ?_⟩
  rw [liftOffPressure_eq]
  norm_num

/-- At a lift there is nothing to cut off. -/
theorem pressure_advance_of_lifts {k : ℕ} (lifts : start.pressureAfter (k + 1) < 1 / 10) :
    (passed^[k] start).advance.pressure = start.pressureAfter (k + 1) := by
  rw [pressureAfter_succ_eq, min_lt_iff] at lifts
  have low := lifts.resolve_right (by norm_num)
  rw [pressureAfter_succ_eq, min_eq_left (by linarith)]

/-! ### The whole walk -/

theorem samples_path (count : ℕ) :
    (start.path count).map sample = (List.range' 1 count).map start.sampleAfter := by
  rw [path, ← List.range_map_iterate, List.range'_eq_map_range, List.map_map, List.map_map]
  refine List.map_congr_left fun k _ => ?_
  simp only [Function.comp_apply, ← Function.iterate_succ_apply, sample_iterate, Nat.add_comm]

/-- **The walk in closed form.** Of the samples after one step, after two, and so on, a walk has those
before the first one whose pressure is less than a tenth, as far as it has steps. It ends where that
pressure is, and says that the pointer lifts, or it ends with its last step. -/
theorem project_closedForm (steps : ℕ) :
    ((project steps start).lifted = true ↔
        ∃ k, 1 ≤ k ∧ k ≤ steps ∧ start.pressureAfter k < 1 / 10) ∧
      ∃ count ≤ steps,
        (∀ k, 1 ≤ k → k ≤ count → 1 / 10 ≤ start.pressureAfter k) ∧
        (count < steps → start.pressureAfter (count + 1) < 1 / 10) ∧
        project steps start =
          let last := if count < steps then count + 1 else steps
          { samples := (List.range' 1 count).map start.sampleAfter
            position := start.positionAfter last
            pressure := if steps = 0 then start.pressure else start.pressureAfter last
            lifted := count < steps } := by
  obtain ⟨count, stops, same⟩ := exists_stops steps start
  have passes (k : ℕ) (least : 1 ≤ k) (before : k ≤ count) : 1 / 10 ≤ start.pressureAfter k := by
    obtain ⟨j, rfl⟩ := Nat.exists_eq_add_of_le' least
    rw [← not_lt, ← lifts_iterate_iff]
    exact stops.passes j before
  have lifts (ended : count < steps) : start.pressureAfter (count + 1) < 1 / 10 :=
    (lifts_iterate_iff start count).mp (stops.lifts ended)
  refine ⟨?_, count, stops.le, passes, lifts, ?_⟩
  · rw [same]
    refine decide_eq_true_iff.trans ⟨fun ended => ⟨count + 1, by omega, ended, lifts ended⟩, ?_⟩
    rintro ⟨k, least, most, low⟩
    by_contra all
    exact low.not_ge (passes k least (most.trans (not_lt.mp all)))
  · rw [same, walked, samples_path]
    by_cases ended : count < steps
    · have some : steps ≠ 0 := Nat.ne_zero_of_lt ended
      have there : (start.reached steps count).position = start.positionAfter (count + 1) := by
        rw [reached, if_pos ended, ← position_iterate, Function.iterate_succ_apply']
        rfl
      have low : (start.reached steps count).pressure = start.pressureAfter (count + 1) := by
        rw [reached, if_pos ended, pressure_advance_of_lifts start (lifts ended)]
      simp only [there, low, if_pos ended, if_neg some]
    · obtain rfl : count = steps := le_antisymm stops.le (not_lt.mp ended)
      cases count with
      | zero => simp [reached, ← position_iterate]
      | succ count =>
        simp only [reached, if_neg ended, position_iterate, pressure_iterate,
          if_neg count.succ_ne_zero]

end

end PointerForecast.Kinematics
