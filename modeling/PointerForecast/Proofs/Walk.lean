/-
**Where a walk leads.**

A walk passes one state after another, each the one before it a sample later with its pressure cut
off, until the next step would find the pointer lifting. How many steps were asked for matters only
for where that ends: a walk of more steps passes the same states first, and one that ended at a lift
stays as it is. All of this holds of any numbers, also where a pressure is not a number, since the
lift is looked for before the pressure is cut off. In double precision this order is also why every
pressure on the way lies between that of a lift and one.

* `Kinematics.passed`, `Kinematics.path`: the next state on the way, and the states passed.
* `Kinematics.Stops`: how many of some steps pass a state; `Stops.count_le`, `Stops.count_eq`: when
  more steps are asked for.
* `Kinematics.exists_stops`: **the walk by the states that it passes**, by induction on its steps.
* `project_isPrefixStable`: **the walk in double precision**, from any state.
-/

import Mathlib.Data.List.Iterate
import PointerForecast.Proofs.Double.UnitInterval
import PointerForecast.Projection

namespace PointerForecast

namespace Kinematics

variable {α : Type} [Scalar α]

/-! ### The states on the way -/

/-- The next state on the way. -/
def passed (state : Kinematics α) : Kinematics α := state.advance.capPressure

/-- The states on the way, nearest first. -/
def path (start : Kinematics α) (count : ℕ) : List (Kinematics α) :=
  List.iterate passed start.passed count

/-- Holds of a state from which the next step finds the pointer lifting. -/
def Lifts (state : Kinematics α) : Prop := state.advance.pressure < liftOffPressure

instance (state : Kinematics α) : Decidable state.Lifts := Scalar.decideLT _ _

theorem length_path (start : Kinematics α) (count : ℕ) : (start.path count).length = count :=
  List.length_iterate _ _ _

theorem prefix_path (start : Kinematics α) {near far : ℕ} (le : near ≤ far) :
    start.path near <+: start.path far := by
  obtain ⟨more, rfl⟩ := Nat.exists_eq_add_of_le le
  exact ⟨_, (List.iterate_add passed start.passed near more).symm⟩

theorem getLast?_path (start : Kinematics α) (count : ℕ) :
    (start.path (count + 1)).getLast? = some (passed^[count + 1] start) := by
  have split : start.path (count + 1) = start.path count ++ [passed^[count] start.passed] :=
    List.iterate_add passed start.passed count 1
  rw [split, List.getLast?_concat]
  rfl

theorem mem_path {start state : Kinematics α} {count : ℕ} :
    state ∈ start.path count ↔ ∃ k < count, state = passed^[k + 1] start := by
  rw [path, ← List.range_map_iterate, List.mem_map]
  simp only [List.mem_range, Function.iterate_succ_apply, eq_comm]

/-! ### How many steps pass a state -/

/-- Holds if, of some steps from a state, so many pass a state: the next one finds the pointer
lifting, unless all steps are taken. -/
structure Stops (start : Kinematics α) (steps count : ℕ) : Prop where
  le : count ≤ steps
  passes : ∀ k < count, ¬ (passed^[k] start).Lifts
  lifts : count < steps → (passed^[count] start).Lifts

namespace Stops

variable {start : Kinematics α} {near far count more : ℕ}

/-- **More steps pass no fewer states.** -/
theorem count_le (stops : start.Stops near count) (longer : start.Stops far more)
    (le : near ≤ far) : count ≤ more := by
  by_contra fewer
  have fewer := not_le.mp fewer
  exact stops.passes more fewer (longer.lifts (fewer.trans_le (stops.le.trans le)))

/-- **What ended at a lift ends there**, however many steps are asked for. -/
theorem count_eq (stops : start.Stops near count) (longer : start.Stops far more)
    (le : near ≤ far) (ended : count < near) : more = count := by
  refine le_antisymm ?_ (stops.count_le longer le)
  by_contra further
  exact longer.passes count (not_le.mp further) (stops.lifts ended)

/-- Every state that is passed comes after one that the pointer does not lift from. -/
theorem exists_of_mem_path (stops : start.Stops near count) {state : Kinematics α}
    (member : state ∈ start.path count) :
    ∃ before : Kinematics α, ¬ before.Lifts ∧ state = before.passed := by
  obtain ⟨k, before, rfl⟩ := mem_path.mp member
  exact ⟨_, stops.passes k before, Function.iterate_succ_apply' _ _ _⟩

end Stops

/-! ### The walk -/

/-- The state that the last step led to, be it passed or that of a lift. -/
def reached (start : Kinematics α) (steps count : ℕ) : Kinematics α :=
  if count < steps then (passed^[count] start).advance else passed^[count] start

/-- The walk that passes a number of states. -/
def walked (start : Kinematics α) (steps count : ℕ) : Projection α where
  samples := (start.path count).map sample
  position := (start.reached steps count).position
  pressure := (start.reached steps count).pressure
  lifted := count < steps

theorem project_of_lifts {start : Kinematics α} (lifts : start.Lifts) (steps : ℕ) :
    project (steps + 1) start = ⟨[], start.advance.position, start.advance.pressure, true⟩ := by
  rw [project]
  exact if_pos lifts

theorem project_of_passes {start : Kinematics α} (passes : ¬ start.Lifts) (steps : ℕ) :
    project (steps + 1) start =
      { project steps start.passed with
        samples := start.passed.sample :: (project steps start.passed).samples } := by
  rw [project]
  exact if_neg passes

/-- One more step in front of a walk. -/
theorem walked_succ (start : Kinematics α) (steps count : ℕ) :
    start.walked (steps + 1) (count + 1) =
      { start.passed.walked steps count with
        samples := start.passed.sample :: (start.passed.walked steps count).samples } := by
  have sooner : count + 1 < steps + 1 ↔ count < steps := Nat.succ_lt_succ_iff
  have there : start.reached (steps + 1) (count + 1) = start.passed.reached steps count := by
    unfold reached
    simp only [sooner, Function.iterate_succ_apply]
  unfold walked
  simp only [there, sooner]
  rfl

/-- **A walk passes states until it stops.** -/
theorem exists_stops (steps : ℕ) (start : Kinematics α) :
    ∃ count, start.Stops steps count ∧ project steps start = start.walked steps count := by
  induction steps generalizing start with
  | zero => exact ⟨0, ⟨le_rfl, nofun, nofun⟩, rfl⟩
  | succ steps ih =>
    by_cases lifts : start.Lifts
    · exact ⟨0, ⟨Nat.zero_le _, nofun, fun _ => lifts⟩, project_of_lifts lifts steps⟩
    · obtain ⟨count, stops, same⟩ := ih start.passed
      refine ⟨count + 1, ⟨Nat.succ_le_succ stops.le, ?_, ?_⟩, ?_⟩
      · intro k before
        cases k with
        | zero => exact lifts
        | succ k => exact stops.passes k (Nat.lt_of_succ_lt_succ before)
      · exact fun ended => stops.lifts (Nat.lt_of_succ_lt_succ ended)
      · rw [project_of_passes lifts, same, walked_succ]

/-- Every sample on the way is that of a state that is passed. -/
theorem exists_of_mem_samples {start : Kinematics α} {steps : ℕ} {coords : Coords α}
    (member : coords ∈ (project steps start).samples) :
    ∃ before : Kinematics α, ¬ before.Lifts ∧ coords = before.passed.sample := by
  obtain ⟨count, stops, same⟩ := exists_stops steps start
  rw [same] at member
  obtain ⟨state, passed, rfl⟩ := List.mem_map.mp member
  obtain ⟨before, passes, rfl⟩ := stops.exists_of_mem_path passed
  exact ⟨before, passes, rfl⟩

theorem length_walked (start : Kinematics α) (steps count : ℕ) :
    (start.walked steps count).samples.length = count := by
  rw [walked, List.length_map, length_path]

/-- **A walk of fewer steps is the beginning of a longer one.** -/
theorem prefix_project (start : Kinematics α) {near far : ℕ} (le : near ≤ far) :
    (project near start).samples <+: (project far start).samples := by
  obtain ⟨count, stops, short⟩ := exists_stops near start
  obtain ⟨more, longer, long⟩ := exists_stops far start
  rw [short, long]
  exact (prefix_path start (stops.count_le longer le)).map sample

/-- **A walk that ended at a lift** is the same for any more steps. -/
theorem project_of_lifted {start : Kinematics α} {near far : ℕ} (le : near ≤ far)
    (lifted : (project near start).lifted = true) : project far start = project near start := by
  obtain ⟨count, stops, short⟩ := exists_stops near start
  obtain ⟨more, longer, long⟩ := exists_stops far start
  rw [short] at lifted ⊢
  have ended : count < near := of_decide_eq_true lifted
  rw [long, stops.count_eq longer le ended]
  have further : count < far := ended.trans_le le
  simp only [walked, reached, ended, further]

/-- A walk that ended at a lift has the pressure of the lift. -/
theorem pressure_of_lifted {start : Kinematics α} {steps : ℕ}
    (lifted : (project steps start).lifted = true) :
    (project steps start).pressure < (liftOffPressure : α) := by
  obtain ⟨count, stops, same⟩ := exists_stops steps start
  rw [same] at lifted ⊢
  have ended : count < steps := of_decide_eq_true lifted
  rw [walked, reached, if_pos ended]
  exact stops.lifts ended

/-- A walk that took all its steps ends in the state that it passed last. -/
theorem reached_of_not_lifted {start : Kinematics α} {steps : ℕ}
    (took : (project steps start).lifted = false) :
    (project steps start).position = (passed^[steps] start).position ∧
      (project steps start).pressure = (passed^[steps] start).pressure := by
  obtain ⟨count, stops, same⟩ := exists_stops steps start
  rw [same] at took ⊢
  have all : ¬ count < steps := of_decide_eq_false took
  obtain rfl : count = steps := le_antisymm stops.le (not_lt.mp all)
  rw [walked, reached, if_neg all]
  exact ⟨rfl, rfl⟩

end Kinematics

/-! ### The walk in double precision -/

namespace Kinematics

open Double

/-- **A state that is passed has a pressure between that of a lift and one**, since a pressure that
is not a number is cut off to one. -/
theorem pressure_passed {state : Kinematics Float} (passes : ¬ state.Lifts) :
    0.1 ≤ state.passed.pressure ∧ state.passed.pressure ≤ 1 := by
  have floor : (0.1 : Float) ≤ 1 := by decide
  have ceiling : (1 : Float) ≤ 1 := by decide
  show 0.1 ≤ Scalar.min state.advance.pressure 1 ∧ Scalar.min state.advance.pressure 1 ≤ 1
  unfold Scalar.min
  split
  · exact ⟨floor, ceiling⟩
  · rename_i within
    rw [Bool.or_eq_true, not_or, decide_eq_true_iff] at within
    have number : state.advance.pressure.isNaN = false := Bool.eq_false_iff.mpr within.1
    exact ⟨le_of_not_lt number rfl passes, le_of_not_lt not_isNaN_one number within.2⟩

end Kinematics

/-- **A walk of fewer steps is the beginning of a longer one, and no pressure on the way is out of
range**, whatever the state is that it starts from. A walk passes at most as many states as steps are
asked for, and fewer if and only if it ends at a lift. Before a sample is rounded to single precision
its pressure lies between 0.1 and one. A walk that ends at a lift has a pressure below 0.1 there, and
more steps do not change it. Every other walk ends where it passed the last state, or where it starts
if it takes no step. -/
theorem project_isPrefixStable (start : Kinematics Float) {near far : ℕ} (le : near ≤ far) :
    let short := project near start
    let long := project far start
    let passed := start.path long.samples.length
    short.samples <+: long.samples ∧
      long.samples = passed.map Kinematics.sample ∧
      long.samples.length ≤ far ∧
      (long.lifted = true ↔ long.samples.length < far) ∧
      (∀ state ∈ passed, 0.1 ≤ state.pressure ∧ state.pressure ≤ 1) ∧
      (short.lifted = true → short.pressure < 0.1 ∧ long = short) ∧
      (long.lifted = false → 0 < far → ∃ last, passed.getLast? = some last ∧
        long.position = last.position ∧ long.pressure = last.pressure) ∧
      (far = 0 → long.position = start.position ∧ long.pressure = start.pressure) := by
  intro short long passed
  obtain ⟨count, stops, same⟩ := Kinematics.exists_stops far start
  have walked : long = start.walked far count := same
  have length : long.samples.length = count := by
    rw [walked, Kinematics.length_walked]
  have states : passed = start.path count := congrArg start.path length
  rw [length, states]
  refine ⟨Kinematics.prefix_project start le, ?_, stops.le, ?_, ?_, ?_, ?_, ?_⟩
  · rw [walked]
    rfl
  · rw [walked]
    exact decide_eq_true_iff
  · intro state member
    obtain ⟨before, passes, rfl⟩ := stops.exists_of_mem_path member
    exact Kinematics.pressure_passed passes
  · exact fun lifted => ⟨Kinematics.pressure_of_lifted lifted,
      Kinematics.project_of_lifted le lifted⟩
  · intro took positive
    have all : ¬ count < far := by
      rw [walked] at took
      exact of_decide_eq_false took
    obtain rfl : count = far := le_antisymm stops.le (not_lt.mp all)
    obtain ⟨steps, rfl⟩ := Nat.exists_eq_succ_of_ne_zero positive.ne'
    exact ⟨_, start.getLast?_path steps, Kinematics.reached_of_not_lifted took⟩
  · rintro rfl
    exact ⟨rfl, rfl⟩

/-- A pressure that is not a number and falls, at a place that is infinitely far away: one sample is
passed at full pressure and one at half of it, and then the pointer lifts. -/
theorem project_isPrefixStable_falling :
    let start : Kinematics Float := ⟨⟨1 / 0, 0⟩, ⟨1, 2⟩, 0, 0, 0 / 0, -0.5⟩
    let short := project 1 start
    let long := project 4 start
    1 ≤ 4 ∧ short.samples.length = 1 ∧ long.samples.length = 2 ∧ long.lifted = true ∧
      short.samples <+: long.samples ∧ project 9 start = long ∧
      ∀ state ∈ start.path 2, 0.1 ≤ state.pressure ∧ state.pressure ≤ 1 := by
  intro start short long
  have one : short.samples.length = 1 := by decide +kernel
  have two : long.samples.length = 2 := by decide +kernel
  obtain ⟨begins, _, _, lifted, bounds, _⟩ := project_isPrefixStable start (show 1 ≤ 4 by decide)
  obtain ⟨_, _, _, _, _, same, _⟩ := project_isPrefixStable start (show 4 ≤ 9 by decide)
  have ended : long.lifted = true := lifted.mpr (by rw [two]; decide)
  rw [two] at bounds
  exact ⟨by decide, one, two, ended, begins, (same ended).2, bounds⟩

end PointerForecast
