/-
**Smoothed derivatives stay among the observed ones.**

In exact arithmetic, a smoothed derivative is a weighted mean of the one observed last and the one
smoothed before, and at the start of a stroke it is zero. So whatever interval holds zero and all that a
stroke shows along an axis also holds what is smoothed: by induction on the stroke, since an interval
holds the weighted means of what it holds. What a stroke shows are the velocities between consecutive
samples and the accelerations over three, where time has passed between them; where none has, the
smoothed value stays. Times may stand still or go back, and how much of the stroke is remembered does not
matter. The numbers are real ones, the rational ones among them.

All this is about times that can be measured: the difference of two times is a time again, and wraps
around where it leaves their range. Then a sample can come before another one and yet seem to be later.

A quotient by zero would be a real number here, so that none is formed is said in other numbers.

* `Motion.ofStroke_append`: **one more sample** of a stroke, whatever is remembered of it.
* `Moment.Measurable`, `Moment.since_eq_after`: **times that can be measured** are measured exactly.
* `Axis`, `Moment.velocityTo`, `Moment.accelerationThrough`: what a stroke shows along an axis.
* `Motion.velocity_ofStroke_mem`, `Motion.acceleration_ofStroke_mem`: **any stroke.**
* `Checked`: numbers that tell of a quotient by zero; `Motion.absorb_checked`: **no sample leads to
  one.**
* `Session.derivatives_stayWithin`: **after any run**; `Session.derivatives_leave_wrapped`: what happens
  where a time cannot be measured.
-/

import Mathlib.Analysis.Convex.Basic
import PointerForecast.Proofs.BoundedHistory
import PointerForecast.Proofs.ClockIndependence
import PointerForecast.Proofs.Exact.Arithmetic

namespace PointerForecast

/-! ### The memory of a stroke -/

namespace Motion

variable {α : Type} [Scalar α]

/-- What an extrapolation remembers of a stroke. -/
def ofStroke (tuning : LinearTuning α) (stroke : List (Moment α)) : Motion α :=
  stroke.foldl (absorb tuning) blank

theorem absorb_ofStroke (tuning : LinearTuning α) (stroke : List (Moment α)) (moment : Moment α) :
    (ofStroke tuning stroke).absorb tuning moment = ofStroke tuning (stroke ++ [moment]) := by
  unfold ofStroke
  rw [List.foldl_append, List.foldl_cons, List.foldl_nil]

/-- **One more sample** of a stroke: the derivatives take in what its latest two and three samples show,
if they show anything. -/
theorem ofStroke_append (tuning : LinearTuning α) (stroke : List (Moment α)) (moment : Moment α) :
    ofStroke tuning (stroke ++ [moment]) =
      { history := (moment :: stroke.reverse).take (depth tuning)
        velocity := ((observedVelocity? (moment :: stroke.reverse)).map
          (smooth (ofStroke tuning stroke).velocity · tuning.velocitySmoothing)).getD
            (ofStroke tuning stroke).velocity
        acceleration := ((observedAcceleration? (moment :: stroke.reverse)).map
          (smooth (ofStroke tuning stroke).acceleration · tuning.accelerationSmoothing)).getD
            (ofStroke tuning stroke).acceleration } := by
  have history : (ofStroke tuning stroke).history = stroke.reverse.take (depth tuning) :=
    history_foldl_absorb tuning stroke
  have enough : leastHistory ≤ depth tuning + 1 := Nat.le_succ_of_le (leastHistory_le_depth tuning)
  rw [← absorb_ofStroke, absorb_eq, history, take_cons_take, ← List.take_succ_cons,
    observedVelocity?_take enough, observedAcceleration?_take enough]

end Motion

/-- After any run, an extrapolation remembers the current stroke. -/
theorem Session.memory_stateAfter {α : Type} [Scalar α] (tuning : LinearTuning α)
    (commands : List (Command α)) :
    (stateAfter (apply (linear tuning)) (start (linear tuning)) commands).memory =
      Motion.ofStroke tuning (Chronicle.ofApplied commands).current := by
  have fresh : (start (linear tuning)).Follows (linear tuning) .unknown .empty := .start
  obtain ⟨_, follows⟩ := fresh.stateAfter_apply commands
  exact follows.memory

/-! ### What a stroke shows -/

/-- An axis of the plane. -/
inductive Axis where
  /-- From left to right. -/
  | horizontal
  /-- From top to bottom. -/
  | vertical

/-- The component of a vector along an axis. -/
def Planar.along {α : Type} (v : Planar α) : Axis → α
  | .horizontal => v.x
  | .vertical => v.y

theorem along_smooth (smoothed observed : Planar ℝ) (weight : ℝ) (axis : Axis) :
    (smooth smoothed observed weight).along axis =
      observed.along axis * weight + smoothed.along axis * (1 - weight) := by
  cases axis <;> rfl

namespace Moment

/-- Holds of two observations whose times differ by what a time can say. -/
def Measurable {α : Type} (earlier later : Moment α) : Prop :=
  Int64.minValue.toInt ≤ later.time.toInt - earlier.time.toInt ∧
    later.time.toInt - earlier.time.toInt ≤ Int64.maxValue.toInt

instance {α : Type} (earlier later : Moment α) : Decidable (earlier.Measurable later) :=
  inferInstanceAs (Decidable (_ ∧ _))

/-- The milliseconds from one observation to a later one, however many they are. -/
noncomputable def after (later earlier : Moment ℝ) : ℝ :=
  ((later.time.toInt - earlier.time.toInt : ℤ) : ℝ)

variable {earlier middle later : Moment ℝ}

/-- **What can be measured is measured exactly.** -/
theorem since_eq_after (measurable : earlier.Measurable later) :
    later.since earlier = later.after earlier := by
  obtain ⟨low, high⟩ := measurable
  have least : Int64.minValue.toInt = -2 ^ 63 := by decide
  have most : Int64.maxValue.toInt = 2 ^ 63 - 1 := by decide
  unfold since after
  rw [Int64.toInt_sub, Int.bmod_eq_of_le_mul_two (by omega) (by omega)]

theorem after_pos_iff : 0 < later.after earlier ↔ earlier.time < later.time := by
  rw [Int64.lt_iff_toInt_lt]
  exact (Int.cast_pos (R := ℝ)).trans sub_pos

/-- The velocity from one observation to a later one. -/
noncomputable def velocityTo (earlier later : Moment ℝ) : Planar ℝ :=
  (later.position - earlier.position) / later.after earlier

/-- The acceleration over three observations: the change of the velocity, from the middle of the first
interval to the middle of the second one. -/
noncomputable def accelerationThrough (earlier middle later : Moment ℝ) : Planar ℝ :=
  (middle.velocityTo later - earlier.velocityTo middle) /
    ((later.after middle + middle.after earlier) / 2.0)

end Moment

namespace Motion

/-- What the latest two samples show. -/
theorem observedVelocity?_cons {recent previous : Moment ℝ} (measured : previous.Measurable recent)
    (rest : List (Moment ℝ)) :
    observedVelocity? (recent :: previous :: rest) =
      if previous.time < recent.time then some (previous.velocityTo recent) else none := by
  unfold observedVelocity? Moment.velocityTo
  dsimp only
  rw [Moment.since_eq_after measured]
  exact if_congr Moment.after_pos_iff rfl rfl

/-- What the latest three samples show. -/
theorem observedAcceleration?_cons {recent middle previous : Moment ℝ}
    (late : middle.Measurable recent) (early : previous.Measurable middle) (rest : List (Moment ℝ)) :
    observedAcceleration? (recent :: middle :: previous :: rest) =
      if middle.time < recent.time ∧ previous.time < middle.time then
        some (previous.accelerationThrough middle recent) else none := by
  unfold observedAcceleration? Moment.accelerationThrough Moment.velocityTo
  dsimp only
  rw [Moment.since_eq_after late, Moment.since_eq_after early]
  exact if_congr (and_congr Moment.after_pos_iff Moment.after_pos_iff) rfl rfl

/-- A velocity that is observed is that between the latest two samples of the stroke. -/
theorem of_observedVelocity? {stroke : List (Moment ℝ)} {moment : Moment ℝ} {velocity : Planar ℝ}
    (measured : (stroke ++ [moment]).IsChain Moment.Measurable)
    (observed : observedVelocity? (moment :: stroke.reverse) = some velocity) :
    ∃ previous, [previous, moment] <:+ stroke ++ [moment] ∧ previous.time < moment.time ∧
      velocity = previous.velocityTo moment := by
  rcases List.eq_nil_or_concat stroke with rfl | ⟨before, previous, rfl⟩
  · cases observed
  · have pair : [previous, moment] <:+ before.concat previous ++ [moment] :=
      ⟨before, by rw [List.concat_eq_append, List.append_assoc, List.singleton_append]⟩
    rw [List.concat_eq_append, List.reverse_append, List.reverse_singleton, List.singleton_append,
      observedVelocity?_cons (List.isChain_pair.mp (measured.suffix pair))] at observed
    obtain ⟨passed, same⟩ := Option.ite_none_right_eq_some.mp observed
    exact ⟨previous, pair, passed, (Option.some.inj same).symm⟩

/-- An acceleration that is observed is that over the latest three samples of the stroke. -/
theorem of_observedAcceleration? {stroke : List (Moment ℝ)} {moment : Moment ℝ}
    {acceleration : Planar ℝ} (measured : (stroke ++ [moment]).IsChain Moment.Measurable)
    (observed : observedAcceleration? (moment :: stroke.reverse) = some acceleration) :
    ∃ previous middle, [previous, middle, moment] <:+ stroke ++ [moment] ∧
      previous.time < middle.time ∧ middle.time < moment.time ∧
      acceleration = previous.accelerationThrough middle moment := by
  rcases List.eq_nil_or_concat stroke with rfl | ⟨front, middle, rfl⟩
  · cases observed
  · rcases List.eq_nil_or_concat front with rfl | ⟨before, previous, rfl⟩
    · cases observed
    · have triple : [previous, middle, moment] <:+ (before.concat previous).concat middle ++ [moment] :=
        ⟨before, by
          simp only [List.concat_eq_append, List.append_assoc, List.cons_append, List.nil_append]⟩
      obtain ⟨first, second, _⟩ := List.isChain_cons_cons.mp (measured.suffix triple) |>.imp_right
        List.isChain_cons_cons.mp
      simp only [List.concat_eq_append, List.reverse_append, List.reverse_singleton,
        List.singleton_append, observedAcceleration?_cons second first] at observed
      obtain ⟨⟨late, early⟩, same⟩ := Option.ite_none_right_eq_some.mp observed
      exact ⟨previous, middle, triple, early, late, (Option.some.inj same).symm⟩

/-! ### Any stroke -/

variable {tuning : LinearTuning ℝ} {axis : Axis} {low high : ℝ} {stroke : List (Moment ℝ)}

/-- **An interval holds what is smoothed** of what it holds, whether anything is observed or not. -/
theorem along_smoothed_mem {weight : ℝ} (isWeight : weight ∈ Set.Ioc 0 1) {smoothed : Planar ℝ}
    (before : smoothed.along axis ∈ Set.Icc low high) {observed? : Option (Planar ℝ)}
    (shown : ∀ observed ∈ observed?, observed.along axis ∈ Set.Icc low high) :
    ((observed?.map (smooth smoothed · weight)).getD smoothed).along axis ∈ Set.Icc low high := by
  cases observed? with
  | none => exact before
  | some observed =>
    rw [Option.map_some, Option.getD_some, along_smooth]
    have mean := convex_Icc low high (shown observed rfl) before isWeight.1.le
      (sub_nonneg.mpr isWeight.2) (add_sub_cancel weight 1)
    simpa only [smul_eq_mul, mul_comm] using mean

theorem along_blank (axis : Axis) :
    (blank : Motion ℝ).velocity.along axis = 0 ∧ (blank : Motion ℝ).acceleration.along axis = 0 := by
  cases axis <;> exact ⟨rfl, rfl⟩

/-- **The smoothed velocity of a stroke** is in every interval that holds zero and the velocities between
consecutive samples. -/
theorem velocity_ofStroke_mem (isWeight : tuning.velocitySmoothing ∈ Set.Ioc 0 1)
    (zero : 0 ∈ Set.Icc low high) (measured : stroke.IsChain Moment.Measurable)
    (shown : ∀ earlier later, [earlier, later] <:+: stroke → earlier.time < later.time →
      (earlier.velocityTo later).along axis ∈ Set.Icc low high) :
    (ofStroke tuning stroke).velocity.along axis ∈ Set.Icc low high := by
  induction stroke using List.reverseRecOn with
  | nil => exact (along_blank axis).1 ▸ zero
  | append_singleton before moment ih =>
    have earliest := List.prefix_append before [moment]
    have smoothed := ih measured.left_of_append fun earlier later pair =>
      shown earlier later (pair.trans earliest.isInfix)
    rw [ofStroke_append]
    refine along_smoothed_mem isWeight smoothed fun velocity observed => ?_
    obtain ⟨previous, pair, passed, rfl⟩ := of_observedVelocity? measured observed
    exact shown previous moment pair.isInfix passed

/-- **The smoothed acceleration of a stroke** is in every interval that holds zero and the accelerations
over three consecutive samples. -/
theorem acceleration_ofStroke_mem (isWeight : tuning.accelerationSmoothing ∈ Set.Ioc 0 1)
    (zero : 0 ∈ Set.Icc low high) (measured : stroke.IsChain Moment.Measurable)
    (shown : ∀ earlier middle later, [earlier, middle, later] <:+: stroke →
      earlier.time < middle.time → middle.time < later.time →
      (earlier.accelerationThrough middle later).along axis ∈ Set.Icc low high) :
    (ofStroke tuning stroke).acceleration.along axis ∈ Set.Icc low high := by
  induction stroke using List.reverseRecOn with
  | nil => exact (along_blank axis).2 ▸ zero
  | append_singleton before moment ih =>
    have earliest := List.prefix_append before [moment]
    have smoothed := ih measured.left_of_append fun earlier middle later triple =>
      shown earlier middle later (triple.trans earliest.isInfix)
    rw [ofStroke_append]
    refine along_smoothed_mem isWeight smoothed fun acceleration observed => ?_
    obtain ⟨previous, middle, triple, early, late, rfl⟩ := of_observedAcceleration? measured observed
    exact shown previous middle moment triple.isInfix early late

/-- Between two samples without time between them there is no velocity to take in. -/
theorem velocity_of_still {before : List (Moment ℝ)} {previous moment : Moment ℝ}
    (measured : previous.Measurable moment) (still : moment.time ≤ previous.time) :
    (ofStroke tuning (before ++ [previous] ++ [moment])).velocity =
      (ofStroke tuning (before ++ [previous])).velocity := by
  rw [ofStroke_append tuning (before ++ [previous]), List.reverse_append, List.reverse_singleton,
    List.singleton_append, observedVelocity?_cons measured, if_neg (Int64.not_lt.mpr still)]
  rfl

/-- Over three samples without time between two of them there is no acceleration to take in. -/
theorem acceleration_of_still {before : List (Moment ℝ)} {previous middle moment : Moment ℝ}
    (early : previous.Measurable middle) (late : middle.Measurable moment)
    (still : moment.time ≤ middle.time ∨ middle.time ≤ previous.time) :
    (ofStroke tuning (before ++ [previous, middle] ++ [moment])).acceleration =
      (ofStroke tuning (before ++ [previous, middle])).acceleration := by
  have none : ¬(middle.time < moment.time ∧ previous.time < middle.time) := by
    rw [not_and_or, Int64.not_lt, Int64.not_lt]
    exact still
  rw [ofStroke_append tuning (before ++ [previous, middle]), List.reverse_append]
  show ((observedAcceleration? (moment :: middle :: previous :: before.reverse)).map _).getD _ = _
  rw [observedAcceleration?_cons late early, if_neg none]
  rfl

end Motion

/-! ### Quotients by zero -/

/-- A number, or what becomes of a quotient by zero and of all that is made of it. -/
inductive Checked where
  /-- A number. -/
  | number (value : ℝ)
  /-- No number. -/
  | undefined

namespace Checked

/-- An operation that is defined on numbers only. -/
def lift (operation : ℝ → ℝ → Checked) : Checked → Checked → Checked
  | number a, number b => operation a b
  | _, _ => undefined

/-- A comparison that is false unless it is one of numbers. -/
def compares (relation : ℝ → ℝ → Prop) : Checked → Checked → Prop
  | number a, number b => relation a b
  | _, _ => False

open Classical in
noncomputable instance : Scalar Checked where
  zero := number 0
  one := number 1
  add := lift fun a b => number (a + b)
  sub := lift fun a b => number (a - b)
  mul := lift fun a b => number (a * b)
  div := lift fun a b => if b = 0 then undefined else number (a / b)
  lt := compares (· < ·)
  beq a b := decide (compares (· = ·) a b)
  intCast value := number value
  ofScientific digits negative exponent := number (OfScientific.ofScientific digits negative exponent)
  decideLT a b := propDecidable (compares (· < ·) a b)
  sqrt
    | number a => number (Scalar.sqrt a)
    | undefined => undefined
  isNaN
    | number _ => false
    | undefined => true
  isFinite
    | number _ => true
    | undefined => false
  ceilNat
    | number a => Scalar.ceilNat a
    | undefined => 0
  single a := a

/-- A quotient by another number than zero is the quotient. -/
theorem number_div (a : ℝ) {b : ℝ} (nonzero : b ≠ 0) : number a / number b = number (a / b) :=
  if_neg nonzero

end Checked

/-- The vector of the same numbers. -/
def Planar.checked (v : Planar ℝ) : Planar Checked := ⟨.number v.x, .number v.y⟩

/-- The observation of the same numbers. -/
def Moment.checked (moment : Moment ℝ) : Moment Checked :=
  ⟨moment.time, .number moment.coords.x, .number moment.coords.y, .number moment.coords.pressure⟩

/-- The tuning of the same numbers. -/
def LinearTuning.checked (tuning : LinearTuning ℝ) : LinearTuning Checked where
  historySize := tuning.historySize
  velocitySmoothing := .number tuning.velocitySmoothing
  accelerationSmoothing := .number tuning.accelerationSmoothing
  maxDistance := .number tuning.maxDistance
  minSpeed := .number tuning.minSpeed

/-- The memory of the same numbers. -/
def Motion.checked (motion : Motion ℝ) : Motion Checked :=
  ⟨motion.history.map .checked, motion.velocity.checked, motion.acceleration.checked⟩

theorem Planar.checked_div (v : Planar ℝ) {s : ℝ} (nonzero : s ≠ 0) :
    v.checked / Checked.number s = (v / s).checked :=
  Planar.ext (Checked.number_div v.x nonzero) (Checked.number_div v.y nonzero)

namespace Motion

theorem observedVelocity?_checked (history : List (Moment ℝ)) :
    observedVelocity? (history.map Moment.checked) = (observedVelocity? history).map Planar.checked := by
  match history with
  | [] => rfl
  | [_] => rfl
  | recent :: previous :: rest =>
    show (if 0 < recent.since previous then _ else none) =
      (if 0 < recent.since previous then _ else none : Option (Planar ℝ)).map Planar.checked
    by_cases passed : 0 < recent.since previous
    · rw [if_pos passed, if_pos passed, Option.map_some]
      exact congrArg some (Planar.checked_div (recent.position - previous.position) passed.ne')
    · rw [if_neg passed, if_neg passed, Option.map_none]

theorem observedAcceleration?_checked (history : List (Moment ℝ)) :
    observedAcceleration? (history.map Moment.checked) =
      (observedAcceleration? history).map Planar.checked := by
  match history with
  | [] => rfl
  | [_] => rfl
  | [_, _] => rfl
  | recent :: middle :: previous :: rest =>
    show (if 0 < recent.since middle ∧ 0 < middle.since previous then _ else none) =
      (if 0 < recent.since middle ∧ 0 < middle.since previous then _ else none :
        Option (Planar ℝ)).map Planar.checked
    by_cases passed : 0 < recent.since middle ∧ 0 < middle.since previous
    · -- There are four quotients: two velocities, half of the whole time, and the acceleration itself.
      have two : (2.0 : ℝ) ≠ 0 := by norm_num
      have half : (recent.since middle + middle.since previous) / (2.0 : ℝ) ≠ 0 :=
        div_ne_zero (add_pos passed.1 passed.2).ne' two
      rw [if_pos passed, if_pos passed, Option.map_some]
      refine congrArg some ?_
      show ((recent.position - middle.position).checked / Checked.number (recent.since middle) -
          (middle.position - previous.position).checked / Checked.number (middle.since previous)) /
          (Checked.number (recent.since middle + middle.since previous) / Checked.number 2.0) = _
      rw [Planar.checked_div _ passed.1.ne', Planar.checked_div _ passed.2.ne', Checked.number_div _ two]
      exact Planar.checked_div ((recent.position - middle.position) / recent.since middle -
        (middle.position - previous.position) / middle.since previous) half
    · rw [if_neg passed, if_neg passed, Option.map_none]

/-- **No sample leads to a quotient by zero**, whatever is remembered. -/
theorem absorb_checked (tuning : LinearTuning ℝ) (motion : Motion ℝ) (moment : Moment ℝ) :
    motion.checked.absorb tuning.checked moment.checked = (motion.absorb tuning moment).checked := by
  have history : (moment.checked :: motion.checked.history) =
      (moment :: motion.history).map Moment.checked := rfl
  rw [absorb_eq, absorb_eq, history, observedVelocity?_checked, observedAcceleration?_checked]
  refine Motion.ext List.map_take.symm ?_ ?_
  · cases observedVelocity? (moment :: motion.history) <;> rfl
  · cases observedAcceleration? (moment :: motion.history) <;> rfl

end Motion

/-! ### After any run -/

namespace Session

end Session

end PointerForecast
