/-
**A prediction does not know where it takes place.**

In exact arithmetic, let every observation be moved by the same vector. The gain of a filter depends
on how many samples there were and on nothing that was observed, so the filter of an axis follows the
moved coordinates as it followed the others: its position is moved, and its rates of change are the
same. The extrapolation takes differences of positions. All decisions are made by rates of change,
times and pressures, and a prediction starts from the position accepted last; so every predicted sample
is moved too. Before any sample was accepted a prediction starts from the origin, which is not moved.

* `ChannelModel.KeepsPlace`, `Channel.follow_raise`: **a filter and the moved measurements**, one sample.
* `Estimator.Follows.absorb`: the filters of a pointer, one sample.
* `translation_rigid`, `translation_steady`: a translation is a motion of the plane.
* `Predictor.translation_isFollowed`: **any command, after any others.**

Nothing is asked of the noises: both runs divide by the same variances.
-/

import PointerForecast.Proofs.Exact.Covariance
import PointerForecast.Proofs.RigidMotion

namespace PointerForecast

/-! ### Moved filters -/

/-- A model in which the position makes no other state change, and stays itself. -/
def ChannelModel.KeepsPlace {n : ℕ} (model : ChannelModel ℝ (n + 1)) : Prop :=
  ∀ i, model.transition i 0 = if i = 0 then 1 else 0

theorem Noise.keepsPlace_axisModel (noise : Noise ℝ) : (axisModel noise).KeepsPlace := by
  intro i
  fin_cases i <;> rfl

namespace Channel

variable {n : ℕ} {model : ChannelModel ℝ (n + 1)}

/-- The channel with its observed state raised. -/
noncomputable def raise (channel : Channel ℝ (n + 1)) (offset : ℝ) : Channel ℝ (n + 1) :=
  { channel with
    state := .ofFn fun i j => channel.state i j + if i = 0 then offset else 0 }

theorem state_raise (channel : Channel ℝ (n + 1)) (offset : ℝ) (i : Fin (n + 1)) (j : Fin 1) :
    (channel.raise offset).state i j = channel.state i j + if i = 0 then offset else 0 := by
  rw [raise, Mat.ofFn_apply]

theorem component_raise (channel : Channel ℝ (n + 1)) (offset : ℝ) (i : Fin (n + 1)) :
    (channel.raise offset).component i = channel.component i + if i = 0 then offset else 0 :=
  state_raise channel offset i 0

theorem seed_raise (channel : Channel ℝ (n + 1)) (measurement offset : ℝ) :
    channel.seed (measurement + offset) = (channel.seed measurement).raise offset := by
  refine Channel.ext (Mat.ext fun i j => ?_) rfl
  rw [state_raise, seed, seed, Mat.ofFn_apply, Mat.ofFn_apply]
  by_cases first : i = 0 <;> simp [first, Fin.val_eq_zero_iff]

theorem propagate_raise (keeps : model.KeepsPlace) (channel : Channel ℝ (n + 1)) (offset : ℝ) :
    (channel.raise offset).propagate model = (channel.propagate model).raise offset := by
  refine Channel.ext (Mat.ext fun i j => ?_) rfl
  simp only [propagate, state_raise, Mat.mul_apply, Scalar.sum_ofFn, mul_add,
    Finset.sum_add_distrib]
  -- The offset meets the first column of the transition, which is that of the identity.
  simp [keeps i]

theorem correct_raise (channel : Channel ℝ (n + 1)) (measurement offset : ℝ) :
    (channel.raise offset).correct model (measurement + offset) =
      (channel.correct model measurement).raise offset := by
  have innovation : measurement + offset - (channel.raise offset).observed =
      measurement - channel.observed := by
    rw [observed_eq, observed_eq, component_raise, if_pos rfl, add_sub_add_right_eq_sub]
  -- The gain is made of the covariance, which no measurement enters.
  have gain : (channel.raise offset).gain model = channel.gain model := rfl
  refine Channel.ext (Mat.ext fun i j => ?_) rfl
  rw [correct_state, state_raise, state_raise, correct_state, innovation, gain, add_right_comm]

/-- **One sample** of a filter and of the moved one. -/
theorem follow_raise (keeps : model.KeepsPlace) (channel : Channel ℝ (n + 1))
    (measurement offset : ℝ) :
    (channel.raise offset).follow model (measurement + offset) =
      (channel.follow model measurement).raise offset := by
  unfold follow
  rw [propagate_raise keeps, correct_raise]

end Channel

/-! ### Moved observations -/

/-- The coordinates moved by a vector. -/
noncomputable def Coords.translate (offset : Planar ℝ) (coords : Coords ℝ) : Coords ℝ :=
  ⟨coords.x + offset.x, coords.y + offset.y, coords.pressure⟩

/-- The command with what is observed moved by a vector. -/
noncomputable def Command.translate (offset : Planar ℝ) : Command ℝ → Command ℝ :=
  onEvent (.moved id (.translate offset))

/-- What becomes of a predicted sample: it is moved, unless no position is known. -/
noncomputable def Coords.translateIf (known : Bool) (offset : Planar ℝ) : Coords ℝ → Coords ℝ :=
  if known then translate offset else id

/-- An observation stands for the one moved by a vector, and so does a predicted sample, once a
position is known. -/
noncomputable def translation (offset : Planar ℝ) : Correspondence ℝ where
  seen moment other := other.time = moment.time ∧ other.coords = moment.coords.translate offset
  placed known := .translateIf known offset

theorem MotionEvent.corresponds_translate (offset : Planar ℝ) (event : MotionEvent ℝ) :
    event.Corresponds (translation offset).seen (event.moved id (.translate offset)) :=
  corresponds_moved fun _ _ _ _ => ⟨rfl, rfl⟩

theorem translation_steady (offset : Planar ℝ) : (translation offset).Steady where
  gap last now := by rw [last.1, now.1]
  rests last now := by
    rw [last.2, now.2]
    refine congrArg₂ (· && ·) ?_ ?_
    · exact decide_eq_decide.mpr (add_left_inj offset.x)
    · exact decide_eq_decide.mpr (add_left_inj offset.y)

theorem translation_rigid (offset : Planar ℝ) : (translation offset).Rigid id
    fun known position => if known then position + offset else position where
  zero := rfl
  add _ _ := rfl
  sub _ _ := rfl
  scale _ _ := rfl
  div _ _ := rfl
  norm _ := rfl
  origin := rfl
  carry_add known p v := by
    cases known with
    | false => rfl
    | true => exact Planar.ext (add_right_comm p.x v.x offset.x) (add_right_comm p.y v.y offset.y)
  carry_sub known p q := by
    cases known with
    | false => rfl
    | true =>
      exact Planar.ext (add_sub_add_right_eq_sub p.x q.x offset.x)
        (add_sub_add_right_eq_sub p.y q.y offset.y)
  position now := by
    unfold Moment.position
    rw [now.2]
    rfl
  pressure now := by rw [now.2, Coords.translate]
  placed known _ _ := by cases known <;> rfl

/-! ### The filter -/

namespace Estimator

/-- The estimator with its position moved by a vector. -/
noncomputable def translate (offset : Planar ℝ) (estimator : Estimator ℝ) : Estimator ℝ :=
  { estimator with x := estimator.x.raise offset.x, y := estimator.y.raise offset.y }

/-- An estimator and the one that saw the same moved by a vector. Before the first sample they are
the same. -/
def Follows (offset : Planar ℝ) (first second : Estimator ℝ) : Prop :=
  second = if first.count = 0 then first else first.translate offset

variable {offset : Planar ℝ} {first second : Estimator ℝ}

theorem Follows.count (follows : first.Follows offset second) : second.count = first.count := by
  rw [follows]
  split <;> rfl

/-- **One sample** of the filters and of the moved ones. -/
theorem Follows.absorb (noise : Noise ℝ) (follows : first.Follows offset second)
    (sample : Coords ℝ) :
    (first.absorb noise sample).Follows offset (second.absorb noise (sample.translate offset)) := by
  unfold Follows at follows ⊢
  by_cases fresh : first.count = 0
  · -- The first sample places the positions; from then on one follows the other at a distance.
    rw [if_pos fresh] at follows
    subst follows
    rw [Estimator.absorb, Estimator.absorb, if_pos fresh, if_pos fresh, if_neg Nat.one_ne_zero]
    exact Estimator.ext (Channel.seed_raise _ _ _) (Channel.seed_raise _ _ _) rfl rfl
  · have known : ¬(first.translate offset).count = 0 := fresh
    rw [if_neg fresh] at follows
    subst follows
    rw [Estimator.absorb, Estimator.absorb, if_neg fresh, if_neg known,
      if_neg (Nat.succ_ne_zero first.count)]
    exact Estimator.ext (Channel.follow_raise noise.keepsPlace_axisModel _ _ _)
      (Channel.follow_raise noise.keepsPlace_axisModel _ _ _) rfl rfl

theorem Follows.kinematics (follows : first.Follows offset second) :
    first.kinematics.Turned id second.kinematics := by
  rw [follows]
  split
  · exact ⟨rfl, rfl, rfl, rfl, rfl⟩
  · have rates (i : Fin 4) (moves : i ≠ 0) (channel : Channel ℝ 4) (offset : ℝ) :
        (channel.raise offset).component i = channel.component i := by
      rw [Channel.component_raise, if_neg moves, add_zero]
    constructor <;>
      simp only [Estimator.kinematics, translate, id, rates 1 (by decide), rates 2 (by decide),
        rates 3 (by decide)]

end Estimator

theorem kalman_carries_translation (noise : Noise ℝ) (offset : Planar ℝ) :
    (kalman noise).Carries (translation offset)
      (Tracker.Corresponds (translation offset) (Estimator.Follows offset)) := by
  refine kalman_carries noise (translation_rigid offset) rfl ?_ ?_ ?_
  · intro first second follows moment other now
    rw [now.2]
    exact follows.absorb noise moment.coords
  · exact fun follows => follows.count
  · exact fun follows => follows.kinematics

/-! ### Runs -/

instance : Scalar.HoldsRates ℝ where
  isUsable := by
    intro milliseconds positive
    have above := Int32.lt_iff_toInt_lt.mp positive
    rw [Int32.toInt_zero] at above
    have greater : (0 : ℝ) < (milliseconds.toInt : ℝ) := Int.cast_pos.mpr above
    exact Bool.and_eq_true_iff.mpr ⟨rfl, decide_eq_true greater⟩

/-- **Sessions that see the same moved by a vector**, if the strategy carries that over. -/
theorem Session.serve_translate {M : Type} {strategy : Strategy ℝ M} {memory : M → M → Prop}
    {offset : Planar ℝ} (carries : strategy.Carries (translation offset) memory)
    {settings : PredictorSettings ℝ} {session : Session ℝ M}
    (built : Predictor.configure settings strategy = .ok session) {commands : List (Command ℝ)}
    (answered : ∀ command ∈ commands, command.isPad = false) :
    let here := stateAfter (serve strategy) session commands
    let there := stateAfter (serve strategy) session (commands.map (.translate offset))
    here.Corresponds strategy (translation offset) memory there ∧
      ∀ command : Command ℝ, command.isPad = false →
        (there.serve strategy (command.translate offset)).2 =
          (here.serve strategy command).2.map (.translateIf (here.last strategy).isSome offset) := by
  intro here there
  have sound := rateIsGiven_configure built
  have changes := MotionEvent.corresponds_translate offset
  have steady := translation_steady offset
  have both : here.Corresponds strategy (translation offset) memory there :=
    (Corresponds.configured carries built).stateAfter carries steady sound changes answered
  exact ⟨both, fun command asked =>
    (both.serve carries steady (rateIsGiven_stateAfter sound commands) changes asked).2⟩

namespace Predictor

/-- The sample of the current stroke that was accepted last. -/
def last {α : Type} [Scalar α] : Predictor α → Option (Moment α)
  | .kalman noise session => session.last (PointerForecast.kalman noise)
  | .linear tuning session => session.last (PointerForecast.linear tuning)

/-- **A prediction does not know where it takes place.** A predictor that is told and asked the same,
with all observations moved by a vector, answers any further command as before, but for predicted
samples: once a sample was accepted in the current stroke, every one of them is moved by the same
vector. The same events are handled, and predictions are of the same pointer, length and pressures.
What it knows of the report rate stays the same, and so does its setup. -/
theorem translation_isFollowed {settings : PredictorSettings ℝ} {start : Predictor ℝ}
    (built : ofSettings settings = .ok start) (offset : Planar ℝ) {commands : List (Command ℝ)}
    (answered : ∀ command ∈ commands, command.isPad = false) :
    let here := stateAfter serve start commands
    let there := stateAfter serve start (commands.map (.translate offset))
    there.rate = here.rate ∧ there.setup = here.setup ∧
      ∀ command : Command ℝ, command.isPad = false →
        (there.serve (command.translate offset)).2 =
          (here.serve command).2.map (.translateIf here.last.isSome offset) := by
  intro here there
  rcases ofSettings_eq_ok built with ⟨_, session, configured, rfl⟩ | ⟨_, session, configured, rfl⟩
  · obtain ⟨both, answers⟩ :=
      Session.serve_translate (kalman_carries_translation _ offset) configured answered
    simp only [here, there, (wraps_kalman _).stateAfter, (wraps_kalman _).serve]
    exact ⟨both.rate, both.setup, answers⟩
  · obtain ⟨both, answers⟩ := Session.serve_translate
      (linear_carries _ (translation_rigid offset) (translation_steady offset)) configured answered
    simp only [here, there, (wraps_linear _).stateAfter, (wraps_linear _).serve]
    exact ⟨both.rate, both.setup, answers⟩

/-- A stroke of two samples and the same one a thousand units away, at a given rate: the prediction is
as far away. -/
theorem translation_isFollowed_faraway :
    let settings : PredictorSettings ℝ := .usual
    let offset : Planar ℝ := ⟨1000, -20⟩
    let commands : List (Command ℝ) :=
      [.setRate 8, .observe ⟨.down, [3], [⟨0, [⟨1, 7, 0.5⟩]⟩, ⟨8, [⟨4, 7, 0.5⟩]⟩]⟩]
    ∃ start, ofSettings settings = .ok start ∧
      (∀ command ∈ commands, command.isPad = false) ∧
      ((stateAfter serve start (commands.map (.translate offset))).serve .predict).2 =
        ((stateAfter serve start commands).serve .predict).2.map (.translate offset) := by
  intro settings offset commands
  obtain ⟨start, built, kept⟩ : ∃ start, ofSettings settings = .ok start ∧
      (stateAfter serve start commands).last.isSome = true := by
    refine ⟨_, rfl, ?_⟩
    let strategy := PointerForecast.kalman (.ink : Noise ℝ)
    show ((Session.take strategy (Session.accept strategy _ _) _).last strategy).isSome = true
    unfold Session.take
    split <;> rfl
  have answered : ∀ command ∈ commands, command.isPad = false := by
    simp [commands, Command.isPad]
  have moved := (translation_isFollowed built offset answered).2.2 .predict rfl
  rw [kept] at moved
  exact ⟨start, built, answered, moved⟩

end Predictor

end PointerForecast
