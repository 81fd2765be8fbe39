/-
**The two strategies run in lockstep.**

Two sessions, one with the kinematic estimate and one that extrapolates, are started and given the
same commands. Whatever the tunings, they track the same pointer, have the same target and the same
report rate, and accept the same observations. The one that filters keeps the sample accepted last
beside its estimate. The one that extrapolates reads it off its history, which holds as many samples as
the other one has counted, up to its depth: the depth is never so small that it would forget all of
them.

* `Lockstep`: the relation between the two sessions.
* `Outcome.Agrees`: what their answers have in common.
* `Lockstep.accept`: **one sample**; `Lockstep.apply`: **one command**.
* `lockstep_stateAfter`: **any run.**
-/

import PointerForecast.Command
import PointerForecast.Strategy.Kalman
import PointerForecast.Strategy.Linear
import PointerForecast.Proofs.Acceptance
import PointerForecast.Proofs.Run
import Mathlib.Data.List.Forall2

namespace PointerForecast

variable {α : Type} [Scalar α]

/-! ### What one sample adds to each memory -/

theorem Estimator.count_absorb (noise : Noise α) (estimator : Estimator α) (sample : Coords α) :
    (estimator.absorb noise sample).count = estimator.count + 1 := by
  unfold absorb
  by_cases first : estimator.count = 0
  · rw [if_pos first, first]
  · rw [if_neg first]

theorem Tracker.count_absorb (noise : Noise α) (tracker : Tracker α) (moment : Moment α) :
    (tracker.absorb noise moment).count = tracker.count + 1 :=
  Estimator.count_absorb noise tracker.toEstimator moment.coords

namespace Motion

theorem length_absorb (tuning : LinearTuning α) (motion : Motion α) (moment : Moment α) :
    (motion.absorb tuning moment).history.length =
      min (depth tuning) (motion.history.length + 1) := by
  show ((moment :: motion.history).take (depth tuning)).length = _
  rw [List.length_take, List.length_cons]

end Motion

/-! ### The relation -/

/-- What a session that filters and a session that extrapolates have in common. -/
structure Lockstep (tuning : LinearTuning α) (filtering : Session α (Tracker α))
    (extrapolating : Session α (Motion α)) : Prop where
  /-- They track the same pointer. -/
  pointer : extrapolating.pointer = filtering.pointer
  /-- They have the same target. -/
  target : extrapolating.target = filtering.target
  /-- They know the same about the report rate. -/
  rate : extrapolating.rate = filtering.rate
  /-- They accepted the same sample last: the latest one of the history is the one kept. -/
  latest : extrapolating.memory.history.head? = filtering.memory.last
  /-- All samples counted are remembered, up to the depth. -/
  remembered : extrapolating.memory.history.length =
    min filtering.memory.count (Motion.depth tuning)

/-- What the answers of the two sessions have in common: everything but the predicted samples. Where
the filter predicts, so does the extrapolation. -/
inductive Outcome.Agrees : Outcome α → Outcome α → Prop where
  /-- Nothing to report. -/
  | done : Agrees .done .done
  /-- The same rate is taken or refused. -/
  | rate (result : Except Fault Unit) : Agrees (.rate result) (.rate result)
  /-- The same event is handled. -/
  | handled (handled : Bool) : Agrees (.handled handled) (.handled handled)
  /-- Both predict, or the filter does not. -/
  | prediction {filtered extrapolated : Option (Prediction α)}
      (follows : filtered.isSome → extrapolated.isSome) :
      Agrees (.prediction filtered) (.prediction extrapolated)

namespace Lockstep

variable (noise : Noise α) {tuning : LinearTuning α} {filtering : Session α (Tracker α)}
  {extrapolating : Session α (Motion α)}

theorem expected? (together : Lockstep tuning filtering extrapolating) :
    extrapolating.expected? = filtering.expected? := by
  unfold Session.expected? Session.targetTime
  rw [together.rate, together.target]

theorem last (together : Lockstep tuning filtering extrapolating) :
    extrapolating.last (linear tuning) = filtering.last (kalman noise) := together.latest

theorem acceptedFrom (together : Lockstep tuning filtering extrapolating) (event : MotionEvent α) :
    extrapolating.acceptedFrom (linear tuning) event =
      filtering.acceptedFrom (kalman noise) event := by
  unfold Session.acceptedFrom
  rw [together.last noise, together.pointer]

/-! ### Samples -/

/-- **One accepted sample.** -/
theorem accept (together : Lockstep tuning filtering extrapolating) (moment : Moment α) :
    Lockstep tuning (filtering.accept (kalman noise) moment)
      (extrapolating.accept (linear tuning) moment) where
  pointer := together.pointer
  target := together.target
  rate := by
    unfold Session.accept
    rw [together.last noise, together.rate]
  latest := Motion.head?_absorb tuning extrapolating.memory moment
  remembered := by
    show (extrapolating.memory.absorb tuning moment).history.length =
      min (filtering.memory.absorb noise moment).count (Motion.depth tuning)
    rw [Motion.length_absorb, Tracker.count_absorb, together.remembered]
    omega

theorem foldl_accept (together : Lockstep tuning filtering extrapolating)
    (moments : List (Moment α)) :
    Lockstep tuning (moments.foldl (Session.accept (kalman noise)) filtering)
      (moments.foldl (Session.accept (linear tuning)) extrapolating) := by
  induction moments generalizing filtering extrapolating with
  | nil => exact together
  | cons moment rest ih => exact ih (together.accept noise moment)

/-! ### Strokes and events -/

theorem clear (together : Lockstep tuning filtering extrapolating) :
    Lockstep tuning (filtering.clear (kalman noise)) (extrapolating.clear (linear tuning)) where
  pointer := together.pointer
  target := together.target
  rate := together.rate
  latest := rfl
  remembered := (Nat.zero_min _).symm

theorem observe (together : Lockstep tuning filtering extrapolating) (event : MotionEvent α) :
    Lockstep tuning (filtering.observe (kalman noise) event).1
        (extrapolating.observe (linear tuning) event).1 ∧
      (extrapolating.observe (linear tuning) event).2 =
        (filtering.observe (kalman noise) event).2 := by
  unfold Session.observe
  rw [together.pointer]
  by_cases cancelled : event.isCancel = true
  · rw [if_pos cancelled, if_pos cancelled]
    exact ⟨together.clear noise, rfl⟩
  · rw [if_neg cancelled, if_neg cancelled]
    cases event.trackOf filtering.pointer with
    | none => exact ⟨together, rfl⟩
    | some moments =>
      refine ⟨?_, rfl⟩
      show Lockstep tuning (moments.foldl (Session.take (kalman noise)) filtering)
        (moments.foldl (Session.take (linear tuning)) extrapolating)
      rw [Session.foldl_take, Session.foldl_take, together.last noise]
      exact together.foldl_accept noise _

/-! ### Predictions -/

/-- The extrapolation needs fewer samples than the filter. -/
theorem isReady (together : Lockstep tuning filtering extrapolating)
    (converged : (kalman noise).isReady filtering.memory = true) :
    (linear tuning).isReady extrapolating.memory = true := by
  have counted : Estimator.warmUp ≤ filtering.memory.count := of_decide_eq_true converged
  have least := Motion.leastHistory_le_depth tuning
  refine decide_eq_true (?_ : Motion.leastHistory ≤ extrapolating.memory.history.length)
  rw [together.remembered]
  unfold Estimator.warmUp Motion.leastHistory at *
  omega

theorem canPredict (together : Lockstep tuning filtering extrapolating)
    (ready : filtering.canPredict (kalman noise) = true) :
    extrapolating.canPredict (linear tuning) = true := by
  unfold Session.canPredict at ready ⊢
  rw [together.expected?, together.rate]
  obtain ⟨known, usable⟩ := Bool.and_eq_true_iff.mp ready
  refine Bool.and_eq_true_iff.mpr ⟨Bool.or_eq_true_iff.mpr ?_, usable⟩
  rcases Bool.or_eq_true_iff.mp known with expecting | converged
  · exact Or.inl expecting
  · exact Or.inr (together.isReady noise converged)

theorem predict (together : Lockstep tuning filtering extrapolating) :
    Lockstep tuning (filtering.predict (kalman noise)).1
        (extrapolating.predict (linear tuning)).1 ∧
      ((filtering.predict (kalman noise)).2.isSome →
        (extrapolating.predict (linear tuning)).2.isSome) := by
  unfold Session.predict
  by_cases ready : filtering.canPredict (kalman noise) = true
  · rw [if_pos ready, if_pos (together.canPredict noise ready)]
    exact ⟨{ together with }, fun _ => rfl⟩
  · rw [if_neg ready]
    refine ⟨?_, fun predicted => by cases predicted⟩
    split <;> exact { together with }

theorem isSome_pad (together : Lockstep tuning filtering extrapolating)
    (prediction : Option (Prediction α)) :
    (extrapolating.pad (linear tuning) prediction).isSome =
      (filtering.pad (kalman noise) prediction).isSome := by
  unfold Session.pad
  rw [together.expected?]
  cases filtering.expected? with
  | none => rfl
  | some expected =>
    dsimp only
    split <;> rfl

/-! ### Commands -/

/-- **One command.** -/
theorem apply (together : Lockstep tuning filtering extrapolating) (command : Command α) :
    Lockstep tuning (filtering.apply (kalman noise) command).1
        (extrapolating.apply (linear tuning) command).1 ∧
      Outcome.Agrees (filtering.apply (kalman noise) command).2
        (extrapolating.apply (linear tuning) command).2 := by
  cases command with
  | setTarget milliseconds => exact ⟨{ together with target := rfl }, .done⟩
  | setRate milliseconds =>
    unfold Session.apply Session.answer Session.setRate
    by_cases refused : milliseconds ≤ 0
    · simp only [if_pos refused]
      exact ⟨together, .rate _⟩
    · simp only [if_neg refused]
      exact ⟨{ together with rate := rfl }, .rate _⟩
  | beginStroke pointer => exact ⟨{ together.clear noise with pointer := rfl }, .done⟩
  | observe event =>
    obtain ⟨next, same⟩ := together.observe noise event
    refine ⟨next, ?_⟩
    show Outcome.Agrees (.handled (filtering.observe (kalman noise) event).2)
      (.handled (extrapolating.observe (linear tuning) event).2)
    rw [same]
    exact .handled _
  | predict =>
    obtain ⟨next, follows⟩ := together.predict noise
    exact ⟨next, .prediction follows⟩
  | pad prediction =>
    exact ⟨together, .prediction fun padded => (together.isSome_pad noise prediction).trans padded⟩

theorem run (together : Lockstep tuning filtering extrapolating) (commands : List (Command α)) :
    Lockstep tuning (stateAfter (Session.apply (kalman noise)) filtering commands)
        (stateAfter (Session.apply (linear tuning)) extrapolating commands) ∧
      List.Forall₂ Outcome.Agrees (answersTo (Session.apply (kalman noise)) filtering commands)
        (answersTo (Session.apply (linear tuning)) extrapolating commands) := by
  induction commands generalizing filtering extrapolating with
  | nil => exact ⟨together, .nil⟩
  | cons command rest ih =>
    obtain ⟨next, agrees⟩ := together.apply noise command
    obtain ⟨final, others⟩ := ih next
    exact ⟨final, .cons agrees others⟩

theorem start (noise : Noise α) (tuning : LinearTuning α) :
    Lockstep tuning (Session.start (kalman noise)) (Session.start (linear tuning)) where
  pointer := rfl
  target := rfl
  rate := rfl
  latest := rfl
  remembered := (Nat.zero_min _).symm

end Lockstep

/-- **The two strategies run in lockstep.** After the same commands, whatever the tunings, two fresh
sessions have in common what `Lockstep` says, expect equally many samples and have given agreeing
answers; and any event now makes both accept the same observations. -/
theorem lockstep_stateAfter (noise : Noise α) (tuning : LinearTuning α)
    (commands : List (Command α)) :
    let filtering :=
      stateAfter (Session.apply (kalman noise)) (Session.start (kalman noise)) commands
    let extrapolating :=
      stateAfter (Session.apply (linear tuning)) (Session.start (linear tuning)) commands
    Lockstep tuning filtering extrapolating ∧
      extrapolating.expected? = filtering.expected? ∧
      List.Forall₂ Outcome.Agrees
        (answersTo (Session.apply (kalman noise)) (Session.start (kalman noise)) commands)
        (answersTo (Session.apply (linear tuning)) (Session.start (linear tuning)) commands) ∧
      ∀ event,
        let moments := filtering.acceptedFrom (kalman noise) event
        filtering.Accepts (kalman noise) event moments ∧
          extrapolating.Accepts (linear tuning) event moments := by
  intro filtering extrapolating
  obtain ⟨together, agree⟩ := (Lockstep.start noise tuning).run noise commands
  refine ⟨together, together.expected?, agree, fun event => ⟨?_, ?_⟩⟩
  · exact filtering.observe_accepts (kalman noise) event
  · rw [← together.acceptedFrom noise event]
    exact extrapolating.observe_accepts (linear tuning) event

end PointerForecast
