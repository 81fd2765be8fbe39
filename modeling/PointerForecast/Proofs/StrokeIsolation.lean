/-
**A stroke is isolated from what came before it.**

A contact starts a stroke and a cancelled gesture ends one. Either forgets all that strategies
remember and all that was predicted, so of the past only the target and what is known about the
rate go on, and after a cancelled gesture the tracked pointer. With a rate in the settings these two
do not depend on recorded events at all, and a replay falls apart at every contact.

* `Session.record_down_congr`, `Session.record_cancel_congr`: **the event forgets the past.**
* `Predictor.run_down_append`: **a replay falls apart at a contact.**
* `Predictor.stroke_isIsolated`: both, for predictors with the same settings.
-/

import PointerForecast.Scalar.Double
import PointerForecast.Proofs.Setup

namespace PointerForecast

variable {α M : Type} [Scalar α]

/-! ### The events that forget -/

namespace Session

variable (strategy : Strategy α M) {first second : Session α M}

omit [Scalar α] in
theorem beginStroke_congr (target : first.target = second.target) (rate : first.rate = second.rate)
    (pointer : PointerId) :
    first.beginStroke strategy pointer = second.beginStroke strategy pointer := by
  unfold beginStroke clear
  rw [target, rate]

omit [Scalar α] in
theorem clear_congr (pointer : first.pointer = second.pointer)
    (target : first.target = second.target) (rate : first.rate = second.rate) :
    first.clear strategy = second.clear strategy := by
  unfold clear
  rw [pointer, target, rate]

/-- A contact of some pointer forgets the past. -/
theorem record_down_congr (target : first.target = second.target)
    (rate : first.rate = second.rate) {event : MotionEvent α} (down : event.action = .down)
    (touched : event.pointers ≠ []) :
    first.record strategy event = second.record strategy event := by
  obtain ⟨pointer, rest, pointers⟩ := List.exists_cons_of_ne_nil touched
  have begins : Command.pointer? (.observe event) = some pointer := by
    show (if event.action = .down then event.pointers.head? else none) = some pointer
    rw [if_pos down, pointers, List.head?_cons]
  rw [record_eq_observe, record_eq_observe, begins]
  exact congrArg (observe strategy · event) (beginStroke_congr strategy target rate pointer)

/-- A cancelled gesture forgets the past, except for the tracked pointer. -/
theorem record_cancel_congr (pointer : first.pointer = second.pointer)
    (target : first.target = second.target) (rate : first.rate = second.rate)
    {event : MotionEvent α} (cancel : event.action = .cancel) :
    first.record strategy event = second.record strategy event := by
  have goesOn : Command.pointer? (.observe event) = none := by
    show (if event.action = .down then event.pointers.head? else none) = none
    rw [cancel]
    rfl
  have cancelled : event.isCancel = true := by
    unfold MotionEvent.isCancel
    rw [cancel]
    rfl
  rw [record_eq_observe, record_eq_observe, goesOn]
  show first.observe strategy event = second.observe strategy event
  unfold observe
  rw [if_pos cancelled, if_pos cancelled, clear_congr strategy pointer target rate]

end Session

/-! ### Two runs of a predictor -/

namespace Predictor

/-- Holds of two predictors with the same strategy and the same tuning. -/
inductive SameTuning : Predictor α → Predictor α → Prop where
  /-- Both follow the kinematic estimate. -/
  | kalman (noise : Noise α) (first second : Session α (Tracker α)) :
      SameTuning (.kalman noise first) (.kalman noise second)
  /-- Both extrapolate. -/
  | linear (tuning : LinearTuning α) (first second : Session α (Motion α)) :
      SameTuning (.linear tuning first) (.linear tuning second)

/-- A run does not touch the tuning. -/
theorem sameTuning_stateAfter (start : Predictor α) (past other : List (Command α)) :
    SameTuning (stateAfter serve start past) (stateAfter serve start other) := by
  cases start with
  | kalman noise session =>
    rw [stateAfter_kalman, stateAfter_kalman]
    exact .kalman noise _ _
  | linear tuning session =>
    rw [stateAfter_linear, stateAfter_linear]
    exact .linear tuning _ _

variable {first second : Predictor α}

theorem record_down_congr (tuning : SameTuning first second) (target : first.target = second.target)
    (rate : first.rate = second.rate) {event : MotionEvent α} (down : event.action = .down)
    (touched : event.pointers ≠ []) : first.record event = second.record event := by
  unfold record
  cases tuning with
  | kalman noise first second =>
    dsimp only
    rw [Session.record_down_congr (PointerForecast.kalman noise) target rate down touched]
  | linear tuning first second =>
    dsimp only
    rw [Session.record_down_congr (PointerForecast.linear tuning) target rate down touched]

theorem record_cancel_congr (tuning : SameTuning first second)
    (pointer : first.pointer = second.pointer) (target : first.target = second.target)
    (rate : first.rate = second.rate) {event : MotionEvent α} (cancel : event.action = .cancel) :
    first.record event = second.record event := by
  unfold record
  cases tuning with
  | kalman noise first second =>
    dsimp only
    rw [Session.record_cancel_congr (PointerForecast.kalman noise) pointer target rate cancel]
  | linear tuning first second =>
    dsimp only
    rw [Session.record_cancel_congr (PointerForecast.linear tuning) pointer target rate cancel]

/-- What follows an event depends on what recording it led to. -/
theorem answersTo_observe_congr {event : MotionEvent α}
    (same : first.record event = second.record event) (later : List (Command α)) :
    answersTo serve first (.observe event :: later) =
      answersTo serve second (.observe event :: later) := by
  have served : first.serve (.observe event) = second.serve (.observe event) := by
    rw [serve_observe, serve_observe, same]
  unfold answersTo
  rw [served]

theorem run_cons_congr {event : MotionEvent α} (same : first.record event = second.record event)
    (rest : List (MotionEvent α)) : first.run (event :: rest) = second.run (event :: rest) := by
  have steps : engine.step first event = engine.step second event := by
    show first.step event = second.step event
    rw [step_eq, step_eq, same]
  unfold run
  rw [engine.run_cons, engine.run_cons, steps]

/-! ### Replays -/

/-- A replay leaves the target and the explicit rate alone. -/
theorem setup_run (predictor : Predictor α) (events : List (MotionEvent α)) :
    (predictor.run events).1.setup.target = predictor.setup.target ∧
      (predictor.run events).1.setup.rate? = predictor.setup.rate? := by
  have noTarget : latest? Command.target? (predictor.replayCommands events) = none := by
    refine latest?_eq_none fun command member => ?_
    rcases mem_replayCommands member with ⟨event, _, rfl⟩ | rfl <;> rfl
  have noRate : latest? Command.rate? (predictor.replayCommands events) = none := by
    refine latest?_eq_none fun command member => ?_
    rcases mem_replayCommands member with ⟨event, _, rfl⟩ | rfl <;> rfl
  rw [run_fst, target_stateAfter, given?_stateAfter, noTarget, noRate]
  exact ⟨rfl, rfl⟩

/-- **A replay falls apart at a contact**, if the rate was given. -/
theorem run_down_append {start : Predictor α} (given : start.setup.rate?.isSome)
    (before : List (MotionEvent α)) {event : MotionEvent α} (down : event.action = .down)
    (touched : event.pointers ≠ []) (rest : List (MotionEvent α)) :
    (start.run (before ++ event :: rest)).2 =
      (start.run before).2 ++ (start.run (event :: rest)).2 := by
  obtain ⟨targets, rates⟩ := setup_run start before
  obtain ⟨value, chosen⟩ := Option.isSome_iff_exists.mp given
  rw [chosen] at rates
  have tuning : SameTuning (start.run before).1 start := by
    have runs := sameTuning_stateAfter start (start.replayCommands before) []
    rwa [← run_fst] at runs
  have rate : (start.run before).1.rate = start.rate :=
    (ReportRate.given?_eq_some.mp rates).trans (ReportRate.given?_eq_some.mp chosen).symm
  have afresh := run_cons_congr (record_down_congr tuning targets rate down touched) rest
  unfold run at afresh ⊢
  rw [engine.run_append, afresh]

/-- **Strokes are isolated.** Let a predictor have had two pasts that leave the same target and the
same knowledge of the rate. A contact of some pointer is answered alike after both, and so is
whatever follows; the same holds of a cancelled gesture if both track the same pointer. With a rate in the
settings, a replay of events with a contact among them gives the frames of the events before it and
then those of the events from the contact on, each replayed afresh. -/
theorem stroke_isIsolated {settings : PredictorSettings α} {start : Predictor α}
    (built : ofSettings settings = .ok start) :
    (∀ past other : List (Command α),
      let first := stateAfter serve start past
      let second := stateAfter serve start other
      first.target = second.target → first.rate = second.rate →
      ∀ event : MotionEvent α,
        (event.action = .down ∧ event.pointers ≠ [] ∨
          event.action = .cancel ∧ first.pointer = second.pointer) →
        ∀ later, answersTo serve first (.observe event :: later) =
          answersTo serve second (.observe event :: later)) ∧
    (settings.rate?.isSome →
      ∀ (before : List (MotionEvent α)) (event : MotionEvent α) (rest : List (MotionEvent α)),
        event.action = .down → event.pointers ≠ [] →
        (start.replay (before ++ event :: rest)).frames =
          (start.replay before).frames ++ (start.replay (event :: rest)).frames) := by
  refine ⟨?_, ?_⟩
  · intro past other first second target rate event forgets later
    have tuning : SameTuning first second := sameTuning_stateAfter start past other
    refine answersTo_observe_congr ?_ later
    rcases forgets with ⟨down, touched⟩ | ⟨cancel, pointer⟩
    · exact record_down_congr tuning target rate down touched
    · exact record_cancel_congr tuning pointer target rate cancel
  · intro chosen before event rest down touched
    have given : start.setup.rate?.isSome := by
      rw [(setup_ofSettings built).1, Option.isSome_map]
      exact chosen
    rw [frames_replay, frames_replay, frames_replay]
    exact run_down_append given before down touched rest

/-- A stroke of pointer 1 and a prediction leave no trace in a stroke of pointer 4, nor in what
follows a cancelled gesture, and the two strokes can be replayed one by one. -/
theorem stroke_isIsolated_two :
    let settings : PredictorSettings Float := { PredictorSettings.usual with rate? := some 8 }
    let one : MotionEvent Float := ⟨.down, [1], [⟨0, [⟨1, 2, 0.5⟩]⟩, ⟨8, [⟨3, 4, 0.5⟩]⟩]⟩
    let four : MotionEvent Float := ⟨.down, [4], [⟨20, [⟨7, 7, 0.5⟩]⟩]⟩
    let cancel : MotionEvent Float := ⟨.cancel, [1], []⟩
    ∃ start, ofSettings settings = .ok start ∧
      answersTo serve (stateAfter serve start [.observe one, .predict]) [.observe four, .predict] =
        answersTo serve start [.observe four, .predict] ∧
      answersTo serve (stateAfter serve start [.observe one, .predict]) [.observe cancel, .predict] =
        answersTo serve (stateAfter serve start [.beginStroke 1]) [.observe cancel, .predict] ∧
      (start.replay [one, four]).frames =
        (start.replay [one]).frames ++ (start.replay [four]).frames := by
  intro settings one four cancel
  let start : Predictor Float := .kalman .ink
    { (Session.start (PointerForecast.kalman .ink)).setTarget usualTarget with
      rate := .overridden ((8 : Int32).toInt : Float) }
  have built : ofSettings settings = .ok start := rfl
  have target : (stateAfter serve start [.observe one, .predict]).target = usualTarget :=
    target_stateAfter start [.observe one, .predict]
  have rate : (stateAfter serve start [.observe one, .predict]).rate = start.rate :=
    ReportRate.given?_eq_some.mp (given?_stateAfter start [.observe one, .predict])
  have pointer : (stateAfter serve start [.observe one, .predict]).pointer = 1 :=
    pointer_stateAfter start [.observe one, .predict]
  obtain ⟨strokes, replays⟩ := stroke_isIsolated built
  refine ⟨start, built, ?_, ?_, ?_⟩
  · exact strokes [.observe one, .predict] [] target rate four (Or.inl ⟨rfl, by simp [four]⟩)
      [.predict]
  · exact strokes [.observe one, .predict] [.beginStroke 1] target rate cancel
      (Or.inr ⟨rfl, pointer⟩) [.predict]
  · exact replays rfl [one] four [] rfl (by simp [four])

end Predictor

end PointerForecast
