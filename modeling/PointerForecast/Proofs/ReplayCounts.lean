/-
**A replay is causal, and its summary can be read off its frames.**

A replay goes through the events once. Each event gives one frame, which depends on this event and
on the state that the events before it have left; so a replay can be cut anywhere and resumed. The
counts of the summary are kept along the way, one frame at a time. What they come to is a matter of
the frames alone: how many there are, how many were handled, how many of those had no prediction, and
how long the predictions are. None of this depends on how events are recorded or predictions made.

* `horizons`, `Summary.ofFrames`: the lengths of the predictions, and the summary of some frames.
* `Summary.foldl_count`: **counting one by one gives the summary of the frames.**
* `Frame.IsSound`: no prediction without a handled event; `Summary.handled_ofFrames`: what follows.
* `Engine.replay_isCausal`: both, for any engine, any state of it and any events.
-/

import PointerForecast.Proofs.Run
import PointerForecast.Scalar.Double
import Mathlib.Algebra.GroupWithZero.Nat
import Mathlib.Data.List.Induction

namespace PointerForecast

variable {α : Type}

/-! ### Summaries of frames -/

/-- The lengths of the predictions among some frames. -/
def horizons (frames : List (Frame α)) : List Nat :=
  frames.filterMap fun frame => frame.prediction.map (·.length)

/-- Holds of a frame whose prediction, if there is one, follows a handled event. -/
def Frame.IsSound (frame : Frame α) : Prop := frame.handled = false → frame.prediction = none

namespace Summary

/-- The summary of some frames. -/
def ofFrames (frames : List (Frame α)) : Summary where
  events := frames.length
  handled := frames.countP (·.handled)
  notReady := frames.countP fun frame => frame.handled && frame.prediction.isNone
  predictions := (horizons frames).length
  predictedSamples := (horizons frames).sum
  maxHorizon := (horizons frames).max?.getD 0

theorem max?_append_singleton (lengths : List Nat) (length : Nat) :
    (lengths ++ [length]).max?.getD 0 = Nat.max (lengths.max?.getD 0) length := by
  cases lengths with
  | nil => exact (Nat.zero_max length).symm
  | cons first rest =>
    rw [List.cons_append, List.max?_cons', List.max?_cons', List.foldl_append]
    rfl

theorem horizons_append (before after : List (Frame α)) :
    horizons (before ++ after) = horizons before ++ horizons after := List.filterMap_append

/-- As many lengths as frames with a prediction. -/
theorem length_horizons (frames : List (Frame α)) :
    (horizons frames).length = frames.countP (·.prediction.isSome) := by
  unfold horizons
  rw [List.length_filterMap_eq_countP]
  simp only [Option.isSome_map]

/-- **One more frame.** -/
theorem ofFrames_append_singleton (frames : List (Frame α)) (frame : Frame α) :
    ofFrames (frames ++ [frame]) = (ofFrames frames).count frame := by
  obtain ⟨time, handled, prediction⟩ := frame
  have last : horizons [⟨time, handled, prediction⟩] = (prediction.map (·.length)).toList := by
    cases prediction <;> rfl
  unfold ofFrames count note
  rw [horizons_append, last, List.length_append, List.countP_append, List.countP_append,
    List.countP_singleton, List.countP_singleton]
  cases prediction with
  | none => cases handled <;> simp
  | some prediction => cases handled <;> simp [max?_append_singleton]

/-- **Counting one by one gives the summary of the frames.** -/
theorem foldl_count (frames : List (Frame α)) : frames.foldl count .zero = ofFrames frames := by
  induction frames using List.reverseRecOn with
  | nil => rfl
  | append_singleton before frame ih =>
    rw [List.foldl_append, ih, List.foldl_cons, List.foldl_nil, ofFrames_append_singleton]

/-- **Handled events** either lead to a prediction or find the predictor not ready. -/
theorem handled_ofFrames {frames : List (Frame α)} (sound : ∀ frame ∈ frames, frame.IsSound) :
    (ofFrames frames).handled =
      (ofFrames frames).notReady + frames.countP (·.prediction.isSome) := by
  unfold ofFrames
  dsimp only
  induction frames with
  | nil => rfl
  | cons frame rest ih =>
    obtain ⟨first, others⟩ := List.forall_mem_cons.mp sound
    have weight : (if frame.handled = true then 1 else 0) =
        (if (frame.handled && frame.prediction.isNone) = true then 1 else 0) +
          if frame.prediction.isSome = true then 1 else 0 := by
      cases handled : frame.handled with
      | false => rw [first handled]; rfl
      | true => cases frame.prediction <;> rfl
    rw [List.countP_cons, List.countP_cons, List.countP_cons, ih others, weight]
    omega

end Summary

/-! ### Replays -/

namespace Engine

variable {σ : Type} (engine : Engine α σ)

theorem time?_step (state : σ) (event : MotionEvent α) :
    (engine.step state event).2.time? = event.time? := by
  rw [step_eq]
  split <;> rfl

theorem isSound_step (state : σ) (event : MotionEvent α) :
    (engine.step state event).2.IsSound := by
  rw [step_eq]
  unfold Frame.IsSound
  split
  · exact nofun
  · exact fun _ => rfl

theorem times_run (state : σ) (events : List (MotionEvent α)) :
    (engine.run state events).2.map (·.time?) = events.map (·.time?) := by
  induction events generalizing state with
  | nil => rfl
  | cons event rest ih =>
    exact congrArg₂ List.cons (engine.time?_step state event) (ih _)

theorem isSound_run (state : σ) (events : List (MotionEvent α)) :
    ∀ frame ∈ (engine.run state events).2, frame.IsSound := by
  induction events generalizing state with
  | nil => exact List.forall_mem_nil _
  | cons event rest ih =>
    exact List.forall_mem_cons.mpr ⟨engine.isSound_step state event, ih _⟩

theorem run_take (state : σ) (events : List (MotionEvent α)) (count : Nat) :
    (engine.run state (events.take count)).2 = (engine.run state events).2.take count := by
  induction events generalizing state count with
  | nil => rw [List.take_nil]; exact List.take_nil.symm
  | cons event rest ih =>
    cases count with
    | zero => rfl
    | succ count => exact congrArg (List.cons _) (ih _ count)

/-- **A replay is causal, and its summary can be read off its frames**, whatever records the events
and predicts. A replay can be cut anywhere: its frames are those of the events before the cut, and then
those of the events after it, replayed from the state that the former have led to; so the first frames
are those of the first events. There is one frame per event, in order, with the time of the event's
latest batch, and none has a prediction unless its event was handled. The summary counts the frames,
the handled ones, those among them without a prediction, and sums up the lengths of the predictions and
takes the greatest; as many predictions were made as events were handled by an engine that was ready,
and the mean length is that of all predictions, or zero if there is none. -/
theorem replay_isCausal [Scalar α] (state : σ) (events : List (MotionEvent α)) :
    let report := engine.replay state events
    let summary := report.summary
    let made := report.frames.countP (·.prediction.isSome)
    (∀ before after, events = before ++ after →
      let rest := engine.replay (engine.run state before).1 after
      report.frames = (engine.replay state before).frames ++ rest.frames ∧
        summary = rest.frames.foldl Summary.count (engine.replay state before).summary) ∧
    (∀ count, (engine.replay state (events.take count)).frames = report.frames.take count) ∧
    report.frames.map (·.time?) = events.map (·.time?) ∧
    (∀ frame ∈ report.frames, frame.handled = false → frame.prediction = none) ∧
    summary = .ofFrames report.frames ∧
    summary.handled = summary.notReady + made ∧
    summary.meanHorizon = if made = 0 then (0 : α)
      else ((summary.predictedSamples : Int) : α) / ((made : Int) : α) := by
  intro report summary made
  have frames : report.frames = (engine.run state events).2 := engine.frames_replay state events
  have sound : ∀ frame ∈ report.frames, frame.IsSound := frames ▸ engine.isSound_run state events
  have counted : summary = .ofFrames report.frames :=
    (engine.summary_replay state events).trans (Summary.foldl_count report.frames)
  have predictions : summary.predictions = made := by
    rw [counted]
    exact Summary.length_horizons report.frames
  refine ⟨?_, ?_, ?_, sound, counted, ?_, ?_⟩
  · rintro before after rfl rest
    have parts : report.frames = (engine.replay state before).frames ++ rest.frames := by
      rw [frames, engine.run_append, engine.frames_replay, engine.frames_replay]
    refine ⟨parts, ?_⟩
    rw [engine.summary_replay state before, ← List.foldl_append, ← parts]
    exact engine.summary_replay state _
  · intro count
    rw [engine.frames_replay, frames, engine.run_take]
  · rw [frames, engine.times_run]
  · rw [counted]
    exact Summary.handled_ofFrames sound
  · unfold Summary.meanHorizon
    rw [predictions]

/-- A contact, a move of another pointer, and a move of the tracked one, cut after the contact: not
ready, not handled, and a prediction. -/
theorem replay_isCausal_mixed :
    let settings : PredictorSettings Float := { PredictorSettings.usual with strategy := .linear }
    let contact : MotionEvent Float := ⟨.down, [3], [⟨0, [⟨1, 7, 0.5⟩]⟩]⟩
    let other : MotionEvent Float := ⟨.move, [9], [⟨4, [⟨2, 2, 0.5⟩]⟩]⟩
    let move : MotionEvent Float := ⟨.move, [3], [⟨8, [⟨3, 7, 0.5⟩]⟩, ⟨16, [⟨5, 7, 0.5⟩]⟩]⟩
    ∃ start, Predictor.ofSettings settings = .ok start ∧
      let report := start.replay [contact, other, move]
      report.frames = (start.replay [contact]).frames ++
        ((start.run [contact]).1.replay [other, move]).frames ∧
      report.frames.map (·.time?) = [some 0, some 4, some 16] ∧
      report.frames.map (·.handled) = [true, false, true] ∧
      report.summary.handled = 1 + 1 ∧ report.summary.notReady = 1 := by
  intro settings contact other move
  obtain ⟨start, built, handled, unready, made⟩ : ∃ start, Predictor.ofSettings settings = .ok start ∧
      (start.replay [contact, other, move]).frames.map (·.handled) = [true, false, true] ∧
      (start.replay [contact, other, move]).summary.notReady = 1 ∧
      (start.replay [contact, other, move]).frames.countP (·.prediction.isSome) = 1 :=
    ⟨_, rfl, by decide +kernel, by decide +kernel, by decide +kernel⟩
  obtain ⟨cut, _, times, _, _, counts, _⟩ :=
    replay_isCausal Predictor.engine start [contact, other, move]
  obtain ⟨frames, _⟩ := cut [contact] [other, move] rfl
  change (start.replay [contact, other, move]).summary.handled = _ at counts
  refine ⟨start, built, frames, times, handled, ?_, unready⟩
  rw [counts]
  exact congrArg₂ (· + ·) unready made

end Engine

end PointerForecast
