/-
**Runs of commands.**

A run is a list of commands, answered one after another. `stateAfter` is the state it leads to and
`answersTo` what is answered on the way; both take the function that answers one command, so they
serve the strategy itself (`Session.apply`), a caller who only forwards events (`Session.serve`) and
a predictor (`Predictor.serve`) alike.

* `stateAfter_append`: a run in two parts.
* `read_stateAfter`, `value_stateAfter`: **what is only ever replaced has the value given last**, or
  its first one.
* `Engine.run`: what an engine makes of some events; `Engine.foldl_advance` is **the loop of a replay**,
  and `Engine.frames_replay`, `Engine.summary_replay` say what it comes to.
* `Predictor.Wraps`: **a predictor does what its session does**, in any run
  (`Predictor.stateAfter_kalman`, `Predictor.stateAfter_linear`) and in any replay (`Wraps.run`).
* `Predictor.run_fst`: **a replay is a run** of observations and predictions.
* `Predictor.frame_replay`, `Predictor.record_run`: one frame, and the predictor that it comes from.
-/

import PointerForecast.Replay

namespace PointerForecast

section Runs

variable {α σ : Type} (answer : σ → Command α → σ × Outcome α)

/-- The state after some commands. -/
def stateAfter (state : σ) (commands : List (Command α)) : σ :=
  commands.foldl (fun state command => (answer state command).1) state

/-- The answers to some commands, in order. -/
def answersTo : σ → List (Command α) → List (Outcome α)
  | _, [] => []
  | state, command :: rest =>
    (answer state command).2 :: answersTo (answer state command).1 rest

@[simp]
theorem stateAfter_nil (state : σ) : stateAfter answer state [] = state := rfl

@[simp]
theorem stateAfter_cons (state : σ) (command : Command α) (rest : List (Command α)) :
    stateAfter answer state (command :: rest) =
      stateAfter answer (answer state command).1 rest := rfl

theorem stateAfter_append (state : σ) (before after : List (Command α)) :
    stateAfter answer state (before ++ after) =
      stateAfter answer (stateAfter answer state before) after :=
  List.foldl_append

/-! ### The value given last -/

/-- The latest of the values that some commands give. -/
def latest? {β : Type} (given? : Command α → Option β) (commands : List (Command α)) : Option β :=
  (commands.filterMap given?).getLast?

theorem latest?_cons {β : Type} (given? : Command α → Option β) (command : Command α)
    (rest : List (Command α)) :
    latest? given? (command :: rest) = (latest? given? rest).or (given? command) := by
  unfold latest?
  cases given : given? command with
  | none => rw [List.filterMap_cons_none given, Option.or_none]
  | some value =>
    rw [List.filterMap_cons_some given, List.getLast?_cons]
    cases (rest.filterMap given?).getLast? <;> rfl

theorem latest?_map {β γ : Type} (given? : Command α → Option β) (f : β → γ)
    (commands : List (Command α)) :
    latest? (fun command => (given? command).map f) commands =
      (latest? given? commands).map f := by
  unfold latest?
  rw [← List.map_filterMap, List.getLast?_map]

theorem latest?_eq_none {β : Type} {given? : Command α → Option β} {commands : List (Command α)}
    (silent : ∀ command ∈ commands, given? command = none) : latest? given? commands = none := by
  unfold latest?
  rw [List.filterMap_eq_nil_iff.mpr silent]
  rfl

/-- A property of all values given holds of the latest. -/
theorem forall_latest? {β : Type} {given? : Command α → Option β} {P : β → Prop}
    (each : ∀ command, ∀ value ∈ given? command, P value) (commands : List (Command α)) :
    ∀ value ∈ latest? given? commands, P value := by
  intro value last
  obtain ⟨command, _, given⟩ := List.mem_filterMap.mp (List.mem_of_getLast? last)
  exact each command value given

/-- **What is only ever replaced has the value given last.** -/
theorem read_stateAfter {β : Type} (read? : σ → Option β) (given? : Command α → Option β)
    (step : ∀ state command,
      read? (answer state command).1 = (given? command).or (read? state))
    (state : σ) (commands : List (Command α)) :
    read? (stateAfter answer state commands) = (latest? given? commands).or (read? state) := by
  induction commands generalizing state with
  | nil => rfl
  | cons command rest ih => rw [stateAfter_cons, ih, step, latest?_cons, Option.or_assoc]

/-- The same of what always has a value. -/
theorem value_stateAfter {β : Type} (value : σ → β) (given? : Command α → Option β)
    (step : ∀ state command,
      value (answer state command).1 = (given? command).getD (value state))
    (state : σ) (commands : List (Command α)) :
    value (stateAfter answer state commands) = (latest? given? commands).getD (value state) := by
  have each : ∀ state command, some (value (answer state command).1) =
      (given? command).or (some (value state)) := by
    intro state command
    rw [step]
    cases given? command <;> rfl
  have last := read_stateAfter answer (fun state => some (value state)) given? each state commands
  cases given : latest? given? commands with
  | none =>
    rw [given] at last
    exact Option.some.inj last
  | some latest =>
    rw [given] at last
    exact Option.some.inj last

end Runs

/-! ### Events to an engine -/

namespace Summary

variable {α : Type}

/-- The counts with one more frame. -/
def count (summary : Summary) (frame : Frame α) : Summary :=
  { summary.note frame with events := summary.events + 1 }

/-- The number of events plays no part in the other counts. -/
theorem note_withEvents (summary : Summary) (events : Nat) (frame : Frame α) :
    { summary with events := events }.note frame =
      { summary.note frame with events := events } := by
  obtain ⟨time, handled, prediction⟩ := frame
  cases handled <;> cases prediction <;> rfl

theorem foldl_note (summary : Summary) (frames : List (Frame α)) :
    frames.foldl note { summary with events := summary.events + frames.length } =
      frames.foldl count summary := by
  induction frames generalizing summary with
  | nil => rfl
  | cons frame rest ih =>
    rw [List.foldl_cons, List.foldl_cons, ← ih, note_withEvents, List.length_cons, Nat.add_comm _ 1,
      ← Nat.add_assoc]
    rfl

end Summary

namespace Engine

variable {α σ : Type} (engine : Engine α σ)

/-- The state after some events, and their frames. -/
def run : σ → List (MotionEvent α) → σ × List (Frame α)
  | state, [] => (state, [])
  | state, event :: rest =>
    let (next, frame) := engine.step state event
    let (final, frames) := run next rest
    (final, frame :: frames)

theorem step_eq (state : σ) (event : MotionEvent α) : engine.step state event =
    if (engine.record state event).2 then
      ((engine.predict (engine.record state event).1).1,
        ⟨event.time?, true, (engine.predict (engine.record state event).1).2⟩)
    else ((engine.record state event).1, ⟨event.time?, false, none⟩) := rfl

theorem run_cons (state : σ) (event : MotionEvent α) (rest : List (MotionEvent α)) :
    engine.run state (event :: rest) =
      ((engine.run (engine.step state event).1 rest).1,
        (engine.step state event).2 :: (engine.run (engine.step state event).1 rest).2) := rfl

theorem run_append (state : σ) (before after : List (MotionEvent α)) :
    engine.run state (before ++ after) =
      ((engine.run (engine.run state before).1 after).1,
        (engine.run state before).2 ++ (engine.run (engine.run state before).1 after).2) := by
  induction before generalizing state with
  | nil => rfl
  | cons event rest ih => rw [List.cons_append, run_cons, ih, run_cons, List.cons_append]

theorem length_run (state : σ) (events : List (MotionEvent α)) :
    (engine.run state events).2.length = events.length := by
  induction events generalizing state with
  | nil => rfl
  | cons event rest ih => exact congrArg Nat.succ (ih _)

/-- **What a replay carries along** after some events: the state they lead to, their frames behind
those before, and the counts with all that they say. -/
theorem foldl_advance (progress : Progress α σ) (events : List (MotionEvent α)) :
    events.foldl engine.advance progress =
      { state := (engine.run progress.state events).1
        frames := progress.frames ++ (engine.run progress.state events).2
        summary := (engine.run progress.state events).2.foldl Summary.note progress.summary } := by
  induction events generalizing progress with
  | nil => simp [run]
  | cons event rest ih =>
    rw [List.foldl_cons, ih]
    simp [advance, run]

/-- **The frames of a replay.** -/
theorem frames_replay (state : σ) (events : List (MotionEvent α)) :
    (engine.replay state events).frames = (engine.run state events).2 := by
  unfold replay
  simp only [foldl_advance, Array.toList_appendList, List.nil_append]

/-- **One frame of a replay** is that of a step after the events before. -/
theorem frame_replay (state : σ) (before : List (MotionEvent α)) (event : MotionEvent α)
    (after : List (MotionEvent α)) :
    (engine.replay state (before ++ event :: after)).frames[before.length]? =
      some (engine.step (engine.run state before).1 event).2 := by
  rw [frames_replay, run_append]
  dsimp only
  rw [List.getElem?_append_right (Nat.le_of_eq (engine.length_run state before)), length_run,
    Nat.sub_self]
  rfl

/-- **The counts of a replay**, kept along the way, are those of its frames. -/
theorem summary_replay (state : σ) (events : List (MotionEvent α)) :
    (engine.replay state events).summary =
      (engine.replay state events).frames.foldl Summary.count .zero := by
  rw [frames_replay, ← Summary.foldl_note, length_run]
  unfold replay
  simp only [foldl_advance]
  rw [show Summary.zero.events + events.length = events.length from Nat.zero_add _]

end Engine

namespace Session

variable {α M : Type} [Scalar α] (strategy : Strategy α M)

/-- Sessions with a strategy as what can be replayed with. -/
def engine : Engine α (Session α M) := ⟨record strategy, predictPadded strategy⟩

/-- One event to a session, which predicts if it handled it. -/
def step (session : Session α M) (event : MotionEvent α) : Session α M × Frame α :=
  (engine strategy).step session event

/-- The frames of some events to a session. -/
def frames (session : Session α M) (events : List (MotionEvent α)) : List (Frame α) :=
  ((engine strategy).run session events).2

theorem frames_cons (session : Session α M) (event : MotionEvent α) (rest : List (MotionEvent α)) :
    session.frames strategy (event :: rest) = (session.step strategy event).2 ::
      (session.step strategy event).1.frames strategy rest := rfl

theorem step_eq (session : Session α M) (event : MotionEvent α) : session.step strategy event =
    if (session.record strategy event).2 then
      (((session.record strategy event).1.predictPadded strategy).1,
        ⟨event.time?, true, ((session.record strategy event).1.predictPadded strategy).2⟩)
    else ((session.record strategy event).1, ⟨event.time?, false, none⟩) := rfl

end Session

namespace Predictor

variable {α : Type} [Scalar α]

/-- The predictor after some events, and their frames. -/
def run (predictor : Predictor α) (events : List (MotionEvent α)) :
    Predictor α × List (Frame α) := engine.run predictor events

theorem step_eq (predictor : Predictor α) (event : MotionEvent α) : predictor.step event =
    if (predictor.record event).2 then
      ((predictor.record event).1.predict.1,
        ⟨event.time?, true, (predictor.record event).1.predict.2⟩)
    else ((predictor.record event).1, ⟨event.time?, false, none⟩) := rfl

/-! ### The session of a predictor -/

/-- Holds of a way to make predictors of the sessions with a strategy: they answer as their session
does, and remain of this kind. -/
structure Wraps {M : Type} (strategy : Strategy α M) (wrap : Session α M → Predictor α) : Prop where
  serve (session : Session α M) (command : Command α) : (wrap session).serve command =
    (wrap (session.serve strategy command).1, (session.serve strategy command).2)
  record (session : Session α M) (event : MotionEvent α) : (wrap session).record event =
    (wrap (session.record strategy event).1, (session.record strategy event).2)
  predict (session : Session α M) : (wrap session).predict =
    (wrap (session.predictPadded strategy).1, (session.predictPadded strategy).2)

theorem wraps_kalman (noise : Noise α) : Wraps (PointerForecast.kalman noise) (.kalman noise) :=
  ⟨fun _ _ => rfl, fun _ _ => rfl, fun _ => rfl⟩

theorem wraps_linear (tuning : LinearTuning α) :
    Wraps (PointerForecast.linear tuning) (.linear tuning) :=
  ⟨fun _ _ => rfl, fun _ _ => rfl, fun _ => rfl⟩

namespace Wraps

variable {M : Type} {strategy : Strategy α M} {wrap : Session α M → Predictor α}

theorem stateAfter (wraps : Wraps strategy wrap) (session : Session α M)
    (commands : List (Command α)) :
    stateAfter Predictor.serve (wrap session) commands =
      wrap (PointerForecast.stateAfter (Session.serve strategy) session commands) := by
  induction commands generalizing session with
  | nil => rfl
  | cons command rest ih => rw [stateAfter_cons, wraps.serve, ih, stateAfter_cons]

theorem answersTo (wraps : Wraps strategy wrap) (session : Session α M)
    (commands : List (Command α)) :
    answersTo Predictor.serve (wrap session) commands =
      PointerForecast.answersTo (Session.serve strategy) session commands := by
  induction commands generalizing session with
  | nil => rfl
  | cons command rest ih =>
    rw [PointerForecast.answersTo, wraps.serve, ih, PointerForecast.answersTo]

theorem step (wraps : Wraps strategy wrap) (session : Session α M) (event : MotionEvent α) :
    (wrap session).step event =
      (wrap (session.step strategy event).1, (session.step strategy event).2) := by
  rw [Predictor.step_eq, Session.step_eq, wraps.record]
  by_cases handled : (session.record strategy event).2 = true
  · simp only [if_pos handled, wraps.predict]
  · simp only [if_neg handled]

/-- A predictor replays events as its session does. -/
theorem run (wraps : Wraps strategy wrap) (session : Session α M) (events : List (MotionEvent α)) :
    ((wrap session).run events).2 = session.frames strategy events := by
  induction events generalizing session with
  | nil => rfl
  | cons event rest ih =>
    show ((wrap session).step event).2 :: (((wrap session).step event).1.run rest).2 = _
    rw [wraps.step, ih]
    rfl

end Wraps

theorem stateAfter_kalman (noise : Noise α) (session : Session α (Tracker α))
    (commands : List (Command α)) :
    stateAfter serve (.kalman noise session) commands =
      .kalman noise
        (stateAfter (Session.serve (PointerForecast.kalman noise)) session commands) :=
  (wraps_kalman noise).stateAfter session commands

theorem stateAfter_linear (tuning : LinearTuning α) (session : Session α (Motion α))
    (commands : List (Command α)) :
    stateAfter serve (.linear tuning session) commands =
      .linear tuning
        (stateAfter (Session.serve (PointerForecast.linear tuning)) session commands) :=
  (wraps_linear tuning).stateAfter session commands

/-! ### Replays -/

theorem serve_observe (predictor : Predictor α) (event : MotionEvent α) :
    predictor.serve (.observe event) =
      ((predictor.record event).1, .handled (predictor.record event).2) := by
  cases predictor <;> rfl

theorem serve_predict (predictor : Predictor α) :
    predictor.serve .predict = (predictor.predict.1, .prediction predictor.predict.2) := by
  cases predictor <;> rfl

theorem frames_replay (predictor : Predictor α) (events : List (MotionEvent α)) :
    (predictor.replay events).frames = (predictor.run events).2 :=
  engine.frames_replay predictor events

/-- **One frame of a replay** is that of a step after the events before. -/
theorem frame_replay (predictor : Predictor α) (before : List (MotionEvent α))
    (event : MotionEvent α) (after : List (MotionEvent α)) :
    (predictor.replay (before ++ event :: after)).frames[before.length]? =
      some ((predictor.run before).1.step event).2 :=
  engine.frame_replay predictor before event after

/-- The commands of a replay: every event is observed, and if it was handled a prediction follows. -/
def replayCommands : Predictor α → List (MotionEvent α) → List (Command α)
  | _, [] => []
  | predictor, event :: rest =>
    .observe event :: (if (predictor.record event).2 then [.predict] else []) ++
      replayCommands (predictor.step event).1 rest

theorem step_fst (predictor : Predictor α) (event : MotionEvent α) :
    (predictor.step event).1 = stateAfter serve predictor
      (.observe event :: if (predictor.record event).2 then [.predict] else []) := by
  rw [step_eq]
  cases handled : (predictor.record event).2 with
  | true =>
    simp only [handled, if_true, stateAfter_cons, stateAfter_nil, serve_observe, serve_predict]
  | false => simp [handled, serve_observe]

/-- **A replay is a run.** -/
theorem run_fst (predictor : Predictor α) (events : List (MotionEvent α)) :
    (predictor.run events).1 = stateAfter serve predictor (predictor.replayCommands events) := by
  induction events generalizing predictor with
  | nil => rfl
  | cons event rest ih =>
    show ((predictor.step event).1.run rest).1 = _
    rw [ih, replayCommands, stateAfter_append, ← step_fst]

theorem mem_replayCommands {predictor : Predictor α} {events : List (MotionEvent α)}
    {command : Command α} (member : command ∈ predictor.replayCommands events) :
    (∃ event ∈ events, command = .observe event) ∨ command = .predict := by
  induction events generalizing predictor with
  | nil => cases member
  | cons event rest ih =>
    rw [replayCommands, List.cons_append, List.mem_cons, List.mem_append] at member
    rcases member with rfl | asked | later
    · exact Or.inl ⟨event, List.mem_cons_self, rfl⟩
    · split at asked
      · exact Or.inr (List.mem_singleton.mp asked)
      · cases asked
    · rcases ih later with ⟨other, inside, same⟩ | same
      · exact Or.inl ⟨other, List.mem_cons_of_mem _ inside, same⟩
      · exact Or.inr same

/-! ### A point of a replay -/

/-- The commands of a replay until an event has been recorded. -/
def commandsUntil (predictor : Predictor α) (before : List (MotionEvent α))
    (event : MotionEvent α) : List (Command α) :=
  predictor.replayCommands before ++ [.observe event]

/-- **The predictor at a point of a replay**, where an event has been recorded. -/
theorem record_run (predictor : Predictor α) (before : List (MotionEvent α))
    (event : MotionEvent α) :
    ((predictor.run before).1.record event).1 =
      stateAfter serve predictor (predictor.commandsUntil before event) := by
  rw [commandsUntil, stateAfter_append, ← run_fst, stateAfter_cons, stateAfter_nil, serve_observe]

theorem mem_commandsUntil {predictor : Predictor α} {before : List (MotionEvent α)}
    {event : MotionEvent α} {command : Command α}
    (member : command ∈ predictor.commandsUntil before event) :
    (∃ event, command = .observe event) ∨ command = .predict := by
  rcases List.mem_append.mp member with earlier | last
  · exact (mem_replayCommands earlier).imp_left fun ⟨event, _, same⟩ => ⟨event, same⟩
  · exact Or.inl ⟨event, List.mem_singleton.mp last⟩

end Predictor

end PointerForecast
