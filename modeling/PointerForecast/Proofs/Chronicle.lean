/-
**What a session has been through.**

A chronicle is written from the commands alone, whatever the strategy: which pointer is tracked, and
which observations were accepted in each stroke so far. A contact and a cancelled gesture end a
stroke. The state of a session can be read off its chronicle:

* the sample accepted last and the memory are those of the current stroke,
* the report rate has recorded the differences in time between consecutive samples of the same
  stroke, over all strokes.

`Session.Follows` says so, `Session.Follows.serve` is **one command**, and `Session.Follows.configured`
**any run** of a session to which no command gives a rate. `Session.Follows.apply` and
`Session.Follows.stateAfter_apply` say the same of the strategy itself, which begins a stroke only when
it is told to; a rate may then be given. A replay is such a run; its chronicle is that
of its events (`Chronicle.ofRun_replayCommands`). While a stroke goes on (`Command.goesOn`), it grows by
what is accepted of the observations shown (`Chronicle.foldl_noteApplied_of_goesOn`, and
`Chronicle.current_of_fresh` from its start).
-/

import PointerForecast.Proofs.Acceptance
import PointerForecast.Proofs.Setup
import Mathlib.Data.List.Basic
import Mathlib.Data.List.Induction

namespace PointerForecast

/-- The accepted observations of a run, oldest first. -/
structure Chronicle (α : Type) where
  /-- The tracked pointer. -/
  pointer : PointerId
  /-- The strokes that have ended. -/
  ended : List (List (Moment α))
  /-- The stroke that goes on. -/
  current : List (Moment α)

namespace Chronicle

variable {α : Type}

/-- Nothing accepted yet. -/
def empty : Chronicle α := ⟨0, [], []⟩

/-- The chronicle with the current stroke ended. -/
def endStroke (chronicle : Chronicle α) : Chronicle α :=
  { chronicle with ended := chronicle.ended ++ [chronicle.current], current := [] }

/-- The chronicle with one more observation in the current stroke. -/
def add (chronicle : Chronicle α) (moment : Moment α) : Chronicle α :=
  { chronicle with current := chronicle.current ++ [moment] }

/-- All strokes. -/
def strokes (chronicle : Chronicle α) : List (List (Moment α)) :=
  chronicle.ended ++ [chronicle.current]

variable [Scalar α]

/-- The chronicle after an event. -/
def observe (chronicle : Chronicle α) (event : MotionEvent α) : Chronicle α :=
  if event.isCancel then chronicle.endStroke
  else
    (accepted chronicle.current.getLast? ((event.trackOf chronicle.pointer).getD [])).foldl add
      chronicle

/-- The chronicle in a stroke of a pointer, if one begins. -/
def begin (chronicle : Chronicle α) : Option PointerId → Chronicle α
  | some pointer => { chronicle.endStroke with pointer := pointer }
  | none => chronicle

/-- The chronicle after a command. -/
def note (chronicle : Chronicle α) (command : Command α) : Chronicle α :=
  let begun := chronicle.begin command.pointer?
  match command with
  | .observe event => begun.observe event
  | _ => begun

/-- The chronicle of a run. -/
def ofRun (commands : List (Command α)) : Chronicle α := commands.foldl note empty

/-- The chronicle after a command to the strategy itself, which begins no stroke of its own
accord. -/
def noteApplied (chronicle : Chronicle α) (command : Command α) : Chronicle α :=
  let begun := chronicle.begin command.begun?
  match command with
  | .observe event => begun.observe event
  | _ => begun

/-- The chronicle of a run of the strategy itself. -/
def ofApplied (commands : List (Command α)) : Chronicle α := commands.foldl noteApplied empty

/-- The differences in time between consecutive observations, in milliseconds. -/
def gaps : List (Moment α) → List α
  | earlier :: later :: rest =>
    ((Timestamp.elapsed later.time earlier.time).toInt : α) :: gaps (later :: rest)
  | _ => []

/-- The differences in time within all strokes. -/
def differences (chronicle : Chronicle α) : List α := chronicle.strokes.flatMap gaps

/-! ### The chronicle of a replay -/

theorem ofRun_append (before after : List (Command α)) :
    ofRun (before ++ after) = after.foldl note (ofRun before) := by
  exact List.foldl_append

/-- **The chronicle of a replay** is that of its events: predictions are not noted. -/
theorem ofRun_replayCommands (predictor : Predictor α) (events : List (MotionEvent α)) :
    ofRun (predictor.replayCommands events) = ofRun (events.map .observe) := by
  unfold ofRun
  generalize empty = chronicle
  induction events generalizing predictor chronicle with
  | nil => rfl
  | cons event rest ih =>
    rw [Predictor.replayCommands, List.cons_append, List.foldl_cons, List.foldl_append, List.map_cons,
      List.foldl_cons, ← ih (predictor.step event).1]
    split <;> rfl

theorem ofRun_commandsUntil (predictor : Predictor α) (before : List (MotionEvent α))
    (event : MotionEvent α) :
    ofRun (predictor.commandsUntil before event) = ofRun ((before ++ [event]).map .observe) := by
  unfold Predictor.commandsUntil
  rw [ofRun_append, ofRun_replayCommands, List.map_append, ofRun_append]
  rfl

/-! ### The observations of a chronicle -/

omit [Scalar α] in
theorem foldl_add (chronicle : Chronicle α) (moments : List (Moment α)) :
    moments.foldl add chronicle = { chronicle with current := chronicle.current ++ moments } := by
  induction moments generalizing chronicle with
  | nil => rw [List.foldl_nil, List.append_nil]
  | cons moment rest ih =>
    rw [List.foldl_cons, ih]
    simp only [add, List.append_assoc, List.singleton_append]

/-- What is observed in an event is in one of its batches. -/
theorem mem_observe {chronicle : Chronicle α} {event : MotionEvent α} {moment : Moment α}
    (member : moment ∈ (chronicle.observe event).current) :
    moment ∈ chronicle.current ∨ ∃ batch ∈ event.batches, moment.coords ∈ batch.coords := by
  unfold observe at member
  split at member
  · cases member
  · rw [foldl_add] at member
    refine (List.mem_append.mp member).imp_right fun taken => ?_
    have tracked := mem_of_mem_accepted taken
    unfold MotionEvent.trackOf at tracked
    cases found : event.indexOf? chronicle.pointer with
    | none => rw [found] at tracked; cases tracked
    | some index =>
      rw [found] at tracked
      obtain ⟨batch, inside, entry⟩ := List.mem_filterMap.mp tracked
      obtain ⟨coords, present, rfl⟩ := Option.map_eq_some_iff.mp entry
      exact ⟨batch, inside, List.mem_of_getElem? present⟩

/-- **Every observation of the current stroke is one of an event.** -/
theorem forall_current {P : Coords α → Prop} {events : List (MotionEvent α)}
    (each : ∀ event ∈ events, ∀ batch ∈ event.batches, ∀ coords ∈ batch.coords, P coords) :
    ∀ moment ∈ (ofRun (events.map .observe)).current, P moment.coords := by
  induction events using List.reverseRecOn with
  | nil => exact nofun
  | append_singleton before event ih =>
    have earlier := ih fun other member => each other (List.mem_append_left _ member)
    rw [List.map_append, ofRun_append]
    intro moment member
    have observed : moment ∈ (((ofRun (before.map .observe)).begin
        (Command.pointer? (.observe event))).observe event).current := member
    rcases mem_observe observed with old | ⟨batch, inside, present⟩
    · cases begun : Command.pointer? (.observe event) with
      | none => rw [begun] at old; exact earlier moment old
      | some pointer => rw [begun] at old; cases old
    · exact each event (by simp) batch inside _ present

/-! ### The differences of a longer chronicle -/

theorem gaps_append (moments : List (Moment α)) (moment : Moment α) :
    gaps (moments ++ [moment]) = gaps moments ++
      (moments.getLast?.map fun previous =>
        ((Timestamp.elapsed moment.time previous.time).toInt : α)).toList := by
  induction moments with
  | nil => rfl
  | cons first rest ih =>
    cases rest with
    | nil => rfl
    | cons second rest =>
      show _ :: gaps (second :: rest ++ [moment]) = _
      rw [ih, List.getLast?_cons_cons]
      rfl

theorem differences_add (chronicle : Chronicle α) (moment : Moment α) :
    (chronicle.add moment).differences = chronicle.differences ++
      (chronicle.current.getLast?.map fun previous =>
        ((Timestamp.elapsed moment.time previous.time).toInt : α)).toList := by
  unfold differences strokes
  rw [List.flatMap_append, List.flatMap_append, List.append_assoc]
  simp only [add, List.flatMap_singleton, gaps_append]

theorem differences_endStroke (chronicle : Chronicle α) :
    chronicle.endStroke.differences = chronicle.differences := by
  unfold differences strokes endStroke
  rw [List.flatMap_append]
  exact List.append_nil _

end Chronicle

/-! ### A stroke that goes on -/

namespace Command

variable {α : Type}

/-- Holds of a command with which the current stroke goes on: it neither begins another one nor aborts
it. -/
def goesOn : Command α → Bool
  | .beginStroke _ => false
  | .observe event => !event.isCancel
  | _ => true

/-- What a command shows of a pointer. -/
def shown (pointer : PointerId) : Command α → List (Moment α)
  | .observe event => (event.trackOf pointer).getD []
  | _ => []

end Command

namespace Chronicle

variable {α : Type} [Scalar α]

/-- **One command in a stroke** adds to it what is accepted of all that it shows. -/
theorem noteApplied_of_goesOn (chronicle : Chronicle α) {command : Command α}
    (goesOn : command.goesOn = true) :
    chronicle.noteApplied command =
      { chronicle with
        current := chronicle.current ++
          accepted chronicle.current.getLast? (command.shown chronicle.pointer) } := by
  have nothing : { chronicle with current := chronicle.current ++ [] } = chronicle := by
    rw [List.append_nil]
  cases command with
  | beginStroke pointer => cases goesOn
  | observe event =>
    have active : ¬event.isCancel = true := by simpa [Command.goesOn] using goesOn
    show chronicle.observe event = _
    rw [observe, if_neg active, foldl_add]
    rfl
  | setTarget milliseconds => exact nothing.symm
  | setRate milliseconds => exact nothing.symm
  | predict => exact nothing.symm
  | pad prediction => exact nothing.symm

theorem ofApplied_append (before after : List (Command α)) :
    ofApplied (before ++ after) = after.foldl noteApplied (ofApplied before) := by
  exact List.foldl_append

/-- **Any commands in a stroke.** -/
theorem foldl_noteApplied_of_goesOn (chronicle : Chronicle α) {commands : List (Command α)}
    (goesOn : ∀ command ∈ commands, command.goesOn = true) :
    commands.foldl noteApplied chronicle =
      { chronicle with
        current := chronicle.current ++
          accepted chronicle.current.getLast? (commands.flatMap (·.shown chronicle.pointer)) } := by
  induction commands generalizing chronicle with
  | nil =>
    rw [List.foldl_nil, List.flatMap_nil, accepted, List.append_nil]
  | cons command rest ih =>
    rw [List.foldl_cons, noteApplied_of_goesOn chronicle (goesOn command List.mem_cons_self),
      ih _ fun later member => goesOn later (List.mem_cons_of_mem _ member), List.flatMap_cons,
      accepted_append, List.getLast?_append, List.append_assoc]

/-- **A stroke from its start**: what is accepted of the observations shown. -/
theorem current_of_fresh {before during : List (Command α)} (fresh : (ofApplied before).current = [])
    (goesOn : ∀ command ∈ during, command.goesOn = true) :
    (ofApplied (before ++ during)).current =
      accepted none (during.flatMap (·.shown (ofApplied before).pointer)) := by
  rw [ofApplied_append, foldl_noteApplied_of_goesOn _ goesOn, fresh]
  rfl

theorem current_of_begun (pointer : PointerId) {during : List (Command α)}
    (goesOn : ∀ command ∈ during, command.goesOn = true) :
    (ofApplied (.beginStroke pointer :: during)).current =
      accepted none (during.flatMap (·.shown pointer)) := by
  have fresh : (ofApplied [Command.beginStroke (α := α) pointer]).current = [] := rfl
  exact current_of_fresh fresh goesOn

end Chronicle

/-- What settings say about the report rate. -/
def PredictorSettings.initialRate {α : Type} [Scalar α] (settings : PredictorSettings α) :
    ReportRate α :=
  match settings.rate? with
  | some milliseconds => .overridden (milliseconds.toInt : α)
  | none => .unknown

namespace Session

variable {α M : Type} [Scalar α] {strategy : Strategy α M}

/-- Holds of a session whose state is what its chronicle says, when it began with a rate. -/
structure Follows (strategy : Strategy α M) (initial : ReportRate α) (session : Session α M)
    (chronicle : Chronicle α) : Prop where
  /-- It tracks the pointer of the chronicle. -/
  pointer : session.pointer = chronicle.pointer
  /-- It accepted the last observation of the current stroke last. -/
  last : session.last strategy = chronicle.current.getLast?
  /-- Its memory is that of the current stroke. -/
  memory : session.memory = chronicle.current.foldl strategy.absorb strategy.blank
  /-- Its rate has recorded all differences in time. -/
  rate : session.rate = chronicle.differences.foldl ReportRate.record initial

namespace Follows

variable {initial : ReportRate α} {session : Session α M} {chronicle : Chronicle α}

theorem start : (Session.start strategy).Follows strategy .unknown .empty where
  pointer := rfl
  last := last_start strategy
  memory := rfl
  rate := rfl

/-- **One accepted sample.** -/
theorem accept (follows : session.Follows strategy initial chronicle) (moment : Moment α) :
    (session.accept strategy moment).Follows strategy initial (chronicle.add moment) where
  pointer := follows.pointer
  last := (last_accept strategy session moment).trans List.getLast?_concat.symm
  memory := by
    show strategy.absorb session.memory moment =
      (chronicle.current ++ [moment]).foldl strategy.absorb strategy.blank
    rw [List.foldl_append, List.foldl_cons, List.foldl_nil, follows.memory]
  rate := by
    rw [Chronicle.differences_add, List.foldl_append, ← follows.rate, ← follows.last]
    unfold Session.accept
    cases session.last strategy <;> rfl

theorem foldl_accept (follows : session.Follows strategy initial chronicle) (moments : List (Moment α)) :
    (moments.foldl (Session.accept strategy) session).Follows strategy initial
      (moments.foldl Chronicle.add chronicle) := by
  induction moments generalizing session chronicle with
  | nil => exact follows
  | cons moment rest ih => exact ih (follows.accept moment)

theorem clear (follows : session.Follows strategy initial chronicle) :
    (session.clear strategy).Follows strategy initial chronicle.endStroke where
  pointer := follows.pointer
  last := last_clear strategy session
  memory := rfl
  rate := by
    rw [Chronicle.differences_endStroke]
    exact follows.rate

theorem beginStroke (follows : session.Follows strategy initial chronicle) (pointer : PointerId) :
    (session.beginStroke strategy pointer).Follows strategy initial (chronicle.begin (some pointer)) :=
  { follows.clear with pointer := rfl, rate := follows.clear.rate }

/-- **One event.** -/
theorem observe (follows : session.Follows strategy initial chronicle) (event : MotionEvent α) :
    (session.observe strategy event).1.Follows strategy initial (chronicle.observe event) := by
  have accepts := observe_accepts strategy session event
  unfold Accepts acceptedFrom at accepts
  unfold Chronicle.observe
  by_cases cancelled : event.isCancel = true
  · rw [if_pos cancelled] at accepts ⊢
    rw [accepts.2]
    exact follows.clear
  · rw [if_neg cancelled] at accepts ⊢
    rw [if_neg cancelled, follows.last, follows.pointer] at accepts
    rw [accepts]
    exact follows.foldl_accept _

/-- A prediction is not noted. -/
theorem predict (follows : session.Follows strategy initial chronicle) :
    (session.predict strategy).1.Follows strategy initial chronicle := by
  unfold Session.predict
  split
  · exact { follows with }
  · exact follows

/-- **One command**, if it gives no rate. -/
theorem serve (follows : session.Follows strategy initial chronicle) {command : Command α}
    (silent : command.rate? = none) :
    (session.serve strategy command).1.Follows strategy initial (chronicle.note command) := by
  cases command with
  | setTarget milliseconds => exact { follows with }
  | setRate milliseconds =>
    by_cases refused : milliseconds ≤ 0
    · simp only [Session.serve, answer, setRate, if_pos refused]
      exact follows
    · rw [Command.rate?, if_neg refused] at silent
      cases silent
  | beginStroke pointer => exact follows.beginStroke pointer
  | observe event =>
    show (session.record strategy event).1.Follows strategy initial _
    rw [record_eq_observe]
    refine observe ?_ event
    cases Command.pointer? (.observe event) with
    | some pointer => exact follows.beginStroke pointer
    | none => exact follows
  | predict => exact follows.predict
  | pad prediction => exact follows

theorem stateAfter (follows : session.Follows strategy initial chronicle) {commands : List (Command α)}
    (silent : ∀ command ∈ commands, command.rate? = none) :
    (stateAfter (Session.serve strategy) session commands).Follows strategy initial
      (commands.foldl Chronicle.note chronicle) := by
  induction commands generalizing session chronicle with
  | nil => exact follows
  | cons command rest ih =>
    exact ih (follows.serve (silent command List.mem_cons_self))
      fun later member => silent later (List.mem_cons_of_mem _ member)

/-- **One command to the strategy itself.** A rate that is given is as if the session had begun with
it. -/
theorem apply (follows : session.Follows strategy initial chronicle) (command : Command α) :
    ∃ initial, (session.apply strategy command).1.Follows strategy initial
      (chronicle.noteApplied command) := by
  cases command with
  | setTarget milliseconds => exact ⟨initial, { follows with }⟩
  | setRate milliseconds =>
    unfold Session.apply answer setRate
    by_cases refused : milliseconds ≤ 0
    · simp only [if_pos refused]
      exact ⟨initial, follows⟩
    · simp only [if_neg refused]
      let given : ReportRate α := .overridden (milliseconds.toInt : α)
      have kept : chronicle.differences.foldl ReportRate.record given = given :=
        List.foldl_fixed' (fun _ => rfl) _
      exact ⟨given, { follows with rate := kept.symm }⟩
  | beginStroke pointer => exact ⟨initial, follows.beginStroke pointer⟩
  | observe event => exact ⟨initial, follows.observe event⟩
  | predict => exact ⟨initial, follows.predict⟩
  | pad prediction => exact ⟨initial, follows⟩

theorem stateAfter_apply (follows : session.Follows strategy initial chronicle)
    (commands : List (Command α)) :
    ∃ initial, (PointerForecast.stateAfter (Session.apply strategy) session commands).Follows strategy
      initial (commands.foldl Chronicle.noteApplied chronicle) := by
  induction commands generalizing session initial chronicle with
  | nil => exact ⟨initial, follows⟩
  | cons command rest ih =>
    obtain ⟨later, next⟩ := follows.apply command
    exact ih next

/-- **A session with some settings follows its chronicle** from the rate that they give. -/
theorem configured {settings : PredictorSettings α}
    (built : Predictor.configure settings strategy = .ok session) {commands : List (Command α)}
    (silent : ∀ command ∈ commands, command.rate? = none) :
    (PointerForecast.stateAfter (Session.serve strategy) session commands).Follows strategy
      settings.initialRate (.ofRun commands) := by
  have fresh : session.Follows strategy settings.initialRate .empty := by
    unfold PredictorSettings.initialRate
    rcases Predictor.configure_eq_ok built with ⟨none, rfl⟩ | ⟨rate, given, _, rfl⟩
    · rw [none]
      exact { start with }
    · rw [given]
      exact { start with rate := rfl }
  exact fresh.stateAfter silent

/-- **At any point of a replay**, a session follows the chronicle of the events until then. -/
theorem replayed {settings : PredictorSettings α}
    (built : Predictor.configure settings strategy = .ok session) (start : Predictor α)
    (before : List (MotionEvent α)) (event : MotionEvent α) :
    (PointerForecast.stateAfter (Session.serve strategy) session
        (start.commandsUntil before event)).Follows strategy settings.initialRate
      (.ofRun ((before ++ [event]).map .observe)) := by
  rw [← Chronicle.ofRun_commandsUntil start]
  refine configured built fun command member => ?_
  rcases Predictor.mem_commandsUntil member with ⟨_, rfl⟩ | rfl
  · rfl
  · rfl

end Follows

end Session

end PointerForecast
