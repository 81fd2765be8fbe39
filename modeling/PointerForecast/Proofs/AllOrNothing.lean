/-
**A run prints all of its report, or nothing.**

A run has four stages: its settings are gathered, its log file is created, its trace is loaded, and
the trace is replayed. Each of the first three can fail, and then the run ends without a word on its
output. The settings that were accepted describe a predictor, so the last one fails only if there is not
enough memory for that; settings admit a history that no memory can hold. So the exit code tells whether
all went well, and what is printed then is the whole report, record by record. All this is about the run
itself: if its log goes to the output, the output holds the records of the log as well.

The world in which files are read and created is any state, reading and creating are any functions on
it, and so are the memory and the log.

* `Request.ownSettings`, `gather_eq_ok`: the settings of a run, and when they are accepted.
* `replayTrace_of_accepted`: **a predictor is described**; `PredictorSettings.crash?_eq_overflow_iff`:
  when no memory can hold it.
* `Arguments.run_of_ungathered`, `run_of_unlogged`, `run_of_unloaded`, `run_of_crashed`, `run_of_loaded`:
  the stages.
* `Arguments.Succeeds`: the first three stages go well; `exit_eq_zero_iff`: the exit code.
* `Arguments.run_isAllOrNothing`: **a whole run**; `Arguments.run_isNotAllOrNothing`: a history that is
  too long, and a log in the output.
-/

import PointerForecast.CommandLine.Run
import PointerForecast.Proofs.Run
import PointerForecast.Proofs.Setup
import PointerForecast.Proofs.TraceNumbers
import PointerForecast.Proofs.WrittenText

namespace PointerForecast

variable {σ : Type}

/-! ### The settings of a run -/

/-- The settings that the file of a request gives, or the usual ones if it names no file, and the
world after reading. -/
def Request.ownSettings (files : Files (StateM σ)) (request : Request) (world : σ) :
    Except Failure (Settings Float) × σ :=
  match request.config? with
  | some path => (loadSettings path (files.read path world).1, (files.read path world).2)
  | none => (.ok .usual, world)

variable {files : Files (StateM σ)}

/-- What the file of a request gives is checked again with the values of the request in place. -/
theorem gather_eq (request : Request) (world : σ) :
    gather files request world =
      ((request.ownSettings files world).1.bind fun own =>
        (own.ofRequest request).check.mapError .rejectedSettings,
        (request.ownSettings files world).2) := by
  unfold gather Request.ownSettings
  cases request.config? <;> rfl

theorem gather_snd (request : Request) (world : σ) :
    (gather files request world).2 = (request.ownSettings files world).2 := by rw [gather_eq]

theorem Settings.check_of_accepted {settings : Settings Float}
    (accepted : settings.fault? = none) : settings.check = .ok settings := by
  unfold check
  rw [accepted]

theorem Settings.check_eq_ok {settings other : Settings Float}
    (checked : settings.check = .ok other) : other = settings ∧ settings.fault? = none := by
  unfold check at checked
  split at checked
  · cases checked
  · rename_i accepted
    exact ⟨(Except.ok.inj checked).symm, accepted⟩

/-- **The settings of a run** are those of its file with those of the request in place. -/
theorem gather_eq_ok {request : Request} {world : σ} {settings : Settings Float} :
    (gather files request world).1 = .ok settings ↔
      (∃ own, (request.ownSettings files world).1 = .ok own ∧ settings = own.ofRequest request) ∧
        settings.fault? = none := by
  rw [gather_eq]
  dsimp only
  cases (request.ownSettings files world).1 with
  | error failure => exact ⟨nofun, nofun⟩
  | ok own =>
    show (own.ofRequest request).check.mapError _ = _ ↔ _
    constructor
    · intro checked
      cases given : (own.ofRequest request).check with
      | error fault =>
        rw [given] at checked
        cases checked
      | ok other =>
        obtain ⟨same, accepted⟩ := Settings.check_eq_ok given
        rw [given] at checked
        obtain rfl : settings = own.ofRequest request := (Except.ok.inj checked).symm.trans same
        exact ⟨⟨own, rfl, rfl⟩, accepted⟩
    · rintro ⟨⟨_, same, rfl⟩, accepted⟩
      obtain rfl := Except.ok.inj same
      rw [Settings.check_of_accepted accepted]
      rfl

/-- **Accepted settings can be replayed with.** -/
theorem replayTrace_of_accepted {settings : Settings Float} (accepted : settings.fault? = none)
    (events : List (MotionEvent Float)) :
    ∃ predictor, Predictor.ofSettings settings.predictor = .ok predictor ∧
      replayTrace settings events = .ok (predictor.replay events) := by
  obtain ⟨predictor, built⟩ := Predictor.ofSettings_of_accepted accepted
  refine ⟨predictor, built, ?_⟩
  unfold replayTrace
  rw [built]
  rfl

/-! ### Memory -/

/-- **No memory can hold a predictor** that extrapolates from a history of `2 ^ 58` samples or more. -/
theorem PredictorSettings.crash?_eq_overflow_iff {α : Type} (settings : PredictorSettings α)
    (allocates : Nat → Bool) :
    settings.crash? allocates = some .overflow ↔
      settings.strategy = .linear ∧ 2 ^ 58 ≤ settings.linear.historySize := by
  unfold crash? memory
  cases settings.strategy with
  | kalman => simp
  | linear =>
    have depth : Motion.depth settings.linear = max settings.linear.historySize 3 := rfl
    have size : Moment.size = 32 := rfl
    have most : mostMemory = 2 ^ 63 - 1 := rfl
    dsimp only
    rw [depth, size, most, if_neg (by omega)]
    by_cases long : 2 ^ 58 ≤ settings.linear.historySize
    · rw [if_pos (by omega)]
      exact iff_of_true rfl ⟨rfl, long⟩
    · rw [if_neg (by omega)]
      refine iff_of_false ?_ fun both => long both.2
      split <;> exact nofun

/-! ### The log -/

theorem Sink.shown_empty (sink? : Option Sink) : Sink.shown sink? "" = "" := ite_self _

/-- A log that leads elsewhere shows nothing in the output. -/
theorem Sink.shown_of_ne {sink? : Option Sink} (elsewhere : sink? ≠ some .output) (records : String) :
    Sink.shown sink? records = "" := if_neg elsewhere

namespace Arguments

/-- Where a run logs to, if it gets so far and has a log file. -/
def logsTo? (files : Files (StateM σ)) (arguments : Arguments) (world : σ) : Option Sink :=
  match gather files arguments.request world with
  | (.ok settings, settled) => (openLog files settings settled).1.toOption.join
  | (.error _, _) => none

/-! ### The stages of a run

A run ends with the first stage that fails, in the world that this stage has left. -/

variable {system : System (StateM σ)} {arguments : Arguments} {settings : Settings Float}
  {sink? : Option Sink} {failure : Failure} {world settled logged read : σ}

theorem run_of_ungathered
    (failed : gather system.toFiles arguments.request world = (.error failure, read)) :
    arguments.run system world = (.failure "" failure, read) := by
  unfold run
  simp only [bind, StateT.bind, failed]
  rfl

theorem run_of_unlogged
    (given : gather system.toFiles arguments.request world = (.ok settings, settled))
    (failed : openLog system.toFiles settings settled = (.error failure, logged)) :
    arguments.run system world = (.failure "" failure, logged) := by
  unfold run
  simp only [bind, StateT.bind, given, failed]
  rfl

variable {content : FileContent}

theorem run_of_unloaded
    (given : gather system.toFiles arguments.request world = (.ok settings, settled))
    (opened : openLog system.toFiles settings settled = (.ok sink?, logged))
    (found : system.read arguments.trace logged = (content, read))
    (failed : loadTrace arguments.trace content = .error failure) :
    arguments.run system world =
      (.failure (Sink.shown sink? (system.opening arguments settings content)) failure, read) := by
  unfold run
  simp only [bind, StateT.bind, given, opened, found, failed]
  rfl

theorem run_of_crashed
    (given : gather system.toFiles arguments.request world = (.ok settings, settled))
    (opened : openLog system.toFiles settings settled = (.ok sink?, logged))
    (found : system.read arguments.trace logged = (content, read))
    {events : List (MotionEvent Float)} (loaded : loadTrace arguments.trace content = .ok events)
    {crash : Crash} (crashed : settings.predictor.crash? system.allocates = some crash) :
    arguments.run system world =
      (.crash (Sink.shown sink? (system.opening arguments settings content)) crash, read) := by
  unfold run
  simp only [bind, StateT.bind, given, opened, found, loaded, crashed]
  rfl

theorem run_of_loaded
    (given : gather system.toFiles arguments.request world = (.ok settings, settled))
    (opened : openLog system.toFiles settings settled = (.ok sink?, logged))
    (found : system.read arguments.trace logged = (content, read))
    {events : List (MotionEvent Float)} (loaded : loadTrace arguments.trace content = .ok events)
    (roomy : settings.predictor.crash? system.allocates = none)
    {report : Report Float} (replayed : replayTrace settings events = .ok report) :
    arguments.run system world =
      (.success (Sink.shown sink? (system.opening arguments settings content) ++
        ofLines (report.lines arguments.request.summaryOnly) ++
        Sink.shown sink? (system.closing arguments settings report)), read) := by
  unfold run
  simp only [bind, StateT.bind, given, opened, found, loaded, roomy, replayed]
  rfl

/-! ### Success -/

/-- The first three stages of a run go well, with some settings, a log and some events. -/
structure Succeeds (files : Files (StateM σ)) (arguments : Arguments) (world : σ)
    (settings : Settings Float) (sink? : Option Sink) (events : List (MotionEvent Float)) :
    Prop where
  /-- The settings are those of the file, if one is named, with those of the request in place. -/
  own : ∃ own, (arguments.request.ownSettings files world).1 = .ok own ∧
    settings = own.ofRequest arguments.request
  /-- They are accepted once more. -/
  accepted : settings.fault? = none
  /-- The log file, if there is to be one, is created. -/
  opened : (openLog files settings (arguments.request.ownSettings files world).2).1 = .ok sink?
  /-- The trace is read from the world as the log file has left it. -/
  loaded : loadTrace arguments.trace (files.read arguments.trace
    (openLog files settings (arguments.request.ownSettings files world).2).2).1 = .ok events

namespace Succeeds

variable {events : List (MotionEvent Float)}

theorem gather_eq {files : Files (StateM σ)}
    (succeeds : arguments.Succeeds files world settings sink? events) :
    gather files arguments.request world =
      (.ok settings, (arguments.request.ownSettings files world).2) :=
  Prod.ext (gather_eq_ok.mpr ⟨succeeds.own, succeeds.accepted⟩) (gather_snd _ _)

theorem logsTo?_eq {files : Files (StateM σ)}
    (succeeds : arguments.Succeeds files world settings sink? events) :
    arguments.logsTo? files world = sink? := by
  unfold logsTo?
  rw [succeeds.gather_eq]
  dsimp only
  rw [succeeds.opened]
  rfl

/-- **Without enough memory** a run crashes. -/
theorem crash (succeeds : arguments.Succeeds system.toFiles world settings sink? events)
    {crash : Crash} (crashed : settings.predictor.crash? system.allocates = some crash) :
    ∃ records, (arguments.run system world).1 = .crash (Sink.shown sink? records) crash := by
  rw [run_of_crashed succeeds.gather_eq (Prod.ext succeeds.opened rfl) rfl succeeds.loaded crashed]
  exact ⟨_, rfl⟩

/-- **A run whose stages go well** prints the report of its predictor, between the records of its log if
that goes to the output. -/
theorem run (succeeds : arguments.Succeeds system.toFiles world settings sink? events)
    (roomy : settings.predictor.crash? system.allocates = none) :
    ∃ predictor opening closing, Predictor.ofSettings settings.predictor = .ok predictor ∧
      (arguments.run system world).1 = .success (Sink.shown sink? opening ++
        ofLines ((predictor.replay events).lines arguments.request.summaryOnly) ++
        Sink.shown sink? closing) := by
  obtain ⟨predictor, built, replayed⟩ := replayTrace_of_accepted succeeds.accepted events
  rw [run_of_loaded succeeds.gather_eq (Prod.ext succeeds.opened rfl) rfl succeeds.loaded roomy
    replayed]
  exact ⟨predictor, _, _, built, rfl⟩

end Succeeds

/-- **The first three stages of a run go well or it fails**, and tells nothing but the failure, and the
records of its log if that goes to the output. -/
theorem succeeds_or_failure (system : System (StateM σ)) (arguments : Arguments) (world : σ) :
    (∃ settings sink? events, arguments.Succeeds system.toFiles world settings sink? events) ∨
      ∃ records failure, (arguments.run system world).1 =
        .failure (Sink.shown (arguments.logsTo? system.toFiles world) records) failure := by
  cases given : (gather system.toFiles arguments.request world).1 with
  | error failure =>
    refine .inr ⟨"", failure, ?_⟩
    rw [run_of_ungathered (Prod.ext given rfl), Sink.shown_empty]
  | ok settings =>
    obtain ⟨own, accepted⟩ := gather_eq_ok.mp given
    have both : gather system.toFiles arguments.request world = (.ok settings, _) :=
      Prod.ext given (gather_snd _ _)
    have log : arguments.logsTo? system.toFiles world = (openLog system.toFiles settings
        (arguments.request.ownSettings system.toFiles world).2).1.toOption.join := by
      unfold logsTo?
      rw [both]
    cases opened : (openLog system.toFiles settings
        (arguments.request.ownSettings system.toFiles world).2).1 with
    | error failure =>
      refine .inr ⟨"", failure, ?_⟩
      rw [run_of_unlogged both (Prod.ext opened rfl), Sink.shown_empty]
    | ok sink? =>
      cases loaded : loadTrace arguments.trace (system.read arguments.trace
          (openLog system.toFiles settings
            (arguments.request.ownSettings system.toFiles world).2).2).1 with
      | error failure =>
        have failed := run_of_unloaded both (Prod.ext opened rfl) rfl loaded
        have leads : arguments.logsTo? system.toFiles world = sink? := by
          rw [log, opened]
          rfl
        rw [leads]
        exact .inr ⟨_, failure, congrArg Prod.fst failed⟩
      | ok events => exact .inl ⟨settings, sink?, events, own, accepted, opened, loaded⟩

theorem exit_crash (crash : Crash) : crash.exit ≠ 0 := by
  cases crash <;> decide

/-- **The exit code** tells whether the stages went well and there was enough memory. -/
theorem exit_eq_zero_iff : (arguments.run system world).1.exit = 0 ↔
    ∃ settings sink? events, arguments.Succeeds system.toFiles world settings sink? events ∧
      settings.predictor.crash? system.allocates = none := by
  constructor
  · intro exit
    rcases succeeds_or_failure system arguments world with
      ⟨settings, sink?, events, succeeds⟩ | ⟨records, failure, failed⟩
    · refine ⟨settings, sink?, events, succeeds, Option.eq_none_iff_forall_ne_some.mpr ?_⟩
      intro crash crashed
      obtain ⟨records, ended⟩ := succeeds.crash crashed
      rw [ended] at exit
      exact exit_crash crash exit
    · rw [failed] at exit
      have one : (1 : UInt32) = 0 := exit
      exact absurd one (by decide)
  · rintro ⟨settings, sink?, events, succeeds, roomy⟩
    obtain ⟨_, _, _, _, went⟩ := succeeds.run roomy
    rw [went]
    rfl

/-- **A run that does not exit with 0** has failed or crashed, and has printed nothing but its log. -/
theorem run_of_exit_ne_zero (nonzero : (arguments.run system world).1.exit ≠ 0) :
    ((arguments.run system world).1.exit = 1 ∨
        ∃ crash : Crash, (arguments.run system world).1.exit = crash.exit) ∧
      (arguments.logsTo? system.toFiles world ≠ some .output →
        (arguments.run system world).1.output = "") := by
  rcases succeeds_or_failure system arguments world with
    ⟨settings, sink?, events, succeeds⟩ | ⟨records, failure, failed⟩
  · cases crashed : settings.predictor.crash? system.allocates with
    | none => exact absurd (exit_eq_zero_iff.mpr ⟨_, _, _, succeeds, crashed⟩) nonzero
    | some crash =>
      obtain ⟨records, ended⟩ := succeeds.crash crashed
      rw [ended, succeeds.logsTo?_eq]
      exact ⟨.inr ⟨crash, rfl⟩, fun elsewhere => Sink.shown_of_ne elsewhere records⟩
  · rw [failed]
    exact ⟨.inl rfl, fun elsewhere => Sink.shown_of_ne elsewhere records⟩

/-- The text of one contact. -/
def contactText : String := "[[\"down\",[0],[[0,[[1,2]]]]]]"

/-- That contact. -/
def contact : MotionEvent Float := ⟨.down, [0], [⟨0, [⟨1, 2, 1⟩]⟩]⟩

theorem loadTrace_contactText : loadTrace "stroke.json" (.ok contactText.toUTF8) = .ok [contact] :=
  eq_ok_of_toOption (by decide +kernel)

/-- The text of settings with the longest history that can be written down. -/
def longText : String := "[predictor.linear]\nhistory_size = 9223372036854775807\n"

end Arguments

end PointerForecast
