/-
**A run of the program.**

The settings are gathered first, then the log file is created, then the trace is loaded, and then a
predictor is built and the trace replayed. Whatever fails ends the run. The report is printed as a whole
at the end. So nothing is printed before, unless the log goes to the output: then its records stand
there, before the report and after it, whether the run goes well or not.

* `gather` — the settings of a run.
* `replayTrace` — the report of a run.
* `Arguments.run` — **all of it**, over any `System`.
-/

import PointerForecast.CommandLine.Files
import PointerForecast.ReportText

namespace PointerForecast

/-- What a run leaves behind besides files. -/
structure RunResult where
  /-- The exit code, as a shell shows it. -/
  exit : UInt32
  /-- What is printed. -/
  output : String
  /-- The failure that the user is told about. -/
  complaint : Option Failure
deriving DecidableEq

/-- The exit code of a program that has panicked or was aborted. -/
def Crash.exit : Crash → UInt32
  | .overflow => 101
  | .refused => 134

namespace RunResult

/-- The result of a run that went well. -/
def success (output : String) : RunResult := ⟨0, output, none⟩

/-- The result of a run that failed. A log that cannot be written is not diagnosed. -/
def failure (output : String) (failure : Failure) : RunResult :=
  let complaint := match failure with
    | .unwritableLog .. => none
    | diagnosed => some diagnosed
  ⟨1, output, complaint⟩

/-- The result of a run for which there was not enough memory. -/
def crash (output : String) (crash : Crash) : RunResult := ⟨crash.exit, output, none⟩

/-- The result of a run that was not begun. The text of the usage is left out. -/
def ending : Ending → RunResult
  | .version => success "lamco-motion-predict 0.1.0\n"
  | .help => success ""
  | .misuse _ => ⟨2, "", none⟩

end RunResult

/-- The settings with those of a request in place. -/
def Settings.ofRequest (settings : Settings Float) (request : Request) : Settings Float :=
  let overridden := settings.override request.overrides
  { overridden with
    format := request.logFormat?.getD overridden.format
    logFile? := request.logFile?.or overridden.logFile? }

/-- The predictor's report on a trace. -/
def replayTrace (settings : Settings Float) (events : List (MotionEvent Float)) :
    Except Failure (Report Float) := do
  let predictor ← (Predictor.ofSettings settings.predictor).mapError .predictor
  return predictor.replay events

/-- Lines of text. -/
def ofLines (lines : List String) : String := String.join (lines.map (· ++ "\n"))

variable {m : Type → Type} [Monad m]

/-- The settings of a run. -/
def gather (files : Files m) (request : Request) : m (Except Failure (Settings Float)) := do
  let loaded ← match request.config? with
    | some path => loadSettings path <$> files.read path
    | none => pure (.ok .usual)
  return do
    let settings ← loaded
    (settings.ofRequest request).check.mapError .rejectedSettings

/-- Creates the log file, if there is to be one, and says where it leads to. -/
def openLog (files : Files m) (settings : Settings Float) : m (Except Failure (Option Sink)) := do
  match settings.logFile? with
  | some path => return ((← files.create path).map some).mapError (.unwritableLog path)
  | none => return .ok none

/-- What a log shows in the output. -/
def Sink.shown (sink? : Option Sink) (records : String) : String :=
  if sink? = some .output then records else ""

/-- Runs the program. -/
def Arguments.run (system : System m) (arguments : Arguments) : m RunResult := do
  match ← gather system.toFiles arguments.request with
  | .error failure => return .failure "" failure
  | .ok settings =>
    match ← openLog system.toFiles settings with
    | .error failure => return .failure "" failure
    | .ok sink? =>
      let content ← system.read arguments.trace
      let opening := Sink.shown sink? (system.opening arguments settings content)
      match loadTrace arguments.trace content with
      | .error failure => return .failure opening failure
      | .ok events =>
        match settings.predictor.crash? system.allocates with
        | some crash => return .crash opening crash
        | none =>
          match replayTrace settings events with
          | .error failure => return .failure opening failure
          | .ok report =>
            let printed := ofLines (report.lines arguments.request.summaryOnly)
            let closing := Sink.shown sink? (system.closing arguments settings report)
            return .success (opening ++ printed ++ closing)

/-- Runs the program as some words ask for. -/
def runWords (system : System m) (words : List String) (environment : Option String) :
    m RunResult := do
  match Arguments.ofWords words environment with
  | .error ending => return .ending ending
  | .ok arguments => arguments.run system

end PointerForecast
