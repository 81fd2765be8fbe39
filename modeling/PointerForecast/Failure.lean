/-
**Failures of a run.**

A failure has a cause, and contexts around it that say what was being done. `Failure.contexts` lists
them, the outermost first and the cause last.
-/

import PointerForecast.Settings.Check

namespace PointerForecast

/-- Why a run ends early. -/
inductive Failure where
  /-- The settings could not be read from their file. -/
  | unreadableSettings (path cause : String)
  /-- The file does not hold settings. -/
  | malformedSettings (cause : String)
  /-- A setting is out of range. -/
  | rejectedSettings (fault : SettingFault Float)
  /-- The log could not be written to its file. -/
  | unwritableLog (path cause : String)
  /-- The trace could not be read from its file. -/
  | unreadableTrace (path cause : String)
  /-- The file does not hold a trace. -/
  | malformedTrace (cause : String)
  /-- An event of the trace has a wrong shape. -/
  | invalidEvent (index : Nat) (fault : Fault)
  /-- The predictor could not be built. -/
  | predictor (fault : Fault)
deriving DecidableEq

namespace Failure

/-- The contexts of a failure, the outermost first, and its cause. -/
def contexts : Failure → List String
  | unreadableSettings path cause => ["Failed to read config file: " ++ path, cause]
  | malformedSettings cause => ["Failed to parse config file", cause]
  | rejectedSettings fault => [fault.message]
  | unwritableLog path cause => ["Failed to create log file: " ++ path, cause]
  | unreadableTrace path cause => ["Failed to read trace file: " ++ path, cause]
  | malformedTrace cause => ["Failed to parse trace file", cause]
  | invalidEvent index fault => ["Invalid trace event #" ++ toString index, fault.message]
  | predictor fault => [fault.message]

/-- What was being done when the failure arose. -/
def summary (failure : Failure) : String := failure.contexts.head?.getD ""

/-- Contexts in one line. -/
def joinContexts (contexts : List String) : String := ": ".intercalate contexts

/-- All contexts of a failure in one line. -/
def text (failure : Failure) : String := joinContexts failure.contexts

end Failure

end PointerForecast
