/-
**Loading settings and traces from files.**

A file is read, then parsed as a whole, then checked. The first step that fails gives the failure.
-/

import PointerForecast.Failure
import PointerForecast.Settings.Document
import PointerForecast.Trace

namespace PointerForecast

/-- What reading a file gives: its bytes, or why there are none. -/
abbrev FileContent := Except String ByteArray

/-- The text of a file. -/
def FileContent.text (content : FileContent) : Except String String :=
  match content with
  | .error cause => .error cause
  | .ok bytes =>
    match String.fromUTF8? bytes with
    | some text => .ok text
    | none => .error "stream did not contain valid UTF-8"

/-- The settings that a file gives. -/
def loadSettings (path : String) (content : FileContent) : Except Failure (Settings Float) := do
  let text ← content.text.mapError (.unreadableSettings path)
  let settings ← (Settings.ofText text).mapError .malformedSettings
  settings.check.mapError .rejectedSettings

/-- The events of a trace, each of a right shape. -/
def checkTrace (events : List (MotionEvent Float)) : Except Failure (List (MotionEvent Float)) :=
  match Trace.fault? events with
  | some (index, fault) => .error (.invalidEvent index fault)
  | none => .ok events

/-- The trace that a file gives. -/
def loadTrace (path : String) (content : FileContent) :
    Except Failure (List (MotionEvent Float)) := do
  let text ← content.text.mapError (.unreadableTrace path)
  let events ← (Trace.ofText text).mapError fun misreading => .malformedTrace misreading.message
  checkTrace events

/-- The settings that a program runs with: those of a file, or the usual ones, with those of the
caller in place. -/
def settle (settings : Settings Float) (overrides : Overrides) :
    Except Failure (Settings Float) :=
  (settings.override overrides).check.mapError .rejectedSettings

end PointerForecast
