/-
**Reports as text.**

A report is printed as JSON records, one per line: one for each frame and one for the summary. The
records are compact, with their fields in a fixed order. What is not a finite number is null.
-/

import PointerForecast.Decimal.Layout
import PointerForecast.Replay

namespace PointerForecast

/-- A record of fields with their texts. -/
def recordText (fields : List (String × String)) : String :=
  let field : String × String → String := fun (name, value) => "\"" ++ name ++ "\":" ++ value
  "\x7b" ++ ",".intercalate (fields.map field) ++ "\x7d"

/-- A list of texts. -/
def listText (items : List String) : String := "[" ++ ",".intercalate items ++ "]"

/-- A text, or null. -/
def optionText {β : Type} (text : β → String) : Option β → String
  | some value => text value
  | none => "null"

/-- Predicted coordinates. -/
def Coords.text (coords : Coords Float) : String :=
  let number (value : Float) : String :=
    (NumberLayout.recordSingle.finite? (.ofSingle value)).getD "null"
  recordText [("x", number coords.x), ("y", number coords.y), ("pressure", number coords.pressure)]

/-- A prediction. -/
def Prediction.text (prediction : Prediction Float) : String :=
  recordText [("pointer_id", toString prediction.pointer.toInt),
    ("samples", listText (prediction.samples.map Coords.text))]

/-- A frame. -/
def Frame.text (frame : Frame Float) : String :=
  recordText [("time_ms", optionText (fun time => toString time.toInt) frame.time?),
    ("handled", if frame.handled then "true" else "false"),
    ("prediction", optionText Prediction.text frame.prediction)]

/-- A summary. -/
def Summary.text (summary : Summary) : String :=
  let mean : Float := summary.meanHorizon
  recordText [("events", toString summary.events), ("handled", toString summary.handled),
    ("not_ready", toString summary.notReady),
    ("predicted_samples", toString summary.predictedSamples),
    ("mean_horizon", (NumberLayout.recordDouble.finite? (.ofDouble mean)).getD "null"),
    ("max_horizon", toString summary.maxHorizon)]

/-- The lines of a report: its frames, unless only the summary is asked for, and its summary. -/
def Report.lines (summaryOnly : Bool) (report : Report Float) : List String :=
  (if summaryOnly then [] else report.frames.map Frame.text) ++ [report.summary.text]

end PointerForecast
