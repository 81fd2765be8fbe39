/-
**Faults of a caller.** A rate that cannot be used, and an event whose shape is wrong. An estimate
is never a fault: a session that cannot predict answers that there is no prediction.
-/

namespace PointerForecast

/-- Why a setting or an event is refused. -/
inductive Fault where
  /-- An explicit report rate must be positive. -/
  | invalidReportRate (milliseconds : Int32)
  /-- A batch must hold one entry per pointer. -/
  | pointerCountMismatch (pointers entries : Nat)
  /-- An event must hold a batch. -/
  | emptyEvent
deriving DecidableEq, Repr

/-- The text shown for a fault. -/
def Fault.message : Fault → String
  | .invalidReportRate milliseconds =>
    "Invalid report rate: " ++ toString milliseconds.toInt ++ "ms (must be strictly positive)"
  | .pointerCountMismatch pointers entries =>
    "Pointer count mismatch: event has " ++ toString pointers ++ " pointers but sample has "
      ++ toString entries
  | .emptyEvent => "Motion event contains no samples"

end PointerForecast
