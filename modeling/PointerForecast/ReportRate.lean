/-
**The report rate of a sensor.**

The time between two reports is estimated by the mean of the first differences seen: a sensor's
clock is uneven, so the mean is taken over at most `capacity` of them and then kept. An explicit
rate replaces the estimate for good.
-/

import PointerForecast.Scalar

namespace PointerForecast

/-- What is known about the time between two reports, in milliseconds. -/
inductive ReportRate (α : Type) where
  /-- Differences are still collected, oldest first. -/
  | accumulating (deltas : List α)
  /-- Enough differences were collected, and their mean is kept. -/
  | capped (mean : α)
  /-- The rate was given. -/
  | overridden (rate : α)
deriving DecidableEq

namespace ReportRate

/-- How many differences the estimate is taken over. -/
def capacity : Nat := 20

variable {α : Type}

/-- Nothing observed yet. -/
def unknown : ReportRate α := .accumulating []

/-- Replaces the estimate. -/
def override (_ : ReportRate α) (rate : α) : ReportRate α := .overridden rate

/-- Holds once a rate was given. -/
def isOverridden : ReportRate α → Bool
  | .overridden _ => true
  | _ => false

/-- How many differences the estimate rests on. -/
def sampleCount : ReportRate α → Nat
  | .accumulating deltas => deltas.length
  | .capped _ => capacity
  | .overridden _ => 0

variable [Scalar α]

/-- Takes one more difference into account, unless the rate is settled. -/
def record (rate : ReportRate α) (delta : α) : ReportRate α :=
  match rate with
  | .accumulating deltas =>
    let collected := deltas ++ [delta]
    if collected.length = capacity then .capped (Scalar.mean collected)
    else .accumulating collected
  | settled => settled

/-- One more difference: it is collected, or it is the last one that is. -/
theorem record_accumulating (deltas : List α) (delta : α) :
    (accumulating deltas).record delta =
      if deltas.length + 1 = capacity then .capped (Scalar.mean (deltas ++ [delta]))
      else .accumulating (deltas ++ [delta]) := by
  have length : (deltas ++ [delta]).length = deltas.length + 1 := List.length_append
  rw [← length]
  rfl

/-- The rate in milliseconds; zero before any difference. -/
def milliseconds : ReportRate α → α
  | .accumulating deltas => Scalar.mean deltas
  | .capped mean => mean
  | .overridden rate => rate

/-- Holds of a rate by which a time can be divided. -/
def isUsable (rate : ReportRate α) : Bool :=
  Scalar.isFinite rate.milliseconds && 0 < rate.milliseconds

end ReportRate

end PointerForecast
