/-
**The program.** Runs over the files of the system, prints the report, and writes what a user is
told about a failure to the error output.
-/

import PointerForecast.CommandLine.Run
import PointerForecast.Diagnosis

namespace PointerForecast

/-- The system that the program runs on. It keeps no log. -/
def host : System IO where
  read path := do
    try
      return .ok (← IO.FS.readBinFile path)
    catch failure =>
      return .error (toString failure)
  create path := do
    try
      IO.FS.writeBinFile path .empty
      return .ok .apart
    catch failure =>
      return .error (toString failure)
  -- more than this is beyond what a process can address
  allocates bytes := bytes < Nat.pow 2 47
  opening _ _ _ := ""
  closing _ _ _ := ""

end PointerForecast

open PointerForecast in
/-- The program: its words and its environment decide what it does. -/
def main (words : List String) : IO UInt32 := do
  let environment ← IO.getEnv "LAMCO_PREDICT_CONFIG"
  let result ← runWords host words environment
  IO.print result.output
  if let some failure := result.complaint then
    IO.eprintln (diagnosis failure.text)
  return result.exit
