/-
**What a user is told about a failure.**

The text of a failure, with all its contexts, is shown under a heading with hints. The heading is
chosen by the words of the text, so a path or a name in the text can decide it too.
-/

import PointerForecast.Failure

namespace PointerForecast

/-- What a failure is about. -/
inductive Heading where
  /-- The report rate. -/
  | reportRate
  /-- The trace. -/
  | trace
  /-- The settings. -/
  | configuration
  /-- Anything else. -/
  | prediction
deriving DecidableEq, Repr

/-- Holds if a phrase occurs in a text. -/
def occursIn (phrase : List Char) : List Char → Bool
  | [] => phrase.isEmpty
  | c :: rest => phrase.isPrefixOf (c :: rest) || occursIn phrase rest

/-- Holds of a text in which a phrase occurs. -/
def mentions (text phrase : String) : Bool := occursIn phrase.toList text.toList

namespace Heading

/-- The heading that the words of a text choose. -/
def ofText (text : String) : Heading :=
  if mentions text "report rate" then reportRate
  else if mentions text "trace" then trace
  else if mentions text "config" || mentions text "Invalid" then configuration
  else prediction

/-- The heading as it is shown. -/
def title : Heading → String
  | reportRate => "Report Rate Error"
  | trace => "Trace Error"
  | configuration => "Configuration Error"
  | prediction => "Prediction Error"

/-- The hints under a heading. -/
def hints (text : String) : Heading → List String
  | reportRate =>
    ["The report rate must be a positive number of milliseconds.",
      "",
      "  → Typical stylus digitizers report every 4-8ms",
      "  → Omit --report-rate to estimate it from event timestamps"]
  | trace =>
    ["Problem reading the motion event trace.",
      "",
      "Common Causes:",
      "",
      "  1. Trace file not found",
      "     → Specify: lamco-motion-predict --trace stroke.json",
      "",
      "  2. Invalid JSON",
      "     → The trace must be a JSON array of motion events",
      "     → See demos/straight_stroke.json for reference",
      "",
      "  3. Malformed event",
      "     → Every sample needs one coordinate set per pointer id"]
  | configuration =>
    ["Problem with configuration file.",
      "",
      "Common Causes:",
      "",
      "  1. Configuration file not found",
      "     → Specify: lamco-motion-predict -c /path/to/predictor.toml",
      "",
      "  2. Invalid TOML syntax",
      "     → Check for typos, missing quotes, etc.",
      "",
      "  3. Out of range values",
      "     → Noise values must be positive",
      "     → Smoothing factors must be in (0, 1]",
      "     → See demos/predictor.toml for reference"]
  | prediction => ["Error: " ++ text]

end Heading

/-- A line of a repeated character. -/
def ruleLine (c : Char) (length : Nat) : String := String.ofList (List.replicate length c)

/-- What a user is told about a failure with a text. -/
def diagnosis (text : String) : String :=
  let heading := Heading.ofText text
  let lines : List String :=
    ["",
      "╔" ++ ruleLine '═' 60 ++ "╗",
      "║                     ERROR                                  ║",
      "╚" ++ ruleLine '═' 60 ++ "╝",
      "",
      heading.title,
      ""]
    ++ heading.hints text
    ++ ["",
      ruleLine '━' 58,
      "Technical Details:",
      "",
      text,
      "",
      ruleLine '━' 58,
      "Need Help?",
      "  - Run with --verbose for detailed logs: lamco-motion-predict -vv"]
  String.join (lines.map (· ++ "\n"))

/-- The heading that a failure is shown under. -/
def Failure.heading (failure : Failure) : Heading := .ofText failure.text

end PointerForecast
