/-
**The words of a command line.**

An option has a long name after two dashes and perhaps a letter after one. A value stands behind a
sign of equality, right behind the letter, or in the next word; letters without values may share a
word. A word that begins with a dash is no value in the next word, except a negative number where
one is allowed. There are no words but options; two dashes may end them.

* `Arguments.ofWords` — **what the words ask for**, or why a run ends before it begins. Words count
  from left to right, so of a request for the version and a misuse the first one wins.
-/

import PointerForecast.Digits
import PointerForecast.Settings.Check

namespace PointerForecast

/-- Options with a value. -/
inductive ValueOption where
  /-- The file of the trace. -/
  | trace
  /-- The file of the settings. -/
  | config
  /-- How far ahead to predict. -/
  | target
  /-- The explicit report rate. -/
  | reportRate
  /-- The strategy. -/
  | strategy
  /-- The layout of the log. -/
  | logFormat
  /-- The file of the log. -/
  | logFile
deriving DecidableEq, Repr

/-- Options without a value. -/
inductive Switch where
  /-- Log more. -/
  | verbose
  /-- Print only the summary. -/
  | summaryOnly
  /-- Print the version. -/
  | version
  /-- Print the usage. -/
  | help
deriving DecidableEq, Repr

/-- An option. -/
inductive CommandOption where
  /-- One with a value. -/
  | valued (option : ValueOption)
  /-- One without. -/
  | switch (switch : Switch)
deriving DecidableEq, Repr

/-- The options by their long names. -/
def CommandOption.longNames : List (String × CommandOption) :=
  [("trace", .valued .trace), ("config", .valued .config), ("target", .valued .target),
    ("report-rate", .valued .reportRate), ("strategy", .valued .strategy),
    ("log-format", .valued .logFormat), ("log-file", .valued .logFile),
    ("verbose", .switch .verbose), ("summary-only", .switch .summaryOnly),
    ("version", .switch .version), ("help", .switch .help)]

/-- The options by their letters. -/
def CommandOption.letters : List (Char × CommandOption) :=
  [('t', .valued .trace), ('c', .valued .config), ('v', .switch .verbose),
    ('V', .switch .version), ('h', .switch .help)]

/-- Why words cannot be followed. -/
inductive Misuse where
  /-- There is no such option. -/
  | unknownOption (name : String)
  /-- The option needs a value. -/
  | missingValue
  /-- The option takes no value. -/
  | excessValue (name : String)
  /-- The option was given before. -/
  | repeated
  /-- The value is not one of the option's. -/
  | invalidValue (value : String)
  /-- The word is no option. -/
  | unexpectedWord (word : String)
  /-- The trace is not given. -/
  | missingTrace
deriving DecidableEq, Repr

namespace Misuse

/-- The text shown for a misuse. -/
def message : Misuse → String
  | unknownOption name => "unknown option " ++ name
  | missingValue => "an option lacks its value"
  | excessValue name => "option " ++ name ++ " takes no value"
  | repeated => "an option is given twice"
  | invalidValue value => "invalid value " ++ value
  | unexpectedWord word => "unexpected word " ++ word
  | missingTrace => "option --trace is required"

end Misuse

/-- Why a run ends before it begins. -/
inductive Ending where
  /-- The version is asked for. -/
  | version
  /-- The usage is asked for. -/
  | help
  /-- The words cannot be followed. -/
  | misuse (misuse : Misuse)
deriving DecidableEq, Repr

/-- What words ask for, as far as they are read. -/
structure Request where
  /-- The file of the trace. -/
  trace? : Option String
  /-- The file of the settings. -/
  config? : Option String
  /-- The settings that go before all others. -/
  overrides : Overrides
  /-- How much more to log. -/
  verbosity : Nat
  /-- The layout of the log. -/
  logFormat? : Option String
  /-- The file of the log. -/
  logFile? : Option String
  /-- Whether only the summary is printed. -/
  summaryOnly : Bool
deriving DecidableEq

/-- A 32-bit number: digits, perhaps with a sign in front. -/
def parseInt32? (text : String) : Option Int32 := do
  let (negative, digits) := takeSign text.toList
  let value := signed negative (← natural? 10 digits)
  if Int32.minValue.toInt ≤ value ∧ value ≤ Int32.maxValue.toInt then some (.ofInt value) else none

namespace Request

/-- Nothing asked for. -/
def empty : Request := ⟨none, none, ⟨none, none, none⟩, 0, none, none, false⟩

/-- A value for what has none yet. -/
def assign {β : Type} (current : Option β) (text : String) (parse? : String → Option β) :
    Except Ending (Option β) :=
  match current, parse? text with
  | some _, _ => .error (.misuse .repeated)
  | none, none => .error (.misuse (.invalidValue text))
  | none, some value => .ok (some value)

/-- The request with a value for an option. -/
def set (request : Request) (option : ValueOption) (text : String) : Except Ending Request :=
  let given := request.overrides
  match option with
  | .trace => do return { request with trace? := ← assign request.trace? text some }
  | .config => do return { request with config? := ← assign request.config? text some }
  | .target => do
    let target? ← assign given.target? text parseInt32?
    return { request with overrides := { given with target? := target? } }
  | .reportRate => do
    let rate? ← assign given.rate? text parseInt32?
    return { request with overrides := { given with rate? := rate? } }
  | .strategy => do
    let strategy? ← assign given.strategy? text StrategyKind.ofText?
    return { request with overrides := { given with strategy? := strategy? } }
  | .logFormat => do return { request with logFormat? := ← assign request.logFormat? text some }
  | .logFile => do return { request with logFile? := ← assign request.logFile? text some }

/-- The request with an option that has no value. -/
def turnOn (request : Request) : Switch → Except Ending Request
  | .verbose => .ok { request with verbosity := request.verbosity + 1 }
  | .summaryOnly =>
    if request.summaryOnly then .error (.misuse .repeated)
    else .ok { request with summaryOnly := true }
  | .version => .error .version
  | .help => .error .help

/-- Holds of a word that can be the value of an option in the word before. -/
def isValue (option : ValueOption) (word : String) : Bool :=
  match word.toList with
  | '-' :: c :: rest => option == .reportRate && (c :: rest).all Char.isDigit
  | _ => true

/-- Takes the letters of a word. A letter with a value takes the rest of the word for it, or else is
left without. -/
def takeLetters : List Char → Request → Except Ending (Request × Option ValueOption)
  | [], request => .ok (request, none)
  | letter :: rest, request =>
    match CommandOption.letters.lookup letter with
    | none => .error (.misuse (.unknownOption (String.singleton letter)))
    | some (.switch switch) => do takeLetters rest (← request.turnOn switch)
    | some (.valued option) =>
      match rest with
      | [] => .ok (request, some option)
      | '=' :: value => do return (← request.set option (String.ofList value), none)
      | value => do return (← request.set option (String.ofList value), none)

/-- Takes an option by its long name, with the value behind the sign of equality if there is one. An
option that has to take its value from the next word is left without. -/
def takeLong (text : List Char) (request : Request) :
    Except Ending (Request × Option ValueOption) :=
  let name := String.ofList (text.takeWhile (· != '='))
  let value? := match text.dropWhile (· != '=') with
    | _ :: value => some (String.ofList value)
    | [] => none
  match CommandOption.longNames.lookup name, value? with
  | none, _ => .error (.misuse (.unknownOption name))
  | some (.switch _), some _ => .error (.misuse (.excessValue name))
  | some (.switch switch), none => do return (← request.turnOn switch, none)
  | some (.valued option), some value => do return (← request.set option value, none)
  | some (.valued option), none => .ok (request, some option)

/-- Takes the options of one word. -/
def takeWord (word : String) (request : Request) : Except Ending (Request × Option ValueOption) :=
  match word.toList with
  | '-' :: '-' :: text => request.takeLong text
  | '-' :: letter :: rest => request.takeLetters (letter :: rest)
  | _ => .error (.misuse (.unexpectedWord word))

/-- Takes words one by one; `waiting` is the option whose value comes next. -/
def takeWords : (waiting : Option ValueOption) → List String → Request → Except Ending Request
  | none, [], request => .ok request
  | some _, [], _ => .error (.misuse .missingValue)
  | some option, word :: rest, request =>
    if isValue option word then do takeWords none rest (← request.set option word)
    else .error (.misuse .missingValue)
  | none, "--" :: rest, request =>
    match rest with
    | [] => .ok request
    | word :: _ => .error (.misuse (.unexpectedWord word))
  | none, word :: rest, request => do
    let (next, waiting) ← request.takeWord word
    takeWords waiting rest next

end Request

/-- What a run is asked for. -/
structure Arguments where
  /-- The file of the trace. -/
  trace : String
  /-- All else that was asked for. -/
  request : Request
deriving DecidableEq

/-- What words ask for. The file of the settings may be given by the environment. -/
def Arguments.ofWords (words : List String) (environment : Option String) :
    Except Ending Arguments := do
  let request ← Request.takeWords none words .empty
  match request.trace? with
  | some trace => return ⟨trace, { request with config? := request.config?.or environment }⟩
  | none => .error (.misuse .missingTrace)

end PointerForecast
