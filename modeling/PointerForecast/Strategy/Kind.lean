/-
**The names of the strategies.**

A strategy can be named in several ways, in any case. Case is folded as Unicode's full lower case
mapping does; of all characters outside ASCII only the Kelvin sign lowers to a letter that occurs in
a name.
-/

namespace PointerForecast

/-- The strategies that can be chosen. -/
inductive StrategyKind where
  /-- Follow the kinematic estimate. -/
  | kalman
  /-- Extrapolate the smoothed motion. -/
  | linear
deriving DecidableEq, Repr

namespace StrategyKind

/-- The name of a strategy in answers. -/
def name : StrategyKind → String
  | kalman => "Kalman"
  | linear => "Linear"

/-- What a strategy is good for. -/
def description : StrategyKind → String
  | kalman => "Kalman filter with adaptive confidence (ink quality)"
  | linear => "Linear extrapolation (lowest cost)"

/-- The words that choose a strategy, in lower case. -/
def words : StrategyKind → List String
  | kalman => ["kalman", "filter", "default"]
  | linear => ["linear", "physics", "extrapolate"]

/-- The lower case of a character, as far as it can be part of a strategy's word. -/
def fold (c : Char) : Char := if c = '\u212a' then 'k' else c.toLower

/-- The strategy that a text chooses. -/
def ofText? (text : String) : Option StrategyKind :=
  let folded := String.ofList (text.toList.map fold)
  [kalman, linear].find? fun kind => kind.words.contains folded

/-- The text shown for a text that chooses no strategy. -/
def unknownMessage (text : String) : String := "Unknown predictor strategy: " ++ text

end StrategyKind

end PointerForecast
