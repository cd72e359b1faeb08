/-!
# TOML values

A document is a table. A date or a time is kept as its text. A number out of range has a place in a
document but no value.
-/

namespace ScenarioResults.Toml

inductive Value where
  | string (s : String)
  | integer (n : Int)
  | float (x : Float)
  | outOfRange
  | boolean (b : Bool)
  | moment (text : String)
  | array (items : List Value)
  | table (entries : List (String × Value))
  deriving Inhabited

namespace Value

def get? (key : String) : Value → Option Value
  | .table entries => entries.lookup key
  | _ => none

def integer? : Value → Option Int
  | .integer n => some n
  | _ => none

def text? : Value → Option String
  | .string s => some s
  | .moment text => some text
  | _ => none

end Value

end ScenarioResults.Toml
