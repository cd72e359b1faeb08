import ScenarioResults.Toml.Moment
import ScenarioResults.Toml.Value

/-!
# Tables that stand for moments

A table whose first key in order is a reserved one stands for the moment that it spells there. Its
other entries count for nothing. A document has no value if such a key comes first and spells no
moment, or if a number that counts is out of range.
-/

namespace ScenarioResults.Toml.Value

def momentKey : String := "$__toml_private_datetime"

def isFirstKey (key : String) (entries : List (String × Value)) : Bool :=
  entries.any (fun entry => entry.1 == key) && entries.all fun entry => !decide (entry.1 < key)

def spelledMoment? : Value → Option Value
  | .string text => (Moment.spelling? text.toList).map .moment
  | _ => none

mutual

/-- The value with moments in the place of the tables that stand for them. -/
def withMoments? : Value → Option Value
  | .outOfRange => none
  | .array items => (itemsWithMoments? items).map .array
  | .table entries =>
    if isFirstKey momentKey entries then (entries.lookup momentKey).bind spelledMoment?
    else (entriesWithMoments? entries).map .table
  | value => some value

def itemsWithMoments? : List Value → Option (List Value)
  | [] => some []
  | value :: rest => do
    let value ← withMoments? value
    let values ← itemsWithMoments? rest
    some (value :: values)

def entriesWithMoments? : List (String × Value) → Option (List (String × Value))
  | [] => some []
  | (key, value) :: rest => do
    let value ← withMoments? value
    let entries ← entriesWithMoments? rest
    some ((key, value) :: entries)

end

end ScenarioResults.Toml.Value
