import ScenarioResults.Json.Literal
import ScenarioResults.Json.Number

/-!
# Compact JSON text

No blanks, members in order, strings as literals and numbers in the fewest digits.
-/

namespace ScenarioResults.Json.Value

mutual

def compact : Value → List Char
  | .null => ['n', 'u', 'l', 'l']
  | .bool true => ['t', 'r', 'u', 'e']
  | .bool false => ['f', 'a', 'l', 's', 'e']
  | .number n => n.text
  | .string s => literal s
  | .array items => '[' :: (compactItems items ++ [']'])
  | .object members => '\x7b' :: (compactMembers members ++ ['\x7d'])

def compactItems : List Value → List Char
  | [] => []
  | [value] => compact value
  | value :: rest => compact value ++ ',' :: compactItems rest

def compactMembers : List (String × Value) → List Char
  | [] => []
  | [(name, value)] => literal name ++ ':' :: compact value
  | (name, value) :: rest => literal name ++ ':' :: (compact value ++ ',' :: compactMembers rest)

end

def text (value : Value) : String := String.ofList value.compact

end ScenarioResults.Json.Value
