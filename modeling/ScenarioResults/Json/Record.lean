import ScenarioResults.Json.Tree

/-!
# Records in JSON

A record is an object with known members, or an array of their values in order. A known member may
be missing but not repeated; other members may hold anything.
-/

namespace ScenarioResults.Json.Tree

def withName (name : String) (members : List (Option String × Tree)) : List Tree :=
  (members.filter fun member => member.1 == some name).map Prod.snd

/-- The tree of the one member with a name, if there is one. More than one are refused. -/
def atMostOne (name : String) (members : List (Option String × Tree)) : Option (Option Tree) :=
  match withName name members with
  | [] => some none
  | [tree] => some (some tree)
  | _ => none

def fields? (names : List String) : Tree → Option (List (Option Tree))
  | .array items =>
    if items.length ≤ names.length then
      some ((List.range names.length).map fun n => items[n]?)
    else none
  | .object members =>
    if members.all fun member => member.1.isSome then
      names.mapM fun name => atMostOne name members
    else none
  | _ => none

def items? : Tree → Option (List Tree)
  | .array items => some items
  | _ => none

def text? : Tree → Option String
  | .string s => s
  | _ => none

/-- The name of a case: a string, or an object with that one member and nothing in it. -/
def caseName? : Tree → Option String
  | .string s => s
  | .object [(name, .null)] => name
  | _ => none

end ScenarioResults.Json.Tree
