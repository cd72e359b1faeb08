import ScenarioResults.Json.Token

/-!
# JSON text as it is written

A tree keeps what a value loses: members that repeat a name, numbers out of range and strings with
half a surrogate pair. Building one is a machine over the tokens that holds the open containers, the
innermost first. A tree has a value exactly if every number and string in it has one and it does not
nest too deep. A part that nobody uses may be as deep as it likes.
-/

namespace ScenarioResults.Json

inductive Tree where
  | null
  | bool (b : Bool)
  | number (n : Option Number)
  | string (s : Option String)
  | array (items : List Tree)
  | object (members : List (Option String × Tree))

/-- An open container with what it holds so far in reverse. An object between a colon and the value
after it holds the name as well. -/
inductive Frame where
  | array (items : List Tree)
  | object (members : List (Option String × Tree)) (name : Option String)

inductive Expected where
  | value
  | itemOrEnd
  | name (members : List (Option String × Tree))
  | nameOrEnd
  | colon (members : List (Option String × Tree)) (name : Option String)
  | commaOrEnd
  | nothing (tree : Tree)

/-- The most containers that a part of a value lies in. -/
def maxDepth : Nat := 127

structure Build where
  frames : List Frame
  expected : Expected

namespace Tree

def close (tree : Tree) : List Frame → Build
  | [] => ⟨[], .nothing tree⟩
  | .array items :: rest => ⟨.array (tree :: items) :: rest, .commaOrEnd⟩
  | .object members name :: rest => ⟨.object ((name, tree) :: members) name :: rest, .commaOrEnd⟩

def begin (frames : List Frame) (token : Token) : Option Build :=
  match token with
  | .null => some (close .null frames)
  | .bool b => some (close (.bool b) frames)
  | .number n => some (close (.number n) frames)
  | .string s => some (close (.string s) frames)
  | .openBracket => some ⟨.array [] :: frames, .itemOrEnd⟩
  | .openBrace => some ⟨.object [] none :: frames, .nameOrEnd⟩
  | _ => none

def step (build : Build) (token : Token) : Option Build :=
  match build.expected, token, build.frames with
  | .value, token, frames => begin frames token
  | .itemOrEnd, .closeBracket, .array items :: rest => some (close (.array items.reverse) rest)
  | .itemOrEnd, token, frames => begin frames token
  | .nameOrEnd, .closeBrace, .object members _ :: rest =>
    some (close (.object members.reverse) rest)
  | .nameOrEnd, .string s, .object members _ :: rest => some ⟨rest, .colon members s⟩
  | .name members, .string s, rest => some ⟨rest, .colon members s⟩
  | .colon members name, .colon, rest => some ⟨.object members name :: rest, .value⟩
  | .commaOrEnd, .comma, .array items :: rest => some ⟨.array items :: rest, .value⟩
  | .commaOrEnd, .comma, .object members _ :: rest => some ⟨rest, .name members⟩
  | .commaOrEnd, .closeBracket, .array items :: rest => some (close (.array items.reverse) rest)
  | .commaOrEnd, .closeBrace, .object members _ :: rest =>
    some (close (.object members.reverse) rest)
  | _, _, _ => none

def ofTokens? (tokens : List Token) : Option Tree :=
  match tokens.foldlM step ⟨[], .value⟩ with
  | some ⟨_, .nothing tree⟩ => some tree
  | _ => none

def ofText? (text : String) : Option Tree := (Token.scan? text.toList).bind ofTokens?

mutual

/-- The value that a tree stands for inside a number of containers. -/
def valueIn? (outer : Nat) : Tree → Option Value
  | .null => some .null
  | .bool b => some (.bool b)
  | .number n => n.map .number
  | .string s => s.map .string
  | .array items => if outer < maxDepth then (valuesIn? (outer + 1) items).map .array else none
  | .object members =>
    if outer < maxDepth then
      (memberValuesIn? (outer + 1) members).map fun pairs => .object (Members.ofPairs pairs)
    else none

def valuesIn? (outer : Nat) : List Tree → Option (List Value)
  | [] => some []
  | tree :: rest => do
    let value ← valueIn? outer tree
    let values ← valuesIn? outer rest
    some (value :: values)

def memberValuesIn? (outer : Nat) :
    List (Option String × Tree) → Option (List (String × Value))
  | [] => some []
  | (name, tree) :: rest => do
    let name ← name
    let value ← valueIn? outer tree
    let members ← memberValuesIn? outer rest
    some ((name, value) :: members)

end

def value? (tree : Tree) : Option Value := tree.valueIn? 0

end Tree

def Value.ofText? (text : String) : Option Value := (Tree.ofText? text).bind Tree.value?

end ScenarioResults.Json
