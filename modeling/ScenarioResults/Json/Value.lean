/-!
# JSON values

Members of an object keep the order in which their names first appear, so what is printed follows
what was read. A number that is whole and fits a signed or unsigned 64-bit word stays whole; every
other one is a binary number of double width.
-/

namespace ScenarioResults.Json

inductive Number where
  | whole (n : Int)
  | binary (x : Float)
  deriving Inhabited

def fitsWord (n : Int) : Bool := -0x8000000000000000 ≤ n && n < 0x10000000000000000

inductive Value where
  | null
  | bool (b : Bool)
  | number (n : Number)
  | string (s : String)
  | array (items : List Value)
  | object (members : List (String × Value))
  deriving Inhabited

abbrev Members := List (String × Value)

/-- A member under a name: in the place of the one it replaces, else at the end. -/
def Members.put (name : String) (value : Value) : Members → Members
  | [] => [(name, value)]
  | (other, old) :: rest =>
    if other = name then (name, value) :: rest else (other, old) :: put name value rest

/-- Members written one after the other: of equal names the first place and the last value count. -/
def Members.ofPairs (pairs : List (String × Value)) : Members :=
  pairs.foldl (fun members pair => members.put pair.1 pair.2) []

def Members.get? (name : String) (members : Members) : Option Value := members.lookup name

def Members.names (members : Members) : List String := members.map Prod.fst

namespace Value

def string? : Value → Option String
  | .string s => some s
  | _ => none

def member? (name : String) : Value → Option Value
  | .object members => Members.get? name members
  | _ => none

def isVoid : Value → Bool
  | .null => true
  | .array items => items.isEmpty
  | .object members => members.isEmpty
  | _ => false

end Value

theorem Members.names_cons (name : String) (value : Value) (rest : Members) :
    Members.names ((name, value) :: rest) = name :: rest.names := rfl

theorem Members.names_put (name : String) (value : Value) (members : Members) :
    (members.put name value).names =
      if name ∈ members.names then members.names else members.names ++ [name] := by
  induction members with
  | nil => rfl
  | cons pair rest ih =>
    obtain ⟨other, old⟩ := pair
    rw [names_cons]
    by_cases same : other = name
    · rw [put, if_pos same, names_cons, same, if_pos List.mem_cons_self]
    · have different : name ∈ other :: Members.names rest ↔ name ∈ Members.names rest :=
        List.mem_cons.trans (or_iff_right fun e => same e.symm)
      rw [put, if_neg same, names_cons, ih]
      split
      next known => rw [if_pos (different.2 known)]
      next unknown => rw [if_neg (mt different.1 unknown), List.cons_append]

end ScenarioResults.Json
