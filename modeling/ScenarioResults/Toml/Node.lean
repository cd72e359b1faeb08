import ScenarioResults.Toml.Value

/-!
# Documents under way

While a document is read its tables remember how they came to be, since that decides what may still
be added to them. A table may be opened by its own header once; a dotted key adds only to tables
that dotted keys made; a value is closed once it stands.
-/

namespace ScenarioResults.Toml

inductive Origin where
  /-- A longer header went through it. -/
  | implied
  /-- It has a header of its own. -/
  | header
  /-- A dotted key went through it. -/
  | dotted
  deriving DecidableEq, Repr

inductive Node where
  | value (value : Value)
  | table (origin : Origin) (entries : List (String × Node))
  /-- Tables under one header in double brackets, the last of which is open. -/
  | tables (items : List (List (String × Node)))

abbrev Entries := List (String × Node)

namespace Entries

def put (key : String) (node : Node) : Entries → Entries
  | [] => [(key, node)]
  | (other, old) :: rest =>
    if other = key then (key, node) :: rest else (other, old) :: put key node rest

/-- A change of the table that a path of keys leads to. Tables that are missing on the way are made
with the given origin, and a dotted key does not go through a table with a header. -/
def under (made : Origin) (change : Origin → Entries → Option (Origin × Entries)) :
    List String → Origin → Entries → Option (Origin × Entries)
  | [], origin, entries => change origin entries
  | key :: path, origin, entries =>
    match entries.lookup key with
    | none => do
      let (inner, below) ← under made change path made []
      some (origin, entries ++ [(key, .table inner below)])
    | some (.table inner below) =>
      if made = .dotted ∧ inner = .header then none
      else do
        let (inner, below) ← under made change path inner below
        some (origin, put key (.table inner below) entries)
    | some (.tables items) => do
      let (_, below) ← under made change path .header (← items.getLast?)
      some (origin, put key (.tables (items.dropLast ++ [below])) entries)
    | some (.value _) => none

def define (path : List String) (key : String) (value : Value) (entries : Entries) :
    Option Entries := do
  let add (origin : Origin) (below : Entries) : Option (Origin × Entries) :=
    if (origin = .dotted ↔ path ≠ []) ∧ below.lookup key = none then
      some (origin, below ++ [(key, .value value)])
    else none
  let (_, entries) ← under .dotted add path .header entries
  some entries

/-- The table of a header opened: a new one, or one that only longer headers went through. -/
def openTable (path : List String) (key : String) (entries : Entries) : Option Entries := do
  let openHere (origin : Origin) (below : Entries) : Option (Origin × Entries) :=
    match below.lookup key with
    | none => some (origin, below ++ [(key, .table .header [])])
    | some (.table .implied inner) => some (origin, put key (.table .header inner) below)
    | _ => none
  let (_, entries) ← under .implied openHere path .header entries
  some entries

def openItem (path : List String) (key : String) (entries : Entries) : Option Entries := do
  let openHere (origin : Origin) (below : Entries) : Option (Origin × Entries) :=
    match below.lookup key with
    | none => some (origin, below ++ [(key, .tables [[]])])
    | some (.tables items) => some (origin, put key (.tables (items ++ [[]])) below)
    | _ => none
  let (_, entries) ← under .implied openHere path .header entries
  some entries

def defineUnder (header path : List String) (key : String) (value : Value) (entries : Entries) :
    Option Entries := do
  let inTable (origin : Origin) (below : Entries) : Option (Origin × Entries) := do
    some (origin, ← define path key value below)
  let (_, entries) ← under .implied inTable header .header entries
  some entries

end Entries

namespace Node

mutual

def finish : Node → Value
  | .value closed => closed
  | .table _ entries => .table (finishEntries entries)
  | .tables items => .array (finishTables items)

def finishEntries : List (String × Node) → List (String × Value)
  | [] => []
  | (key, node) :: rest => (key, finish node) :: finishEntries rest

def finishTables : List (List (String × Node)) → List Value
  | [] => []
  | entries :: rest => .table (finishEntries entries) :: finishTables rest

end

end Node

end ScenarioResults.Toml
