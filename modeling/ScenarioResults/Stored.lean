import ScenarioResults.Filter
import ScenarioResults.FilterValue
import ScenarioResults.Json.Printer
import ScenarioResults.Json.Record
import ScenarioResults.Options
import ScenarioResults.Plot
import ScenarioResults.Scenario
import ScenarioResults.Table

/-!
# Stored forms

How the values of the domain are kept as JSON, and which JSON is read as them. Cases go by name, ids
are whole numbers, a filter value is a number or a string.
-/

namespace ScenarioResults

open Json

def ofCaseName? {α : Type} (cases : List α) (name : α → String) (tree : Tree) : Option α :=
  tree.caseName?.bind fun written => cases.find? fun value => name value == written

def ViewKind.ofTree? (tree : Tree) : Option ViewKind := ofCaseName? ViewKind.all ViewKind.name tree

def ViewKind.toJson (kind : ViewKind) : Value := .string kind.name

def ViewKey.ofTree? (tree : Tree) : Option ViewKey := ofCaseName? ViewKey.all ViewKey.name tree

def ViewKey.toJson (key : ViewKey) : Value := .string key.name

def Filter.ofTree? (tree : Tree) : Option Filter := ofCaseName? Filter.all Filter.name tree

def Filter.toJson (filter : Filter) : Value := .string filter.name

def ScenarioId.ofTree? : Tree → Option ScenarioId
  | .number (some (.whole n)) => if n < 0x8000000000000000 then some ⟨Int64.ofInt n⟩ else none
  | _ => none

def ScenarioId.toJson (id : ScenarioId) : Value := .number (.whole id.number.toInt)

def Surface.ofTree? (tree : Tree) : Option Surface := tree.text?.map Surface.mk

def Surface.toJson (surface : Surface) : Value := .string surface.name

def FilterValue.ofTree? (tree : Tree) : Option FilterValue :=
  match tree.value? with
  | some (.number n) => some (.number n.toFloat)
  | some (.string s) => some (.text s)
  | _ => none

def FilterValue.toJson : FilterValue → Value
  | .number x => .number (.binary x)
  | .text s => .string s

/-- A list of strings. A field that is missing is an empty one. -/
def strings? : Option Tree → Option (List String)
  | none => some []
  | some tree => tree.items?.bind fun items => items.mapM Tree.text?

def ResultsOptions.fieldNames : List String :=
  ["loadZoneOptions", "horizonOptions", "stageOptions"]

def ResultsOptions.ofTree? (tree : Tree) : Option ResultsOptions := do
  match ← tree.fields? fieldNames with
  | [zones, horizons, stages] =>
    some
      { loadZones := ← strings? zones, horizons := ← strings? horizons
        stages := ← strings? stages }
  | _ => none

def stringArray (items : List String) : Value := .array (items.map .string)

def ResultsOptions.toJson (options : ResultsOptions) : Value :=
  .object
    [("loadZoneOptions", stringArray options.loadZones),
     ("horizonOptions", stringArray options.horizons),
     ("stageOptions", stringArray options.stages)]

def Row.ofTree? (outer : Nat) (tree : Tree) : Option Row :=
  match tree.valueIn? outer with
  | some (.object members) => some members
  | _ => none

def Row.listOfTree? (outer : Nat) (tree : Tree) : Option (List Row) :=
  tree.items?.bind fun items => items.mapM (Row.ofTree? (outer + 1))

def Row.listToJson (rows : List Row) : Value := .array (rows.map .object)

/-- A table is read only if its rows are given. -/
def TableResult.ofTree? (tree : Tree) : Option TableResult := do
  match ← tree.fields? ["rows"] with
  | [some rows] => some ⟨← Row.listOfTree? 1 rows⟩
  | _ => none

def TableResult.toJson (table : TableResult) : Value :=
  .object [("rows", Row.listToJson table.rows)]

def PlotDescription.ofTree? (tree : Tree) : Option PlotDescription :=
  tree.value?.map PlotDescription.mk

def PlotDescription.toJson (description : PlotDescription) : Value := description.value

end ScenarioResults
