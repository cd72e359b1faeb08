import ScenarioResults.Json.Printer

/-!
# Tables

A table is a list of rows, each with its own members. Its columns are the names that occur in the
rows in the order of first appearance; a row without a column has an empty cell there.
-/

namespace ScenarioResults

abbrev Row := Json.Members

structure TableResult where
  rows : List Row
  deriving Inhabited

namespace TableResult

def isEmpty (table : TableResult) : Bool := table.rows.isEmpty

def addColumn (columns : List String) (name : String) : List String :=
  if columns.contains name then columns else columns ++ [name]

def columns (table : TableResult) : List String :=
  table.rows.foldl (fun columns row => row.names.foldl addColumn columns) []

end TableResult

namespace Table

/-- A value as the text of a cell: strings as they are, nothing for null, else compact JSON. -/
def cellText : Json.Value → String
  | .null => ""
  | .string s => s
  | value => value.text

def cell (row : Row) (column : String) : String := ((row.get? column).map cellText).getD ""

def record (cells : List String) : String := " | ".intercalate cells ++ "\n"

def render (table : TableResult) : String :=
  if table.isEmpty then "(no rows)\n"
  else
    let columns := table.columns
    record columns ++ String.join (table.rows.map fun row => record (columns.map (cell row)))

end Table

end ScenarioResults
