import Mathlib.Data.List.Forall2
import ScenarioResults.Proofs.Table.Columns

/-!
# What is printed of a table

A printed table is a line of its columns and one line for each row. Every line has a cell for each column,
and what a row has under a column stands in the cell of this column, in the line of this row
(`render_in_place`).
-/

namespace ScenarioResults.Table

/-- What is shown of what a row has under a column: nothing for null or where there is nothing, a string
as it is, all else as compact JSON. -/
def shown : Option Json.Value → String
  | none | some .null => ""
  | some (.string s) => s
  | some value => value.text

/-- The cells of a line show a row under columns: each value of the row stands in the cell of its column. -/
structure Shows (columns : List String) (row : Row) (cells : List String) : Prop where
  width : cells.length = columns.length
  cell : ∀ (place : Nat) (column : String), columns[place]? = some column →
    cells[place]? = some (shown (row.get? column))
  placed : ∀ (name : String) (value : Json.Value), row.get? name = some value →
    ∃ place : Nat, columns[place]? = some name ∧ cells[place]? = some (shown (some value))

theorem cell_eq (row : Row) (column : String) : cell row column = shown (row.get? column) := by
  unfold cell
  cases row.get? column with
  | none => rfl
  | some value => cases value <;> rfl

theorem name_of_get? {row : Row} {name : String} {value : Json.Value}
    (has : row.get? name = some value) : name ∈ row.names := by
  obtain ⟨before, after, rfl, -⟩ := List.lookup_eq_some_iff.mp has
  simp [Json.Members.names]

theorem shows_cells {columns : List String} {row : Row}
    (known : ∀ name ∈ row.names, name ∈ columns) : Shows columns row (columns.map (cell row)) := by
  have cells (place : Nat) (column : String) (there : columns[place]? = some column) :
      (columns.map (cell row))[place]? = some (shown (row.get? column)) := by
    rw [List.getElem?_map, there, Option.map_some, cell_eq]
  refine ⟨List.length_map _, cells, ?_⟩
  intro name value has
  obtain ⟨place, there⟩ := List.mem_iff_getElem?.mp (known name (name_of_get? has))
  refine ⟨place, there, ?_⟩
  rw [cells place name there, has]

theorem shows_rows {columns : List String} {rows : List Row}
    (known : ∀ row ∈ rows, ∀ name ∈ row.names, name ∈ columns) :
    List.Forall₂ (Shows columns) rows (rows.map fun row => columns.map (cell row)) := by
  induction rows with
  | nil => exact .nil
  | cons row rest ih =>
    obtain ⟨first, others⟩ := List.forall_mem_cons.mp known
    exact .cons (shows_cells first) (ih others)

theorem render_eq {rows : List Row} (filled : rows ≠ []) :
    render ⟨rows⟩ = String.join ((TableResult.columns ⟨rows⟩ ::
      rows.map fun row => (TableResult.columns ⟨rows⟩).map (cell row)).map record) := by
  have some : TableResult.isEmpty ⟨rows⟩ = false := by
    simp [TableResult.isEmpty, filled]
  rw [render, some, if_neg Bool.false_ne_true, List.map_cons, String.join_cons, List.map_map]
  rfl

/-- The columns of a table are the names of its rows, each once and in the order of first appearance. A
table with rows is printed as a line of its columns and a line that shows each row, in order. -/
theorem render_in_place (rows : List Row) :
    let columns := TableResult.columns ⟨rows⟩
    columns.Nodup ∧ FirstSeen columns (rows.flatMap Json.Members.names) ∧
      (rows ≠ [] → ∃ lines : List (List String),
        render ⟨rows⟩ = String.join ((columns :: lines).map record) ∧
          List.Forall₂ (Shows columns) rows lines) := by
  intro columns
  have seen : FirstSeen columns (rows.flatMap Json.Members.names) :=
    TableResult.firstSeen_columns ⟨rows⟩
  refine ⟨seen.nodup, seen, fun filled => ⟨_, render_eq filled, shows_rows ?_⟩⟩
  intro row member name named
  exact (seen.mem name).mpr (List.mem_flatMap.mpr ⟨row, member, named⟩)

/-- Rows of different members, one of them without any. -/
theorem render_in_place_ragged :
    let rows : List Row := [[("a", .string "x")], [], [("b", .null), ("a", .bool true)]]
    rows ≠ [] ∧ render ⟨rows⟩ = "a | b\nx | \n | \ntrue | \n" ∧
      ∃ lines : List (List String),
        render ⟨rows⟩ = String.join ((["a", "b"] :: lines).map record) ∧
          List.Forall₂ (Shows ["a", "b"]) rows lines := by
  intro rows
  have filled : rows ≠ [] := by simp [rows]
  exact ⟨filled, by decide +kernel, (render_in_place rows).2.2 filled⟩

end ScenarioResults.Table
