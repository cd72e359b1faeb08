import ScenarioResults.Proofs.Client.Asking
import ScenarioResults.Proofs.Json.Nesting
import ScenarioResults.Proofs.Table.Read

/-!
# How the rows of a table are read

A reply holds the rows of a table bare or in an object, and both are read alike (`rows_read_alike`). The
whole reply is read before its shape is known, so a part without a value spoils it wherever it stands, even
in a member that nobody asks for.
-/

namespace ScenarioResults

open Json

namespace Client

/-! ### Rows of a body -/

variable {tree : Tree} {rows : List Row}

theorem rowsOf?_of_array (worth : tree.value? = some (.array (rows.map .object))) :
    rowsOf? tree = some rows := by
  have read : Row.listOfTree? 0 tree = some rows :=
    (Row.listOfTree?_eq_some_iff (by decide)).mpr worth
  simp [rowsOf?, worth, read]

/-- An object is read by its one field, as long as all of it has a value. -/
theorem rowsOf?_of_field {members : List (String × Tree)} {field : Option Tree}
    (fields : (Tree.named members).fields? ["rowsData"] = some [field]) :
    rowsOf? (.named members) =
      if (Tree.named members).value?.isSome then
        (field.map (Row.listOfTree? 1)).getD (some [])
      else none := by
  -- The bare form is tried first, and no object has it.
  have bare : Row.listOfTree? 0 (.named members) = none := rfl
  cases worth : (Tree.named members).value? with
  | none => simp [rowsOf?, worth]
  | some value => simp [rowsOf?, worth, bare, fields]

theorem rowsOf?_of_scalar (array : ∀ items, tree ≠ .array items)
    (object : ∀ members, tree ≠ .object members) : rowsOf? tree = none := by
  cases tree with
  | array items => exact (array items rfl).elim
  | object members => exact (object members rfl).elim
  | _ => simp [rowsOf?, Row.listOfTree?, Tree.items?, Tree.fields?]

/-! ### Replies -/

section

variable {client : Client} {scenario : ScenarioId} {key : ViewKey} {body : String}
  {others : List (String × Tree)}

theorem table_of_rows (receives : client.Receives (tableUrl client.base scenario key) body)
    (read : Tree.ofText? body = some tree) (given : rowsOf? tree = some rows) :
    (client.table scenario key).1 = .ok rows := by
  rw [table, fetch_of_receives receives, read, Option.bind_some, given]

theorem table_refused (receives : client.Receives (tableUrl client.base scenario key) body)
    (refused : ∀ tree, Tree.ofText? body = some tree → rowsOf? tree = none) :
    (client.table scenario key).1 =
      .error (.undecodable key.slug (client.decoder.causes key.slug body)) := by
  rw [table, fetch_of_receives receives, Option.bind_eq_none_iff.mpr refused]

theorem table_of_holds (receives : client.Receives (tableUrl client.base scenario key) body)
    (worth : tree.value? = some (.array (rows.map .object))) (fits : tree.nesting < maxDepth)
    (holds : Holds body "rowsData" tree others) (valued : EachValued others) :
    (client.table scenario key).1 = .ok rows := by
  obtain ⟨⟨before, after, rfl, read⟩, once⟩ := holds
  have inside : tree.valueIn? 1 = some (.array (rows.map .object)) :=
    (Tree.valueIn?_iff_nesting worth (by decide)).mpr (by omega)
  have whole : (Tree.named (before ++ ("rowsData", tree) :: after)).value?.isSome := by
    obtain ⟨first, last⟩ := List.forall_mem_append.mp valued
    refine Tree.value?_named (List.forall_mem_append.mpr ⟨first, List.forall_mem_cons.mpr ⟨?_, last⟩⟩)
    rw [inside]
    rfl
  refine table_of_rows receives read ?_
  rw [rowsOf?_of_field (Tree.fields?_of_once tree once), if_pos whole]
  exact (Row.listOfTree?_eq_some_iff (by decide)).mpr inside

theorem table_of_lacks (receives : client.Receives (tableUrl client.base scenario key) body)
    (lacks : Lacks body "rowsData" others) (valued : EachValued others) :
    (client.table scenario key).1 = .ok [] := by
  refine table_of_rows receives lacks.read ?_
  rw [rowsOf?_of_field (Tree.fields?_of_absent lacks.absent), if_pos (Tree.value?_named valued)]
  rfl

theorem table_refused_of_holds
    (receives : client.Receives (tableUrl client.base scenario key) body)
    (holds : Holds body "rowsData" tree others) (other : ∀ elements, tree ≠ .table elements) :
    (client.table scenario key).1 =
      .error (.undecodable key.slug (client.decoder.causes key.slug body)) := by
  obtain ⟨⟨before, after, rfl, read⟩, once⟩ := holds
  refine table_refused receives fun object same => ?_
  obtain rfl := Option.some.inj (read.symm.trans same)
  rw [rowsOf?_of_field (Tree.fields?_of_once tree once)]
  -- Whether the rest of the body has a value makes no difference here.
  split
  next =>
    cases rows : Row.listOfTree? 1 tree with
    | none => exact rows
    | some rows =>
      obtain ⟨elements, table⟩ := Row.table_of_listOfTree? rows
      exact (other elements table).elim
  next => rfl

end

/-- Rows that are sent bare or under their name in an object are the objects of the array, in order and each
with its names in the order of first appearance. An object without them has no rows. Anything else is an
error, and so is every body with a part that has no value. -/
theorem rows_read_alike {client : Client} {scenario : ScenarioId} {key : ViewKey} {body : String}
    (receives : client.Receives (tableUrl client.base scenario key) body) :
    let answer := (client.table scenario key).1
    let undecodable : ClientError :=
      .undecodable key.slug (client.decoder.causes key.slug body)
    (∀ text elements value, Tree.ofText? text = some (.table elements) →
      Value.ofText? text = some value →
      ∃ rows : List Row, value = .array (rows.map .object) ∧ List.Forall₂ Row.Names rows elements ∧
        (body = text → answer = .ok rows) ∧
        (∀ others, Holds body "rowsData" (.table elements) others →
          (Tree.table elements).nesting < maxDepth → EachValued others → answer = .ok rows)) ∧
    (∀ members, Lacks body "rowsData" members → EachValued members → answer = .ok []) ∧
    (∀ tree others, Holds body "rowsData" tree others → (∀ elements, tree ≠ .table elements) →
      answer = .error undecodable) ∧
    ((∀ items, Tree.ofText? body ≠ some (.array items)) →
      (∀ members, Tree.ofText? body ≠ some (.object members)) →
      answer = .error undecodable) ∧
    (Value.ofText? body = none → answer = .error undecodable) := by
  intro answer undecodable
  refine ⟨?rows, ?absent, ?misplaced, ?scalar, ?valueless⟩
  case rows =>
    intro text elements value read worth
    rw [Value.ofText?, read, Option.bind_some] at worth
    obtain ⟨rows, rfl, names⟩ := Tree.valueIn?_table worth
    refine ⟨rows, rfl, names, ?_, fun others holds fits valued => ?_⟩
    · rintro rfl
      exact table_of_rows receives read (rowsOf?_of_array worth)
    · exact table_of_holds receives worth fits holds valued
  case absent => exact fun members lacks valued => table_of_lacks receives lacks valued
  case misplaced => exact fun tree others holds other => table_refused_of_holds receives holds other
  case scalar =>
    intro array object
    refine table_refused receives fun tree read => rowsOf?_of_scalar ?_ ?_
    · exact fun items same => array items (same ▸ read)
    · exact fun members same => object members (same ▸ read)
  case valueless =>
    intro valueless
    refine table_refused receives fun tree read => ?_
    rw [Value.ofText?, read, Option.bind_some] at valueless
    simp [rowsOf?, valueless]

/-- Rows after another member, and a name that an element repeats. -/
theorem rows_read_alike_repeated :
    let body := "\x7b\"count\":null,\"rowsData\":[\x7b\"b\":null,\"a\":true,\"b\":false\x7d]\x7d"
    let client := besideReply body
    client.Receives (tableUrl client.base ⟨42⟩ .systemRps) body ∧
      (client.table ⟨42⟩ .systemRps).1 = .ok [[("b", .bool false), ("a", .bool true)]] := by
  have text : Tree.ofText? "[\x7b\"b\":null,\"a\":true,\"b\":false\x7d]" =
      some (.table [[("b", .null), ("a", .bool true), ("b", .bool false)]]) := by rfl
  have read : Tree.ofText?
      "\x7b\"count\":null,\"rowsData\":[\x7b\"b\":null,\"a\":true,\"b\":false\x7d]\x7d" =
      some (.named [("count", .null),
        ("rowsData", .table [[("b", .null), ("a", .bool true), ("b", .bool false)]])]) := by rfl
  have worth : Value.ofText? "[\x7b\"b\":null,\"a\":true,\"b\":false\x7d]" =
      some (.array [.object [("b", .bool false), ("a", .bool true)]]) := by
    rw [Value.ofText?, text]
    rfl
  intro body client
  have receives : client.Receives (tableUrl client.base ⟨42⟩ .systemRps) body :=
    besideReply_receives_table body
  obtain ⟨alike, -⟩ := rows_read_alike receives
  obtain ⟨rows, same, -, -, held⟩ := alike _ _ _ text worth
  obtain ⟨row, rfl, object⟩ := List.map_eq_singleton_iff.mp (Value.array.inj same).symm
  obtain rfl := Value.object.inj object
  refine ⟨receives, held [("count", .null)] ⟨⟨[("count", .null)], [], rfl, read⟩, ?_⟩ ?_ ?_⟩
  · simp
  · decide
  · simp [EachValued, Tree.valueIn?]

/-- A number out of range spoils rows that it has nothing to do with. -/
theorem rows_refused_out_of_range :
    let text := "[\x7b\"a\":true\x7d]"
    let body := "\x7b\"rowsData\":[\x7b\"a\":true\x7d],\"x\":1e999\x7d"
    let client := besideReply body
    let answer := (client.table ⟨42⟩ .systemRps).1
    client.Receives (tableUrl client.base ⟨42⟩ .systemRps) body ∧
      Tree.ofText? text = some (.table [[("a", .bool true)]]) ∧
      Value.ofText? text = some (.array [.object [("a", .bool true)]]) ∧
      Holds body "rowsData" (.table [[("a", .bool true)]]) [("x", .number none)] ∧
      answer = .error (.undecodable "results-system-rps" []) ∧
      answer ≠ .ok [[("a", .bool true)]] := by
  have scanned : Tree.ofText? "[\x7b\"a\":true\x7d]" = some (.table [[("a", .bool true)]]) := by rfl
  have worth : Value.ofText? "[\x7b\"a\":true\x7d]" =
      some (.array [.object [("a", .bool true)]]) := by
    rw [Value.ofText?, scanned]
    rfl
  have read : Tree.ofText? "\x7b\"rowsData\":[\x7b\"a\":true\x7d],\"x\":1e999\x7d" =
      some (.named [("rowsData", .table [[("a", .bool true)]]), ("x", .number none)]) := by rfl
  intro text body client answer
  have receives : client.Receives (tableUrl client.base ⟨42⟩ .systemRps) body :=
    besideReply_receives_table body
  have refused : answer = .error (.undecodable "results-system-rps" []) := by
    refine table_refused receives fun tree same => ?_
    obtain rfl := Option.some.inj (read.symm.trans same)
    rfl
  refine ⟨receives, scanned, worth, ⟨⟨[], [("x", .number none)], rfl, read⟩, ?_⟩, refused, ?_⟩
  · simp
  · rw [refused]
    intro same
    cases same

end Client

end ScenarioResults
