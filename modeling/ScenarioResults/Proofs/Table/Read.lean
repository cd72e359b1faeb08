import ScenarioResults.Proofs.Json.Holding
import ScenarioResults.Proofs.Table.Columns
import ScenarioResults.Stored

/-!
# Which trees are read as rows

Rows are read of an array of objects that has a value, and of no other tree
(`Row.listOfTree?_eq_some_iff`). Each row has the names of its object in the order of first appearance
(`Tree.valueIn?_table`).
-/

namespace ScenarioResults

open Json

/-! ### Arrays of objects -/

/-- The array of objects with the members given for each. -/
def Json.Tree.table (elements : List (List (String × Tree))) : Tree := .array (elements.map .named)

/-- A row has the names of an element, each once and in the order of first appearance. -/
def Row.Names (row : Row) (element : List (String × Tree)) : Prop :=
  FirstSeen row.names (element.map Prod.fst)

/-- Every member has a value inside an object: its numbers are in range, its strings are whole and it does
not nest too deep. -/
def Json.EachValued (members : List (String × Tree)) : Prop :=
  ∀ member ∈ members, (member.2.valueIn? 1).isSome

namespace Json.Tree

variable {outer : Nat}

theorem memberValuesIn?_given (member : String × Tree) (rest : List (String × Tree)) :
    memberValuesIn? outer (given (member :: rest)) =
      (member.2.valueIn? outer).bind fun value =>
        (memberValuesIn? outer (given rest)).bind fun pairs => some ((member.1, value) :: pairs) := rfl

theorem names_of_memberValuesIn? {members : List (String × Tree)} {pairs : List (String × Value)}
    (read : memberValuesIn? outer (given members) = some pairs) :
    pairs.map Prod.fst = members.map Prod.fst := by
  induction members generalizing pairs with
  | nil =>
    cases read
    rfl
  | cons member rest ih =>
    rw [memberValuesIn?_given] at read
    obtain ⟨value, -, read⟩ := Option.bind_eq_some_iff.mp read
    obtain ⟨others, later, read⟩ := Option.bind_eq_some_iff.mp read
    cases read
    exact congrArg (member.1 :: ·) (ih later)

theorem valueIn?_named {members : List (String × Tree)} {value : Value}
    (worth : (named members).valueIn? outer = some value) :
    ∃ row : Row, value = .object row ∧ row.Names members := by
  rw [named, valueIn?] at worth
  split at worth
  next =>
    obtain ⟨pairs, read, rfl⟩ := Option.map_eq_some_iff.mp worth
    refine ⟨_, rfl, ?_⟩
    rw [Row.Names, ← names_of_memberValuesIn? read]
    exact Members.firstSeen_names pairs
  next => cases worth

theorem valuesIn?_named {elements : List (List (String × Tree))} {values : List Value}
    (read : valuesIn? outer (elements.map named) = some values) :
    ∃ rows : List Row, values = rows.map .object ∧ List.Forall₂ Row.Names rows elements := by
  induction elements generalizing values with
  | nil =>
    cases read
    exact ⟨[], rfl, .nil⟩
  | cons element rest ih =>
    obtain ⟨value, first, read⟩ := Option.bind_eq_some_iff.mp read
    obtain ⟨others, later, read⟩ := Option.bind_eq_some_iff.mp read
    cases read
    obtain ⟨row, rfl, names⟩ := valueIn?_named first
    obtain ⟨rows, rfl, all⟩ := ih later
    exact ⟨row :: rows, rfl, .cons names all⟩

theorem valueIn?_table {elements : List (List (String × Tree))} {value : Value}
    (worth : (table elements).valueIn? outer = some value) :
    ∃ rows : List Row, value = .array (rows.map .object) ∧
      List.Forall₂ Row.Names rows elements := by
  rw [table, valueIn?] at worth
  split at worth
  next =>
    obtain ⟨values, read, rfl⟩ := Option.map_eq_some_iff.mp worth
    obtain ⟨rows, rfl, names⟩ := valuesIn?_named read
    exact ⟨rows, rfl, names⟩
  next => cases worth

theorem given_of_memberValuesIn? {members : List (Option String × Tree)}
    {pairs : List (String × Value)} (read : memberValuesIn? outer members = some pairs) :
    ∃ texts, members = given texts := by
  induction members generalizing pairs with
  | nil => exact ⟨[], rfl⟩
  | cons member rest ih =>
    obtain ⟨name, tree⟩ := member
    obtain ⟨name, rfl, read⟩ := Option.bind_eq_some_iff.mp read
    obtain ⟨value, -, read⟩ := Option.bind_eq_some_iff.mp read
    obtain ⟨others, later, -⟩ := Option.bind_eq_some_iff.mp read
    obtain ⟨texts, rfl⟩ := ih later
    exact ⟨(name, tree) :: texts, rfl⟩

theorem named_of_valueIn? {tree : Tree} {row : Row}
    (worth : tree.valueIn? outer = some (.object row)) : ∃ members, tree = named members := by
  cases tree with
  | object members =>
    rw [valueIn?] at worth
    split at worth
    next =>
      obtain ⟨pairs, read, -⟩ := Option.map_eq_some_iff.mp worth
      obtain ⟨texts, rfl⟩ := given_of_memberValuesIn? read
      exact ⟨texts, rfl⟩
    next => cases worth
  | _ => simp [valueIn?] at worth

theorem table_of_valuesIn? {items : List Tree} {rows : List Row}
    (read : valuesIn? outer items = some (rows.map .object)) :
    ∃ elements, Tree.array items = table elements := by
  induction items generalizing rows with
  | nil => exact ⟨[], rfl⟩
  | cons item rest ih =>
    obtain ⟨value, worth, read⟩ := Option.bind_eq_some_iff.mp read
    obtain ⟨values, later, same⟩ := Option.bind_eq_some_iff.mp read
    obtain ⟨row, others, rfl, rfl, rfl⟩ := List.map_eq_cons_iff.mp (Option.some.inj same).symm
    obtain ⟨members, rfl⟩ := named_of_valueIn? worth
    obtain ⟨elements, same⟩ := ih later
    cases same
    exact ⟨members :: elements, rfl⟩

/-- An object has a value if each of its members has one inside it. -/
theorem value?_named {members : List (String × Tree)} (valued : EachValued members) :
    (named members).value?.isSome := by
  have read : (memberValuesIn? 1 (given members)).isSome := by
    induction members with
    | nil => rfl
    | cons member rest ih =>
      obtain ⟨first, later⟩ := List.forall_mem_cons.mp valued
      obtain ⟨value, worth⟩ := Option.isSome_iff_exists.mp first
      obtain ⟨pairs, others⟩ := Option.isSome_iff_exists.mp (ih later)
      rw [memberValuesIn?_given, worth, Option.bind_some, others]
      rfl
  rw [value?, named, valueIn?, if_pos (by decide), Option.isSome_map]
  exact read

end Json.Tree

/-! ### Rows of a tree -/

namespace Row

variable {outer : Nat} {tree : Tree}

theorem ofTree?_eq_some_iff {row : Row} :
    ofTree? outer tree = some row ↔ tree.valueIn? outer = some (.object row) := by
  unfold ofTree?
  split
  next members worth => rw [worth]; simp
  next other =>
    constructor
    · intro read
      cases read
    · intro worth
      exact (other row worth).elim

theorem mapM_ofTree?_eq_some_iff {items : List Tree} {rows : List Row} :
    items.mapM (ofTree? outer) = some rows ↔
      Tree.valuesIn? outer items = some (rows.map .object) := by
  induction items generalizing rows with
  | nil => cases rows <;> simp [Tree.valuesIn?]
  | cons item rest ih =>
    rw [List.mapM_cons, Tree.valuesIn?]
    cases rows with
    | nil => simp [Option.bind_eq_some_iff]
    | cons row rows => simp [Option.bind_eq_some_iff, ofTree?_eq_some_iff, ih]

/-- Rows are read of a tree if it has them as an array of objects. -/
theorem listOfTree?_eq_some_iff {rows : List Row} (within : outer < maxDepth) :
    listOfTree? outer tree = some rows ↔ tree.valueIn? outer = some (.array (rows.map .object)) := by
  cases tree with
  | array items =>
    have items : listOfTree? outer (.array items) = items.mapM (ofTree? (outer + 1)) := rfl
    rw [items, mapM_ofTree?_eq_some_iff, Tree.valueIn?, if_pos within]
    simp
  | _ => simp [listOfTree?, Tree.items?, Tree.valueIn?, within]

/-- No tree has rows but an array of objects. -/
theorem table_of_listOfTree? {rows : List Row} (read : listOfTree? outer tree = some rows) :
    ∃ elements, tree = .table elements := by
  obtain ⟨items, array, all⟩ := Option.bind_eq_some_iff.mp read
  cases tree with
  | array given =>
    cases array
    exact Tree.table_of_valuesIn? (mapM_ofTree?_eq_some_iff.mp all)
  | _ => cases array

end Row

end ScenarioResults
