import ScenarioResults.Json.Tree

/-!
# How deep a tree nests

Whether a tree has a value depends on how many containers it lies in only through the bound on depth: a
tree that has a value anywhere has the same value wherever it fits (`valueIn?_iff_nesting`).
-/

namespace ScenarioResults.Json.Tree

mutual

/-- The most containers that lie in each other in a tree. -/
def nesting : Tree → Nat
  | .array items => itemsNesting items + 1
  | .object members => membersNesting members + 1
  | _ => 0

def itemsNesting : List Tree → Nat
  | [] => 0
  | tree :: rest => max tree.nesting (itemsNesting rest)

def membersNesting : List (Option String × Tree) → Nat
  | [] => 0
  | (_, tree) :: rest => max tree.nesting (membersNesting rest)

end

/-! ### What has a value fits -/

mutual

theorem nesting_le_of_valueIn? {tree : Tree} {outer : Nat} {value : Value}
    (within : outer ≤ maxDepth) (worth : tree.valueIn? outer = some value) :
    outer + tree.nesting ≤ maxDepth := by
  match tree with
  | .null | .bool _ | .number _ | .string _ => exact within
  | .array items =>
    rw [valueIn?] at worth
    split at worth
    next fits =>
      obtain ⟨values, read, -⟩ := Option.map_eq_some_iff.mp worth
      have := itemsNesting_le_of_valuesIn? fits read
      rw [nesting]
      omega
    next => cases worth
  | .object members =>
    rw [valueIn?] at worth
    split at worth
    next fits =>
      obtain ⟨pairs, read, -⟩ := Option.map_eq_some_iff.mp worth
      have := membersNesting_le_of_memberValuesIn? fits read
      rw [nesting]
      omega
    next => cases worth
termination_by sizeOf tree

theorem itemsNesting_le_of_valuesIn? {items : List Tree} {outer : Nat} {values : List Value}
    (within : outer ≤ maxDepth) (read : valuesIn? outer items = some values) :
    outer + itemsNesting items ≤ maxDepth := by
  match items with
  | [] => exact within
  | tree :: rest =>
    obtain ⟨value, first, read⟩ := Option.bind_eq_some_iff.mp read
    obtain ⟨others, later, -⟩ := Option.bind_eq_some_iff.mp read
    have := nesting_le_of_valueIn? within first
    have := itemsNesting_le_of_valuesIn? within later
    rw [itemsNesting]
    omega
termination_by sizeOf items

theorem membersNesting_le_of_memberValuesIn? {members : List (Option String × Tree)} {outer : Nat}
    {pairs : List (String × Value)} (within : outer ≤ maxDepth)
    (read : memberValuesIn? outer members = some pairs) :
    outer + membersNesting members ≤ maxDepth := by
  match members with
  | [] => exact within
  | (given, tree) :: rest =>
    obtain ⟨name, -, read⟩ := Option.bind_eq_some_iff.mp read
    obtain ⟨value, first, read⟩ := Option.bind_eq_some_iff.mp read
    obtain ⟨others, later, -⟩ := Option.bind_eq_some_iff.mp read
    have := nesting_le_of_valueIn? within first
    have := membersNesting_le_of_memberValuesIn? within later
    rw [membersNesting]
    omega
termination_by sizeOf members

end

/-! ### What fits has its value -/

mutual

theorem valueIn?_of_nesting_le {tree : Tree} {outer inner : Nat} {value : Value}
    (worth : tree.valueIn? outer = some value) (fits : inner + tree.nesting ≤ maxDepth) :
    tree.valueIn? inner = some value := by
  match tree with
  | .null | .bool _ | .number _ | .string _ => exact worth
  | .array items =>
    rw [valueIn?] at worth
    split at worth
    next =>
      obtain ⟨values, read, rfl⟩ := Option.map_eq_some_iff.mp worth
      rw [nesting] at fits
      rw [valueIn?, if_pos (by omega), valuesIn?_of_nesting_le read (by omega)]
      rfl
    next => cases worth
  | .object members =>
    rw [valueIn?] at worth
    split at worth
    next =>
      obtain ⟨pairs, read, rfl⟩ := Option.map_eq_some_iff.mp worth
      rw [nesting] at fits
      rw [valueIn?, if_pos (by omega), memberValuesIn?_of_nesting_le read (by omega)]
      rfl
    next => cases worth
termination_by sizeOf tree

theorem valuesIn?_of_nesting_le {items : List Tree} {outer inner : Nat} {values : List Value}
    (read : valuesIn? outer items = some values) (fits : inner + itemsNesting items ≤ maxDepth) :
    valuesIn? inner items = some values := by
  match items with
  | [] => exact read
  | tree :: rest =>
    obtain ⟨value, first, read⟩ := Option.bind_eq_some_iff.mp read
    obtain ⟨others, later, read⟩ := Option.bind_eq_some_iff.mp read
    rw [itemsNesting] at fits
    rw [valuesIn?, valueIn?_of_nesting_le first (by omega),
      valuesIn?_of_nesting_le later (by omega)]
    exact read
termination_by sizeOf items

theorem memberValuesIn?_of_nesting_le {members : List (Option String × Tree)} {outer inner : Nat}
    {pairs : List (String × Value)} (read : memberValuesIn? outer members = some pairs)
    (fits : inner + membersNesting members ≤ maxDepth) :
    memberValuesIn? inner members = some pairs := by
  match members with
  | [] => exact read
  | (given, tree) :: rest =>
    obtain ⟨name, rfl, read⟩ := Option.bind_eq_some_iff.mp read
    obtain ⟨value, first, read⟩ := Option.bind_eq_some_iff.mp read
    obtain ⟨others, later, read⟩ := Option.bind_eq_some_iff.mp read
    rw [membersNesting] at fits
    rw [memberValuesIn?, valueIn?_of_nesting_le first (by omega),
      memberValuesIn?_of_nesting_le later (by omega)]
    exact read
termination_by sizeOf members

end

/-- A tree that has a value has it wherever it fits, and nowhere else. -/
theorem valueIn?_iff_nesting {tree : Tree} {value : Value} {outer : Nat}
    (worth : tree.value? = some value) (within : outer ≤ maxDepth) :
    tree.valueIn? outer = some value ↔ outer + tree.nesting ≤ maxDepth :=
  ⟨nesting_le_of_valueIn? within, valueIn?_of_nesting_le worth⟩

end ScenarioResults.Json.Tree
