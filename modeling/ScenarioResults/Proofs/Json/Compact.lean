import ScenarioResults.Json.Printer
import ScenarioResults.Proofs.Json.Scan

/-!
# Compact text is read back

The compact text of any value is a JSON text, and what is read from it is a tree of the same shape
(`ofText?_text`). The scanner makes of the text the tokens that the tree is written with, and these
build the tree.
-/

namespace ScenarioResults.Json

/-! ### What is read for a value -/

/-- What is read for a number: the numeral it is written as, or null where it is no number. -/
def Number.tree (n : Number) : Tree :=
  match Numeral.ofText? n.text with
  | some numeral => .number numeral.number?
  | none => .null

namespace Value

mutual

def tree : Value → Tree
  | .null => .null
  | .bool b => .bool b
  | .number n => n.tree
  | .string s => .string s
  | .array items => .array (itemTrees items)
  | .object members => .object (memberTrees members)

def itemTrees : List Value → List Tree
  | [] => []
  | value :: rest => tree value :: itemTrees rest

def memberTrees : List (String × Value) → List (Option String × Tree)
  | [] => []
  | (name, value) :: rest => (some name, tree value) :: memberTrees rest

end

end Value

namespace Tree

mutual

/-- The tokens that a tree is written with. -/
def tokens : Tree → List Token
  | .null => [.null]
  | .bool b => [.bool b]
  | .number n => [.number n]
  | .string s => [.string s]
  | .array items => .openBracket :: (itemTokens items ++ [.closeBracket])
  | .object members => .openBrace :: (memberTokens members ++ [.closeBrace])

def itemTokens : List Tree → List Token
  | [] => []
  | [tree] => tokens tree
  | tree :: rest => tokens tree ++ .comma :: itemTokens rest

def memberTokens : List (Option String × Tree) → List Token
  | [] => []
  | [(name, tree)] => .string name :: .colon :: tokens tree
  | (name, tree) :: rest => .string name :: .colon :: (tokens tree ++ .comma :: memberTokens rest)

end

/-! ### Building a tree from its tokens -/

/-- The first item of an array is begun like any other value. -/
theorem foldlM_firstItem (tree : Tree) (items : List Tree) (rest : List Token)
    (frames : List Frame) :
    (itemTokens (tree :: items) ++ rest).foldlM step ⟨frames, .itemOrEnd⟩ =
      (itemTokens (tree :: items) ++ rest).foldlM step ⟨frames, .value⟩ := by
  cases items <;> cases tree <;> simp only [itemTokens, tokens, List.cons_append] <;> rfl

/-- So is the first member of an object like any other. -/
theorem foldlM_firstMember (member : Option String × Tree) (members : List (Option String × Tree))
    (rest : List Token) (frames : List Frame) :
    (memberTokens (member :: members) ++ rest).foldlM step ⟨.object [] none :: frames, .nameOrEnd⟩ =
      (memberTokens (member :: members) ++ rest).foldlM step ⟨frames, .name []⟩ := by
  cases members <;> simp only [memberTokens, List.cons_append] <;> rfl

mutual

/-- The tokens of a tree lead from where a value is expected to where it is done. -/
theorem foldlM_tokens (tree : Tree) (rest : List Token) (frames : List Frame) :
    (tree.tokens ++ rest).foldlM step ⟨frames, .value⟩ = rest.foldlM step (close tree frames) := by
  match tree with
  | .null => rfl
  | .bool b => rfl
  | .number n => rfl
  | .string s => rfl
  | .array [] => rfl
  | .array (tree :: items) =>
    rw [tokens, List.cons_append, List.append_assoc]
    calc
      _ = (itemTokens (tree :: items) ++ .closeBracket :: rest).foldlM step
          ⟨.array [] :: frames, .itemOrEnd⟩ := rfl
      _ = _ := foldlM_firstItem tree items _ _
      _ = _ := foldlM_itemTokens tree items [] rest frames
  | .object [] => rfl
  | .object (member :: members) =>
    rw [tokens, List.cons_append, List.append_assoc]
    calc
      _ = (memberTokens (member :: members) ++ .closeBrace :: rest).foldlM step
          ⟨.object [] none :: frames, .nameOrEnd⟩ := rfl
      _ = _ := foldlM_firstMember member members _ _
      _ = _ := foldlM_memberTokens member members [] rest frames
termination_by sizeOf tree

/-- From before an item of an array, with some items done, to behind the end of the array. -/
theorem foldlM_itemTokens (tree : Tree) (items before : List Tree) (rest : List Token)
    (frames : List Frame) :
    (itemTokens (tree :: items) ++ .closeBracket :: rest).foldlM step
        ⟨.array before :: frames, .value⟩ =
      rest.foldlM step (close (.array (before.reverse ++ tree :: items)) frames) := by
  match items with
  | [] =>
    rw [itemTokens, foldlM_tokens tree, ← List.reverse_cons]
    rfl
  | next :: items =>
    have value := foldlM_tokens tree (.comma :: (itemTokens (next :: items) ++ .closeBracket :: rest))
      (.array before :: frames)
    have others := foldlM_itemTokens next items (tree :: before) rest frames
    rw [List.reverse_cons, List.append_assoc] at others
    simp only [itemTokens, List.cons_append, List.append_assoc]
    exact value.trans others
termination_by sizeOf tree + sizeOf items + 1

/-- From before a member of an object, with some members done, to behind the end of the object. -/
theorem foldlM_memberTokens (member : Option String × Tree)
    (members before : List (Option String × Tree)) (rest : List Token) (frames : List Frame) :
    (memberTokens (member :: members) ++ .closeBrace :: rest).foldlM step ⟨frames, .name before⟩ =
      rest.foldlM step (close (.object (before.reverse ++ member :: members)) frames) := by
  match member, members with
  | (name, tree), [] =>
    have value := foldlM_tokens tree (.closeBrace :: rest) (.object before name :: frames)
    rw [← List.reverse_cons]
    exact value
  | (name, tree), next :: members =>
    have value := foldlM_tokens tree (.comma :: (memberTokens (next :: members) ++ .closeBrace :: rest))
      (.object before name :: frames)
    have others := foldlM_memberTokens next members ((name, tree) :: before) rest frames
    rw [List.reverse_cons, List.append_assoc] at others
    simp only [memberTokens, List.cons_append, List.append_assoc]
    exact value.trans others
termination_by sizeOf member + sizeOf members + 1

end

/-- A tree is what its tokens build. -/
theorem ofTokens?_tokens (tree : Tree) : ofTokens? tree.tokens = some tree := by
  have built := foldlM_tokens tree [] []
  rw [List.append_nil] at built
  rw [ofTokens?, built]
  rfl

end Tree

/-! ### Scanning compact text -/

theorem scans_number (n : Number) : Scans n.text n.tree.tokens := by
  rcases Numeral.text_spelled n with none | ⟨numeral, proper, spelled⟩
  · have tree : n.tree = .null := by
      rw [Number.tree, none]
      rfl
    rw [none, tree]
    exact scans_null
  · have read : Numeral.ofText? n.text = some numeral := by
      rw [← spelled]
      exact Numeral.ofText?_spelling proper
    have tree : n.tree = .number numeral.number? := by rw [Number.tree, read]
    rw [tree]
    exact scans_numeral read

namespace Value

mutual

/-- The compact text of a value is scanned into the tokens of its tree. -/
theorem scans_compact (value : Value) : Scans value.compact value.tree.tokens := by
  match value with
  | .null => exact scans_null
  | .bool true => exact scans_word (by decide) rfl rfl
  | .bool false => exact scans_word (by decide) rfl rfl
  | .number n => exact scans_number n
  | .string s => exact scans_literal s
  | .array items =>
    exact scans_nil.mark (c := '[') rfl ((scans_compactItems items).mark (c := ']') rfl scans_nil)
  | .object members =>
    exact scans_nil.mark (c := '\x7b') rfl
      ((scans_compactMembers members).mark (c := '\x7d') rfl scans_nil)

theorem scans_compactItems (items : List Value) :
    Scans (compactItems items) (Tree.itemTokens (itemTrees items)) := by
  match items with
  | [] => exact scans_nil
  | [value] => exact scans_compact value
  | value :: next :: rest =>
    exact (scans_compact value).mark rfl (scans_compactItems (next :: rest))

theorem scans_compactMembers (members : List (String × Value)) :
    Scans (compactMembers members) (Tree.memberTokens (memberTrees members)) := by
  match members with
  | [] => exact scans_nil
  | [(name, value)] => exact (scans_literal name).mark rfl (scans_compact value)
  | (name, value) :: next :: rest =>
    exact (scans_literal name).mark rfl
      ((scans_compact value).mark rfl (scans_compactMembers (next :: rest)))

end

/-- The compact text of a value is a JSON text, and is read as the tree of the value. -/
theorem ofText?_text (value : Value) : Tree.ofText? value.text = some value.tree := by
  rw [Tree.ofText?, text, String.toList_ofList, Token.scan?_of_scans (scans_compact value),
    Option.bind_some, Tree.ofTokens?_tokens]

end Value

end ScenarioResults.Json
