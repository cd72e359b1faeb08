import Mathlib.Data.List.Forall2
import ScenarioResults.Json.Record
import ScenarioResults.Proofs.Json.Reading

/-!
# Objects that hold a member

A text may be an object that holds a tree under a name once, among others, or one that lacks the name. It
holds what is written there: an object that is written from the texts of its members has the trees of
these texts (`holds_objectText`).
-/

namespace ScenarioResults.Json

namespace Tree

/-- Members whose names are texts. -/
def given (members : List (String × Tree)) : List (Option String × Tree) :=
  members.map fun member => (some member.1, member.2)

def named (members : List (String × Tree)) : Tree := .object (given members)

end Tree

/-- The text is an object with the tree under the name, once and among others. -/
structure Holds (body name : String) (tree : Tree) (others : List (String × Tree)) : Prop where
  read : ∃ before after, others = before ++ after ∧
    Tree.ofText? body = some (.named (before ++ (name, tree) :: after))
  once : ∀ other ∈ others, other.1 ≠ name

/-- The text is an object of the members, and none has the name. -/
structure Lacks (body name : String) (members : List (String × Tree)) : Prop where
  read : Tree.ofText? body = some (.named members)
  absent : ∀ member ∈ members, member.1 ≠ name

/-! ### The one field of a record -/

namespace Tree

variable {name : String}

theorem fields?_named (members : List (String × Tree)) :
    (named members).fields? [name] = (atMostOne name (given members)).map ([·]) := by
  have texts : (given members).all (fun member => member.1.isSome) = true := by simp [given]
  rw [named, fields?, if_pos texts, List.mapM_cons, List.mapM_nil]
  cases atMostOne name (given members) <;> rfl

theorem withName_given (members : List (String × Tree)) : withName name (given members) =
    (members.filter fun member => member.1 == name).map Prod.snd := by
  rw [withName, given, List.filter_map, List.map_map]
  exact congrArg (List.map Prod.snd) (List.filter_congr fun _ _ => Option.some_beq_some)

theorem fields?_of_absent {members : List (String × Tree)}
    (absent : ∀ member ∈ members, member.1 ≠ name) :
    (named members).fields? [name] = some [none] := by
  have found : withName name (given members) = [] := by
    rw [withName_given, List.filter_eq_nil_iff.mpr (by simpa using absent), List.map_nil]
  rw [fields?_named, atMostOne, found]
  rfl

theorem fields?_of_once {before after : List (String × Tree)} (tree : Tree)
    (once : ∀ other ∈ before ++ after, other.1 ≠ name) :
    (named (before ++ (name, tree) :: after)).fields? [name] = some [some tree] := by
  obtain ⟨first, last⟩ := List.forall_mem_append.mp once
  have found : withName name (given (before ++ (name, tree) :: after)) = [tree] := by
    rw [withName_given, List.filter_append, List.filter_cons_of_pos (by simp),
      List.filter_eq_nil_iff.mpr (by simpa using first),
      List.filter_eq_nil_iff.mpr (by simpa using last)]
    rfl
  rw [fields?_named, atMostOne, found]
  rfl

end Tree

theorem Holds.fields? {body name : String} {tree : Tree} {others : List (String × Tree)}
    (holds : Holds body name tree others) :
    ∃ object, Tree.ofText? body = some object ∧ object.fields? [name] = some [some tree] := by
  obtain ⟨⟨before, after, rfl, read⟩, once⟩ := holds
  exact ⟨_, read, Tree.fields?_of_once tree once⟩

theorem Lacks.fields? {body name : String} {members : List (String × Tree)}
    (lacks : Lacks body name members) :
    ∃ object, Tree.ofText? body = some object ∧ object.fields? [name] = some [none] :=
  ⟨_, lacks.read, Tree.fields?_of_absent lacks.absent⟩

/-! ### Objects from the texts of their members -/

def memberTexts : List (String × String) → List Char
  | [] => []
  | [(name, value)] => name.toList ++ ':' :: value.toList
  | (name, value) :: rest => name.toList ++ ':' :: (value.toList ++ ',' :: memberTexts rest)

/-- The text of an object whose names and values are written as given. -/
def objectText (members : List (String × String)) : String :=
  String.ofList ('\x7b' :: (memberTexts members ++ ['\x7d']))

/-- The texts of a name and a value are read as a member. -/
structure MemberRead (texts : String × String) (member : String × Tree) : Prop where
  name : Tree.ofText? texts.1 = some (.string (some member.1))
  value : Tree.ofText? texts.2 = some member.2

theorem scans_memberTexts {texts : List (String × String)} {members : List (String × Tree)}
    (read : List.Forall₂ MemberRead texts members) :
    Scans (memberTexts texts) (Tree.memberTokens (Tree.given members)) := by
  induction read with
  | nil => exact scans_nil
  | @cons text member texts members first rest ih =>
    have name := Tree.ofText?_eq_some_iff.mp first.name
    have value := Tree.ofText?_eq_some_iff.mp first.value
    cases rest with
    | nil => exact name.mark rfl value
    | cons => exact name.mark rfl (value.mark rfl ih)

theorem ofText?_objectText {texts : List (String × String)} {members : List (String × Tree)}
    (read : List.Forall₂ MemberRead texts members) :
    Tree.ofText? (objectText texts) = some (.named members) := by
  refine Tree.ofText?_eq_some_iff.mpr ?_
  rw [objectText, String.toList_ofList]
  exact scans_nil.mark (c := '\x7b') rfl
    ((scans_memberTexts read).mark (c := '\x7d') rfl scans_nil)

/-- An object that is written with a text under a name holds the tree of the text. -/
theorem holds_objectText {first last : List (String × String)} {before after : List (String × Tree)}
    {label text name : String} {tree : Tree} (leading : List.Forall₂ MemberRead first before)
    (trailing : List.Forall₂ MemberRead last after) (member : MemberRead (label, text) (name, tree))
    (once : ∀ other ∈ before ++ after, other.1 ≠ name) :
    Holds (objectText (first ++ (label, text) :: last)) name tree (before ++ after) :=
  ⟨⟨before, after, rfl, ofText?_objectText (List.rel_append leading (.cons member trailing))⟩, once⟩

end ScenarioResults.Json
