import ScenarioResults.View

/-!
# Stores keyed by view

At most one entry for each view. What is not written to keeps its entry.
-/

namespace ScenarioResults

structure ViewMap (α : Type) where
  get? : ViewKey → Option α

namespace ViewMap

variable {α β : Type}

def empty : ViewMap α := ⟨fun _ => none⟩

instance : Inhabited (ViewMap α) := ⟨empty⟩

def insert (map : ViewMap α) (key : ViewKey) (entry : α) : ViewMap α :=
  ⟨fun other => if other = key then some entry else map.get? other⟩

def map (f : α → β) (map : ViewMap α) : ViewMap β := ⟨fun key => (map.get? key).map f⟩

/-- Entries added one after the other, the last one under a view counting. -/
def ofList (entries : List (ViewKey × α)) : ViewMap α :=
  entries.foldl (fun map entry => map.insert entry.1 entry.2) empty

def toList (map : ViewMap α) : List (ViewKey × α) :=
  ViewKey.all.filterMap fun key => (map.get? key).map fun entry => (key, entry)

@[ext] theorem ext {first second : ViewMap α} (same : ∀ key, first.get? key = second.get? key) :
    first = second := by
  cases first
  cases second
  exact congrArg mk (funext same)

@[simp] theorem get?_empty (key : ViewKey) : (empty : ViewMap α).get? key = none := rfl

@[simp] theorem get?_insert_self (map : ViewMap α) (key : ViewKey) (entry : α) :
    (map.insert key entry).get? key = some entry := by
  simp [insert]

@[simp] theorem get?_insert_of_ne (map : ViewMap α) {key other : ViewKey} (entry : α)
    (different : other ≠ key) : (map.insert key entry).get? other = map.get? other := by
  simp [insert, different]

@[simp] theorem get?_map (f : α → β) (entries : ViewMap α) (key : ViewKey) :
    (entries.map f).get? key = (entries.get? key).map f := rfl

end ViewMap

end ScenarioResults
