import Mathlib.Data.List.Basic
import ScenarioResults.Table

/-!
# Names in the order of first appearance

The columns of a table are the names of its rows, each once, in the order in which they first appear
(`firstSeen_columns`). The members of an object stand in the same order of the names that it is written
with (`firstSeen_names`).
-/

namespace ScenarioResults

/-- Names are those of a list, in the order in which they first appear there. -/
structure FirstSeen (names all : List String) : Prop where
  mem : ∀ name, name ∈ names ↔ name ∈ all
  order : names.Pairwise fun first second => all.idxOf first < all.idxOf second

namespace FirstSeen

variable {names all : List String}

theorem nil : FirstSeen [] [] := ⟨fun _ => Iff.rfl, .nil⟩

/-- No name stands twice: it would first appear before itself. -/
theorem nodup (seen : FirstSeen names all) : names.Nodup := by
  refine List.nodup_iff_pairwise_ne.mpr (seen.order.imp fun before same => ?_)
  rw [same] at before
  exact Nat.lt_irrefl _ before

/-- One name more in the list is added unless it was there before. -/
theorem addColumn (seen : FirstSeen names all) (name : String) :
    FirstSeen (TableResult.addColumn names name) (all ++ [name]) := by
  have order : names.Pairwise fun first second =>
      (all ++ [name]).idxOf first < (all ++ [name]).idxOf second := by
    refine seen.order.imp_of_mem fun first second before => ?_
    rwa [List.idxOf_append_of_mem ((seen.mem _).mp first),
      List.idxOf_append_of_mem ((seen.mem _).mp second)]
  unfold TableResult.addColumn
  split
  next known =>
    rw [List.contains_iff_mem] at known
    refine ⟨fun other => ?_, order⟩
    rw [seen.mem, List.mem_append, List.mem_singleton]
    exact (or_iff_left_of_imp fun same => same ▸ (seen.mem name).mp known).symm
  next fresh =>
    rw [List.contains_iff_mem] at fresh
    refine ⟨fun other => ?_, ?_⟩
    · rw [List.mem_append, List.mem_append, seen.mem]
    · refine List.pairwise_append.mpr ⟨order, List.pairwise_singleton _ _, ?_⟩
      intro first member last same
      rw [List.mem_singleton.mp same, List.idxOf_append_of_mem ((seen.mem _).mp member),
        List.idxOf_append, if_neg (mt (seen.mem name).mpr fresh)]
      exact Nat.lt_add_left _ (List.idxOf_lt_length_of_mem ((seen.mem _).mp member))

theorem foldl (seen : FirstSeen names all) (more : List String) :
    FirstSeen (more.foldl TableResult.addColumn names) (all ++ more) := by
  induction more generalizing names all with
  | nil => simpa using seen
  | cons name rest ih => simpa using ih (seen.addColumn name)

end FirstSeen

theorem TableResult.firstSeen_columns (table : TableResult) :
    FirstSeen table.columns (table.rows.flatMap Json.Members.names) := by
  have seen := FirstSeen.nil.foldl (table.rows.flatMap Json.Members.names)
  rwa [List.foldl_flatMap] at seen

namespace Json.Members

theorem names_foldl (pairs : List (String × Value)) (members : Members) :
    (pairs.foldl (fun members pair => members.put pair.1 pair.2) members).names =
      (pairs.map Prod.fst).foldl TableResult.addColumn members.names := by
  induction pairs generalizing members with
  | nil => rfl
  | cons pair rest ih =>
    rw [List.foldl_cons, ih, List.map_cons, List.foldl_cons, names_put, TableResult.addColumn]
    simp only [List.contains_iff_mem]

theorem firstSeen_names (pairs : List (String × Value)) :
    FirstSeen (ofPairs pairs).names (pairs.map Prod.fst) := by
  rw [ofPairs, names_foldl]
  exact FirstSeen.nil.foldl (pairs.map Prod.fst)

end Json.Members

end ScenarioResults
