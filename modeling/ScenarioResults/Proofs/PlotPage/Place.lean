import ScenarioResults.Proofs.PlotPage.File
import ScenarioResults.Proofs.Text.Path

/-!
# Where plot pages are

The page of a surface is one part below the folder, whatever the surface is called, and no two surfaces
have a page at the same place (`pages_apart`). This is so for the texts of the paths and for the places
that they lead to.
-/

namespace ScenarioResults

namespace PlotPage

theorem fileName_ends (surface : Surface) : (fileName surface).endsWith ".html" = true := by
  rw [String.endsWith_eq_endsWith_toSlice, String.Slice.endsWith_string_iff, String.copy_toSlice,
    fileName_toList]
  exact List.suffix_append _ _

/-- The name of a page is too long for one that is empty, stays or goes up. -/
theorem fileName_ne {name : String} (short : name.length < 5) (surface : Surface) :
    fileName surface ≠ name := by
  intro same
  have long : ".html".toList.length ≤ (fileName surface).toList.length := by
    rw [fileName_toList, List.length_append]
    exact Nat.le_add_left _ _
  rw [same, String.length_toList] at long
  exact Nat.not_lt.mpr long short

/-- A page is one part below its folder. -/
theorem parts_path (folder : String) (surface : Surface) :
    Text.Path.parts (path folder surface) = Text.Path.parts folder ++ [fileName surface] :=
  Text.Path.parts_join (slash_not_mem_fileName surface) (fileName_ne (by decide) surface)
    (fileName_ne (by decide) surface) (fileName_ne (by decide) surface) folder

theorem parts_path_inj {folder : String} {first second : Surface} :
    Text.Path.parts (path folder first) = Text.Path.parts (path folder second) ↔
      first = second := by
  rw [parts_path, parts_path, List.append_cancel_left_eq, List.singleton_inj, fileName_inj]

end PlotPage

/-- The page of a surface is a file of its own in the folder: its name has no slash and an ending, so
that it is neither the folder nor the one above it, and pages are at the same path only if their surfaces
have the same name. -/
theorem PlotFolder.pages_apart (plots : PlotFolder) (first second : String) :
    (∃ name : String, plots.path ⟨first⟩ = Text.Path.join plots.folder name ∧
        '/' ∉ name.toList ∧ name.endsWith ".html" = true ∧ name ≠ "." ∧ name ≠ ".." ∧
        Text.Path.parts (plots.path ⟨first⟩) = Text.Path.parts plots.folder ++ [name]) ∧
      (plots.path ⟨first⟩ = plots.path ⟨second⟩ ↔ first = second) ∧
      (Text.Path.parts (plots.path ⟨first⟩) = Text.Path.parts (plots.path ⟨second⟩) ↔
        first = second) := by
  refine ⟨⟨PlotPage.fileName ⟨first⟩, rfl, ?_, ?_, ?_, ?_, ?_⟩, ?_, ?_⟩
  · exact PlotPage.slash_not_mem_fileName _
  · exact PlotPage.fileName_ends _
  · exact PlotPage.fileName_ne (by decide) _
  · exact PlotPage.fileName_ne (by decide) _
  · exact PlotPage.parts_path _ _
  · exact PlotPage.path_inj.trans (iff_of_eq (Surface.mk.injEq first second))
  · exact PlotPage.parts_path_inj.trans (iff_of_eq (Surface.mk.injEq first second))

end ScenarioResults
