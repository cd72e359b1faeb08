import ScenarioResults.Embedder.PlotFolder
import ScenarioResults.Proofs.Text.Percent

/-!
# The files of plot pages

A surface has a file of its own: the name of the file is the name of the surface, encoded so that it
is one part of a path. So the pages of a folder are kept apart by surface, and writing one page leaves
those of all other surfaces as they are (`write_page`).
-/

namespace ScenarioResults

namespace PlotPage

theorem fileName_toList (surface : Surface) : (fileName surface).toList =
    Text.percentEncodeWith Text.isUnreserved surface.name.toList ++ ".html".toList := by
  simp [fileName, Text.percentEncode]

theorem slash_not_mem_fileName (surface : Surface) : '/' ∉ (fileName surface).toList := by
  rw [fileName_toList, List.mem_append]
  rintro (encoded | ending)
  · rcases Text.of_mem_percentEncodeWith encoded with plain | percent | letter
    · revert plain
      decide
    · revert percent
      decide
    · revert letter
      decide
  · revert ending
    decide

theorem fileName_inj {first second : Surface} : fileName first = fileName second ↔ first = second := by
  constructor
  · intro same
    have texts := congrArg String.toList same
    rw [fileName_toList, fileName_toList] at texts
    have names := (Text.percentEncodeWith_inj (by decide)).mp (List.append_cancel_right texts)
    cases first
    cases second
    exact congrArg Surface.mk (String.toList_inj.mp names)
  · rintro rfl
    rfl

/-- The file of a surface lies in the folder, whatever the surface is called. -/
theorem path_eq (folder : String) (surface : Surface) : path folder surface =
    (if folder.isEmpty || folder.endsWith "/" then folder else folder ++ "/") ++ fileName surface := by
  have inside : (fileName surface).startsWith "/" = false := by
    rw [String.startsWith_string_eq_false_iff]
    intro start
    exact slash_not_mem_fileName surface (start.subset (List.mem_singleton.mpr rfl))
  unfold path Text.Path.join
  rw [inside, if_neg Bool.false_ne_true]
  split <;> rfl

theorem path_inj {folder : String} {first second : Surface} :
    path folder first = path folder second ↔ first = second := by
  rw [path_eq, path_eq, String.append_right_inj, fileName_inj]

end PlotPage

namespace PlotFolder

/-- The page at a path. -/
def pageAt? (plots : PlotFolder) (path : String) : Option String := plots.pages.lookup path

theorem lookup_page (path other text : String) (pages : List (String × String)) :
    List.lookup other ((path, text) :: pages) =
      if other = path then some text else pages.lookup other := by
  by_cases same : other = path
  · simp [same]
  · have missed : (other == path) = false := beq_eq_false_iff_ne.mpr same
    simp [List.lookup_cons, missed, same]

theorem lookup_putPage (path other text : String) (pages : List (String × String)) :
    (putPage path text pages).lookup other =
      if other = path then some text else pages.lookup other := by
  induction pages with
  | nil => exact lookup_page path other text []
  | cons page rest ih =>
    obtain ⟨taken, old⟩ := page
    unfold putPage
    split
    next found =>
      subst found
      rw [lookup_page, lookup_page]
      split <;> rfl
    next missed =>
      rw [lookup_page, lookup_page, ih]
      by_cases same : other = taken
      · subst same
        simp [missed]
      · simp [same]

theorem write_ok {plots : PlotFolder} {plot : PlotResult} (free : plots.blocked = false)
    (short : (PlotPage.fileName plot.surface).utf8ByteSize ≤ maxFileName) :
    (plots.write plot).1 = .ok () := by
  simp [write, free, Nat.not_lt.mpr short]

theorem write_eq {plots next : PlotFolder} {plot : PlotResult}
    (written : plots.write plot = (.ok (), next)) :
    next = { plots with
      pages := putPage (plots.path plot.surface) (PlotPage.render plot plots.script)
        plots.pages } := by
  unfold write at written
  split at written
  · cases written
  split at written
  · cases written
  exact (Prod.mk.inj written).2.symm

/-- A page that is written is there, and every other surface has the page it had. -/
theorem write_page {plots next : PlotFolder} {plot : PlotResult}
    (written : plots.write plot = (.ok (), next)) (surface : Surface) :
    next.pageAt? (plots.path surface) =
      if surface = plot.surface then some (PlotPage.render plot plots.script)
      else plots.pageAt? (plots.path surface) := by
  obtain rfl := write_eq written
  have same : plots.path surface = plots.path plot.surface ↔ surface = plot.surface :=
    PlotPage.path_inj
  simp only [pageAt?, lookup_putPage, same]

/-- A page that is not written leaves the folder as it was. -/
theorem write_refused {plots next : PlotFolder} {plot : PlotResult} {fault : Fault}
    (refused : plots.write plot = (.error fault, next)) : next = plots := by
  unfold write at refused
  split at refused
  · exact (Prod.mk.inj refused).2.symm
  split at refused
  · exact (Prod.mk.inj refused).2.symm
  · cases refused

/-- Where a folder is and which script its pages take never changes. -/
theorem write_fixed {plots next : PlotFolder} {plot : PlotResult} {answer : Except Fault Unit}
    (asked : plots.write plot = (answer, next)) :
    next.folder = plots.folder ∧ next.script = plots.script := by
  unfold write at asked
  split at asked
  · obtain ⟨-, rfl⟩ := Prod.mk.inj asked
    exact ⟨rfl, rfl⟩
  split at asked
  · obtain ⟨-, rfl⟩ := Prod.mk.inj asked
    exact ⟨rfl, rfl⟩
  · obtain ⟨-, rfl⟩ := Prod.mk.inj asked
    exact ⟨rfl, rfl⟩

end PlotFolder

end ScenarioResults
