import ScenarioResults.Embedder
import ScenarioResults.PlotPage

/-!
# A folder of plot pages

Drawing a plot writes its page into a folder, in place of the page of the same surface. The folder
is made when it is first needed, which fails if a file is in its place.
-/

namespace ScenarioResults

structure PlotFolder where
  folder : String
  script : String
  blocked : Bool := false
  /-- The pages by path, in the order in which they were first written. -/
  pages : List (String × String) := []
  deriving DecidableEq, Repr

namespace PlotFolder

def maxFileName : Nat := 255

def path (plots : PlotFolder) (surface : Surface) : String := PlotPage.path plots.folder surface

def putPage (path text : String) : List (String × String) → List (String × String)
  | [] => [(path, text)]
  | (other, old) :: rest =>
    if other = path then (path, text) :: rest else (other, old) :: putPage path text rest

def write (plots : PlotFolder) (plot : PlotResult) : Except Fault Unit × PlotFolder :=
  let path := plots.path plot.surface
  if plots.blocked then
    (.error ⟨["create plot directory " ++ plots.folder, "File exists (os error 17)"]⟩, plots)
  else if maxFileName < (PlotPage.fileName plot.surface).utf8ByteSize then
    (.error ⟨["write plot page " ++ path, "File name too long (os error 36)"]⟩, plots)
  else
    (.ok (), { plots with pages := putPage path (PlotPage.render plot plots.script) plots.pages })

instance : Embedder PlotFolder where
  embed plot plots := plots.write plot

end PlotFolder

end ScenarioResults
