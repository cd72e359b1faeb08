import ScenarioResults.Json.Printer

/-!
# Plots

A plot is drawn on a named surface from a description that is passed on as it came.
-/

namespace ScenarioResults

structure PlotDescription where
  value : Json.Value
  deriving Inhabited

/-- Null, no members or no items: nothing to draw. -/
def PlotDescription.isEmpty (description : PlotDescription) : Bool := description.value.isVoid

/-- The name of the place on a page where a plot is drawn. -/
structure Surface where
  name : String
  deriving DecidableEq, Repr, Inhabited

structure PlotResult where
  surface : Surface
  description : PlotDescription
  deriving Inhabited

end ScenarioResults
