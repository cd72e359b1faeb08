import ScenarioResults.Error
import ScenarioResults.Plot

/-!
# Embedders

An embedder draws a plot on its surface. Its state is a value of any type that has an instance.
-/

namespace ScenarioResults

class Embedder (ε : Type) where
  /-- The plot drawn on its surface, or the fault that kept it from being drawn. -/
  embed : PlotResult → ε → Except Fault Unit × ε

end ScenarioResults
