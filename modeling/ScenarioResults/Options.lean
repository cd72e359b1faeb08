import ScenarioResults.Filter

/-!
# What a scenario offers for its filters
-/

namespace ScenarioResults

structure ResultsOptions where
  loadZones : List String := []
  horizons : List String := []
  stages : List String := []
  deriving DecidableEq, Repr, Inhabited

/-- The values on offer for one filter: none for the y-axis maximum. -/
def ResultsOptions.values (options : ResultsOptions) : Filter → List String
  | .loadZone => options.loadZones
  | .horizon => options.horizons
  | .stage => options.stages
  | .yAxisMax => []

end ScenarioResults
