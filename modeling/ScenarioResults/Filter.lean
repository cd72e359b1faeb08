/-!
# Plot filters

What a plot can be narrowed by, and the names that go with it.
-/

namespace ScenarioResults

inductive Filter where
  | loadZone
  | horizon
  | stage
  | yAxisMax
  deriving DecidableEq, Repr

namespace Filter

def all : List Filter := [.loadZone, .horizon, .stage, .yAxisMax]

/-- The short name in arguments and messages. -/
def key : Filter → String
  | .loadZone => "load_zone"
  | .horizon => "horizon"
  | .stage => "stage"
  | .yAxisMax => "ymax"

def label : Filter → String
  | .loadZone => "Load Zone"
  | .horizon => "Horizon"
  | .stage => "Stage"
  | .yAxisMax => "Y-Axis Max"

/-- The name a filter is stored under. -/
def name : Filter → String
  | .loadZone => "LoadZone"
  | .horizon => "Horizon"
  | .stage => "Stage"
  | .yAxisMax => "YAxisMax"

def ofKey? (key : String) : Option Filter := all.find? fun filter => filter.key == key

theorem mem_all (filter : Filter) : filter ∈ all := by cases filter <;> decide

end Filter

end ScenarioResults
