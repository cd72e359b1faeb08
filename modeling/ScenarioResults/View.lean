/-!
# Result views

A scenario has nineteen result views, twelve tables and seven plots. A view is named in three ways:
by its key, by the slug in an address and by the plain name it is stored under.
-/

namespace ScenarioResults

inductive ViewKind where
  | table
  | plot
  deriving DecidableEq, Repr

inductive ViewKey where
  | projectCapacity
  | projectRetirements
  | projectNewBuild
  | projectDispatch
  | projectCarbon
  | transmissionCapacity
  | transmissionFlows
  | importsExports
  | systemLoadBalance
  | systemRps
  | systemCarbonCap
  | systemPrm
  | dispatchPlot
  | capacityNewPlot
  | capacityRetiredPlot
  | capacityTotalPlot
  | energyPlot
  | costPlot
  | capacityFactorPlot
  deriving DecidableEq, Repr

namespace ViewKind

def all : List ViewKind := [.table, .plot]

def label : ViewKind → String
  | .table => "table"
  | .plot => "plot"

def name : ViewKind → String
  | .table => "Table"
  | .plot => "Plot"

end ViewKind

namespace ViewKey

def all : List ViewKey :=
  [.projectCapacity, .projectRetirements, .projectNewBuild, .projectDispatch, .projectCarbon,
   .transmissionCapacity, .transmissionFlows, .importsExports, .systemLoadBalance, .systemRps,
   .systemCarbonCap, .systemPrm, .dispatchPlot, .capacityNewPlot, .capacityRetiredPlot,
   .capacityTotalPlot, .energyPlot, .costPlot, .capacityFactorPlot]

def slug : ViewKey → String
  | .projectCapacity => "results-project-capacity"
  | .projectRetirements => "results-project-retirements"
  | .projectNewBuild => "results-project-new-build"
  | .projectDispatch => "results-project-dispatch"
  | .projectCarbon => "results-project-carbon"
  | .transmissionCapacity => "results-transmission-capacity"
  | .transmissionFlows => "results-transmission-flows"
  | .importsExports => "results-imports-exports"
  | .systemLoadBalance => "results-system-load-balance"
  | .systemRps => "results-system-rps"
  | .systemCarbonCap => "results-system-carbon-cap"
  | .systemPrm => "results-system-prm"
  | .dispatchPlot => "results-dispatch-plot"
  | .capacityNewPlot => "results-capacity-new-plot"
  | .capacityRetiredPlot => "results-capacity-retired-plot"
  | .capacityTotalPlot => "results-capacity-total-plot"
  | .energyPlot => "results-energy-plot"
  | .costPlot => "results-cost-plot"
  | .capacityFactorPlot => "results-capacity-factor-plot"

def name : ViewKey → String
  | .projectCapacity => "ProjectCapacity"
  | .projectRetirements => "ProjectRetirements"
  | .projectNewBuild => "ProjectNewBuild"
  | .projectDispatch => "ProjectDispatch"
  | .projectCarbon => "ProjectCarbon"
  | .transmissionCapacity => "TransmissionCapacity"
  | .transmissionFlows => "TransmissionFlows"
  | .importsExports => "ImportsExports"
  | .systemLoadBalance => "SystemLoadBalance"
  | .systemRps => "SystemRps"
  | .systemCarbonCap => "SystemCarbonCap"
  | .systemPrm => "SystemPrm"
  | .dispatchPlot => "DispatchPlot"
  | .capacityNewPlot => "CapacityNewPlot"
  | .capacityRetiredPlot => "CapacityRetiredPlot"
  | .capacityTotalPlot => "CapacityTotalPlot"
  | .energyPlot => "EnergyPlot"
  | .costPlot => "CostPlot"
  | .capacityFactorPlot => "CapacityFactorPlot"

def kind : ViewKey → ViewKind
  | .dispatchPlot | .capacityNewPlot | .capacityRetiredPlot | .capacityTotalPlot | .energyPlot
  | .costPlot | .capacityFactorPlot => .plot
  | _ => .table

def ordinal (key : ViewKey) : Nat := all.idxOf key

def ofSlug? (slug : String) : Option ViewKey := all.find? fun key => key.slug == slug

theorem mem_all (key : ViewKey) : key ∈ all := by cases key <;> decide

theorem ofSlug?_slug (key : ViewKey) : ofSlug? key.slug = some key := by cases key <;> decide

theorem slug_of_ofSlug? {slug : String} {key : ViewKey} (found : ofSlug? slug = some key) :
    key.slug = slug := by
  simpa using List.find?_some found

end ViewKey

end ScenarioResults
