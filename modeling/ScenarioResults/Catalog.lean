import ScenarioResults.Error
import ScenarioResults.Text.Blank

/-!
# The catalog of views

A catalog lists the views on offer, with a caption and what a fetch needs. A view that is listed
twice is resolved to its first entry.
-/

namespace ScenarioResults

/-- How a plot is addressed: the word its surfaces are named after, and its filters in the order of
the arguments. -/
structure PlotSpec where
  surface : String
  filters : List Filter
  deriving DecidableEq, Repr

inductive FetchSpec where
  | table
  | plot (spec : PlotSpec)
  deriving DecidableEq, Repr

structure ViewDescriptor where
  key : ViewKey
  caption : String
  fetch : FetchSpec
  deriving DecidableEq, Repr

namespace ViewDescriptor

def kind (descriptor : ViewDescriptor) : ViewKind :=
  match descriptor.fetch with
  | .table => .table
  | .plot _ => .plot

def plotSpec? (descriptor : ViewDescriptor) : Option PlotSpec :=
  match descriptor.fetch with
  | .table => none
  | .plot spec => some spec

end ViewDescriptor

structure ResultButton where
  key : ViewKey
  caption : String
  deriving DecidableEq, Repr

structure Catalog where
  views : List ViewDescriptor
  deriving DecidableEq, Repr

namespace Catalog

def dispatchFilters : List Filter := [.loadZone, .horizon, .yAxisMax]

def capacityFilters : List Filter := [.loadZone, .yAxisMax]

def stagedFilters : List Filter := [.loadZone, .stage, .yAxisMax]

def table (key : ViewKey) (caption : String) : ViewDescriptor := ⟨key, caption, .table⟩

def plot (key : ViewKey) (caption surface : String) (filters : List Filter) : ViewDescriptor :=
  ⟨key, caption, .plot ⟨surface, filters⟩⟩

def standard : Catalog :=
  ⟨[table .projectCapacity "Project Capacity",
    table .projectRetirements "Project Retirements",
    table .projectNewBuild "Project New Build",
    table .projectDispatch "Project Dispatch",
    table .projectCarbon "Project Carbon Emissions",
    table .transmissionCapacity "Transmission Capacity",
    table .transmissionFlows "Transmission Flows",
    table .importsExports "Imports/Exports",
    table .systemLoadBalance "System Load Balance",
    table .systemRps "System RPS",
    table .systemCarbonCap "System Carbon Cap",
    table .systemPrm "System PRM",
    plot .dispatchPlot "Dispatch Plot" "dispatchPlot" dispatchFilters,
    plot .capacityNewPlot "New Capacity Plot" "capacityNewPlot" capacityFilters,
    plot .capacityRetiredPlot "Retired Capacity Plot" "capacityRetiredPlot" capacityFilters,
    plot .capacityTotalPlot "Total Capacity Plot" "capacityTotalPlot" capacityFilters,
    plot .energyPlot "Energy Plot" "energyPlot" stagedFilters,
    plot .costPlot "Cost Plot" "costPlot" stagedFilters,
    plot .capacityFactorPlot "Capacity Factor Plot" "capacityFactorPlot" stagedFilters]⟩

def resolve (catalog : Catalog) (key : ViewKey) : Except ViewError ViewDescriptor :=
  match catalog.views.find? fun view => view.key == key with
  | some view => .ok view
  | none => .error (.unknownView key.slug)

def resolveSlug (catalog : Catalog) (raw : String) : Except ViewError ViewDescriptor :=
  match ViewKey.ofSlug? (Text.trim raw) with
  | some key => catalog.resolve key
  | none => .error (.unknownView raw)

def buttons (catalog : Catalog) : List ResultButton :=
  catalog.views.map fun view => ⟨view.key, view.caption⟩

def plots (catalog : Catalog) : List (ViewDescriptor × PlotSpec) :=
  catalog.views.filterMap fun view => view.plotSpec?.map fun spec => (view, spec)

theorem key_of_resolve {catalog : Catalog} {key : ViewKey} {descriptor : ViewDescriptor}
    (resolved : catalog.resolve key = .ok descriptor) : descriptor.key = key := by
  unfold resolve at resolved
  split at resolved
  next view found =>
    cases resolved
    simpa using List.find?_some found
  next => cases resolved

theorem mem_of_resolve {catalog : Catalog} {key : ViewKey} {descriptor : ViewDescriptor}
    (resolved : catalog.resolve key = .ok descriptor) : descriptor ∈ catalog.views := by
  unfold resolve at resolved
  split at resolved
  next view found =>
    cases resolved
    exact List.mem_of_find?_eq_some found
  next => cases resolved

theorem resolve_of_resolveSlug {catalog : Catalog} {raw : String} {descriptor : ViewDescriptor}
    (resolved : catalog.resolveSlug raw = .ok descriptor) :
    catalog.resolve descriptor.key = .ok descriptor := by
  unfold resolveSlug at resolved
  split at resolved
  next key _ => rw [key_of_resolve resolved, resolved]
  next => cases resolved

end Catalog

end ScenarioResults
