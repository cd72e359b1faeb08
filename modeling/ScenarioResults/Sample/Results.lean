import ScenarioResults.FilterValue
import ScenarioResults.Options
import ScenarioResults.Plot
import ScenarioResults.Sample.Generator
import ScenarioResults.Table
import ScenarioResults.Text.Percent

/-!
# Sample results

Results made up from a seed: options, rows for every table and descriptions for every plot. Equal
seeds and equal calls give equal results.
-/

namespace ScenarioResults.Sample

open Json

def loadZones : List String := ["ZoneA", "ZoneB", "North", "South", "Coastal", "Mountain"]

def technologies : List String :=
  ["Wind", "Solar", "Gas_CCGT", "Gas_CT", "Nuclear", "Hydro", "Battery", "Coal"]

def periods : List Nat := [2025, 2030, 2035, 2040, 2045, 2050]

def transmissionLines : List String :=
  ["ZoneA_ZoneB", "North_South", "Coastal_ZoneA", "Mountain_North", "South_Coastal"]

/-- The generator of a seed, zero counting as one. -/
def start (seed : UInt64) : Generator := .ofSeed (if seed = 0 then 1 else seed)

/-- One of the items, the first of none being `fallback`. -/
def pick {α : Type} (items : List α) (fallback : α) (generator : Generator) : α × Generator :=
  let (n, generator) := generator.below items.length
  (items[n]?.getD fallback, generator)

/-- At least two zones and one period, and one to three stages. -/
def options (generator : Generator) : ResultsOptions × Generator :=
  let (zones, generator) := generator.below (loadZones.length - 1)
  let (horizons, generator) := generator.below periods.length
  let (stages, generator) := generator.below 3
  ({ loadZones := loadZones.take (2 + zones)
     horizons := (periods.take (1 + horizons)).map toString
     stages := (List.range (1 + stages)).map fun stage => toString (stage + 1) }, generator)

def projectMetric : ViewKey → String
  | .projectRetirements => "retired_mw"
  | .projectNewBuild => "new_build_mw"
  | .projectDispatch => "energy_mwh"
  | .projectCarbon => "carbon_tons"
  | _ => "capacity_mw"

/-- The families of tables by what a row is about. -/
inductive TableFamily where
  | project
  | transmission
  | zone
  deriving DecidableEq, Repr

def TableFamily.of : ViewKey → TableFamily
  | .projectCapacity | .projectRetirements | .projectNewBuild | .projectDispatch
  | .projectCarbon => .project
  | .transmissionCapacity | .transmissionFlows => .transmission
  | _ => .zone

def tableRow (key : ViewKey) (generator : Generator) : Row × Generator :=
  let (zone, generator) := pick loadZones "" generator
  let (period, generator) := pick periods 0 generator
  let (tenths, generator) := generator.below 5000
  let period : Value := .number (.whole (Int.ofNat period))
  let amount : Value := .number (.binary (Decimal.Binary64.nearest false tenths 10))
  match TableFamily.of key with
  | .project =>
    let (technology, generator) := pick technologies "" generator
    let (unit, generator) := generator.below 9
    ([("project", .string (technology ++ "_" ++ toString (1 + unit))),
      ("technology", .string technology),
      ("load_zone", .string zone),
      ("period", period),
      (projectMetric key, amount)], generator)
  | .transmission =>
    let (line, generator) := pick transmissionLines "" generator
    ([("transmission_line", .string line), ("period", period), ("mw", amount)], generator)
  | .zone => ([("load_zone", .string zone), ("period", period), ("value", amount)], generator)

def tableRowsOf (key : ViewKey) : Nat → Generator → List Row × Generator
  | 0, generator => ([], generator)
  | n + 1, generator =>
    let (row, generator) := tableRow key generator
    let (rows, generator) := tableRowsOf key n generator
    (row :: rows, generator)

/-- Three to eight rows. -/
def tableRows (key : ViewKey) (generator : Generator) : List Row × Generator :=
  let (more, generator) := generator.below 6
  tableRowsOf key (3 + more) generator

def paddedHex (width n : Nat) : String :=
  let digits := Nat.toDigits 16 n
  String.ofList (List.replicate (width - digits.length) '0' ++ digits)

/-- An argument as JSON. A number that is not finite has no JSON. -/
def argumentValue : PlotArgument → Value
  | none => .null
  | some (.number x) => if isFinite x then .number (.binary x) else .null
  | some (.text s) => .string s

def plotDescription (key : ViewKey) (arguments : List PlotArgument) (generator : Generator) :
    PlotDescription × Generator :=
  let (root, generator) := generator.draw
  let (plot, generator) := generator.draw
  let attributes : Value :=
    .object [("title", .string key.slug), ("args", .array (arguments.map argumentValue))]
  let reference : Value :=
    .object
      [("type", .string "Plot"), ("id", .string (paddedHex 8 (plot.toNat % 0x100000000))),
       ("attributes", attributes)]
  let document : Value :=
    .object
      [("roots", .object [("references", .array [reference])]), ("version", .string "1.4.0")]
  (⟨.object
      [("target_id", .null), ("root_id", .string (paddedHex 16 root.toNat)),
       ("doc", document)]⟩, generator)

end ScenarioResults.Sample
