import Mathlib.Data.List.Forall2
import ScenarioResults.Proofs.Json.Members
import ScenarioResults.Sample.Results

/-!
# Sample results stay within their tables

A number that was drawn says how much of a table is offered or which of its items a row gets. Here what is
asked of a generator is answered a second time, with nothing to fall back on where a table is left
(`Query.answer?`). The answers are the same, whatever was asked before, and they have the sizes and names
that the tables give them (`answers_within_tables`).
-/

namespace ScenarioResults.Sample

open Json

/-! ### Tables that can be left -/

def slice? {α : Type} (items : List α) (stop : Nat) : Option (List α) :=
  if stop ≤ items.length then some (items.take stop) else none

def pick? {α : Type} (items : List α) (generator : Generator) : Option (α × Generator) := do
  let (n, generator) := generator.below items.length
  let item ← items[n]?
  return (item, generator)

/-- The members of a value after one of them is written. Null becomes an object for it; nothing else that is
no object can be written to. -/
def written? (name : String) (value : Value) : Value → Option Members
  | .null => some [(name, value)]
  | .object members => some (Members.put name value members)
  | _ => none

theorem slice?_eq_some {α : Type} {items : List α} {stop : Nat} (inside : stop ≤ items.length) :
    slice? items stop = some (items.take stop) := if_pos inside

example : slice? loadZones 6 = some loadZones ∧ slice? loadZones 7 = none := by decide

theorem pick?_eq_some {α : Type} (items : List α) (filled : 0 < items.length) (fallback : α)
    (generator : Generator) : pick? items generator = some (pick items fallback generator) := by
  have inside := Generator.below_lt filled generator
  simp [pick?, pick, List.getElem?_eq_getElem inside]

/-! ### Answers that fail where a table is left -/

def options? (generator : Generator) : Option (ResultsOptions × Generator) := do
  let (zones, generator) := generator.below (loadZones.length - 1)
  let (horizons, generator) := generator.below periods.length
  let offeredZones ← slice? loadZones (2 + zones)
  let offeredPeriods ← slice? periods (1 + horizons)
  let (stages, generator) := generator.below 3
  return ({ loadZones := offeredZones
            horizons := offeredPeriods.map toString
            stages := (List.range (1 + stages)).map fun stage => toString (stage + 1) }, generator)

def tableRow? (key : ViewKey) (generator : Generator) : Option (Row × Generator) := do
  let (zone, generator) ← pick? loadZones generator
  let (period, generator) ← pick? periods generator
  let (tenths, generator) := generator.below 5000
  let period : Value := .number (.whole (Int.ofNat period))
  let amount : Value := .number (.binary (Decimal.Binary64.nearest false tenths 10))
  match TableFamily.of key with
  | .project =>
    let (technology, generator) ← pick? technologies generator
    let (unit, generator) := generator.below 9
    let row ← written? (projectMetric key) amount <| .object
      [("project", .string (technology ++ "_" ++ toString (1 + unit))),
        ("technology", .string technology),
        ("load_zone", .string zone),
        ("period", period)]
    return (row, generator)
  | .transmission =>
    let (line, generator) ← pick? transmissionLines generator
    return ([("transmission_line", .string line), ("period", period), ("mw", amount)], generator)
  | .zone =>
    return ([("load_zone", .string zone), ("period", period), ("value", amount)], generator)

def tableRowsOf? (key : ViewKey) : Nat → Generator → Option (List Row × Generator)
  | 0, generator => some ([], generator)
  | n + 1, generator => do
    let (row, generator) ← tableRow? key generator
    let (rows, generator) ← tableRowsOf? key n generator
    return (row :: rows, generator)

def tableRows? (key : ViewKey) (generator : Generator) : Option (List Row × Generator) :=
  let (more, generator) := generator.below 6
  tableRowsOf? key (3 + more) generator

theorem options?_eq_some (generator : Generator) :
    options? generator = some (options generator) := by
  -- Two zones are offered at least, so their number is drawn below one less than there are.
  have zones := generator.below_lt (n := loadZones.length - 1) (by decide)
  have horizons := Generator.below_lt (n := periods.length) (by decide)
    (generator.below (loadZones.length - 1)).2
  have zonesInside : 2 + (generator.below (loadZones.length - 1)).1 ≤ loadZones.length := by omega
  have periodsInside : 1 + ((generator.below (loadZones.length - 1)).2.below periods.length).1 ≤
      periods.length := by omega
  simp only [options?, slice?_eq_some zonesInside, slice?_eq_some periodsInside]
  rfl

theorem projectMetric_fresh (key : ViewKey) :
    projectMetric key ∉ ["project", "technology", "load_zone", "period"] := by
  cases key <;> decide

theorem written?_projectMetric (key : ViewKey) (project technology zone period amount : Value) :
    written? (projectMetric key) amount (.object
      [("project", project), ("technology", technology), ("load_zone", zone), ("period", period)]) =
      some [("project", project), ("technology", technology), ("load_zone", zone),
        ("period", period), (projectMetric key, amount)] :=
  congrArg some (Members.put_of_not_mem (projectMetric_fresh key) amount)

theorem tableRow?_eq_some (key : ViewKey) (generator : Generator) :
    tableRow? key generator = some (tableRow key generator) := by
  have zone := pick?_eq_some loadZones (by decide) ""
  have period := pick?_eq_some periods (by decide) 0
  have technology := pick?_eq_some technologies (by decide) ""
  have line := pick?_eq_some transmissionLines (by decide) ""
  cases family : TableFamily.of key with
  | project =>
    simp only [tableRow?, tableRow, family, zone, period, technology, written?_projectMetric]
    rfl
  | transmission => simp only [tableRow?, tableRow, family, zone, period, line]; rfl
  | zone => simp only [tableRow?, tableRow, family, zone, period]; rfl

theorem tableRowsOf?_eq_some (key : ViewKey) (n : Nat) (generator : Generator) :
    tableRowsOf? key n generator = some (tableRowsOf key n generator) := by
  induction n generalizing generator with
  | zero => rfl
  | succ n ih => simp only [tableRowsOf?, tableRowsOf, tableRow?_eq_some, ih]; rfl

theorem tableRows?_eq_some (key : ViewKey) (generator : Generator) :
    tableRows? key generator = some (tableRows key generator) :=
  tableRowsOf?_eq_some key _ _

/-! ### The sizes and names of what is answered -/

/-- The front of each table, with two zones at least. -/
structure FromTables (offered : ResultsOptions) : Prop where
  zones : offered.loadZones <+: loadZones
  zone_count : 2 ≤ offered.loadZones.length ∧ offered.loadZones.length ≤ 6
  horizons : offered.horizons <+: periods.map toString
  horizon_count : 1 ≤ offered.horizons.length ∧ offered.horizons.length ≤ 6
  stages : ∃ last, 1 ≤ last ∧ last ≤ 3 ∧ offered.stages = (List.range' 1 last).map toString

theorem options_drawn (generator : Generator) :
    ∃ zones < 5, ∃ horizons < 6, ∃ stages < 3,
      (options generator).1 =
        { loadZones := loadZones.take (2 + zones)
          horizons := (periods.take (1 + horizons)).map toString
          stages := (List.range (1 + stages)).map fun stage => toString (stage + 1) } :=
  ⟨_, Generator.below_lt (by decide) _, _, Generator.below_lt (by decide) _, _,
    Generator.below_lt (by decide) _, rfl⟩

theorem options_fromTables (generator : Generator) : FromTables (options generator).1 := by
  obtain ⟨zones, zonesBelow, horizons, horizonsBelow, stages, stagesBelow, drawn⟩ :=
    options_drawn generator
  have zoneTable : loadZones.length = 6 := rfl
  have periodTable : periods.length = 6 := rfl
  rw [drawn]
  refine ⟨List.take_prefix _ _, ?_, (List.take_prefix _ _).map _, ?_, 1 + stages, ?_⟩
  · rw [List.length_take]
    omega
  · rw [List.length_map, List.length_take]
    omega
  · refine ⟨by omega, by omega, ?_⟩
    rw [List.range'_eq_map_range, List.map_map]
    simp only [Function.comp_def, Nat.add_comm 1]

def rowNames (key : ViewKey) : List String :=
  match TableFamily.of key with
  | .project => ["project", "technology", "load_zone", "period", projectMetric key]
  | .transmission => ["transmission_line", "period", "mw"]
  | .zone => ["load_zone", "period", "value"]

theorem period_mem_rowNames (key : ViewKey) : "period" ∈ rowNames key := by
  unfold rowNames
  cases TableFamily.of key <;> simp

theorem tableRow_names (key : ViewKey) (generator : Generator) :
    (tableRow key generator).1.names = rowNames key := by
  unfold tableRow rowNames
  cases TableFamily.of key <;> rfl

theorem tableRowsOf_names (key : ViewKey) (n : Nat) (generator : Generator) :
    (tableRowsOf key n generator).1.map Members.names = List.replicate n (rowNames key) := by
  induction n generalizing generator with
  | zero => rfl
  | succ n ih =>
    rw [tableRowsOf, List.replicate_succ, List.map_cons, tableRow_names, ih]

/-- A few rows with the names of the view in their order, a period among them. -/
structure FromView (key : ViewKey) (rows : List Row) : Prop where
  count : 3 ≤ rows.length ∧ rows.length ≤ 8
  names : ∀ row ∈ rows, row.names = rowNames key
  period : ∀ row ∈ rows, "period" ∈ row.names

theorem tableRows_fromView (key : ViewKey) (generator : Generator) :
    FromView key (tableRows key generator).1 := by
  have more := Generator.below_lt (n := 6) (by decide) generator
  have named := tableRowsOf_names key (3 + (generator.below 6).1) (generator.below 6).2
  have names : ∀ row ∈ (tableRows key generator).1, row.names = rowNames key := by
    intro row member
    exact List.eq_of_mem_replicate (named ▸ List.mem_map_of_mem member)
  have length : (tableRows key generator).1.length = 3 + (generator.below 6).1 := by
    have lengths := congrArg List.length named
    rwa [List.length_map, List.length_replicate] at lengths
  refine ⟨by omega, names, ?_⟩
  intro row member
  rw [names row member]
  exact period_mem_rowNames key

/-! ### One question after the other -/

inductive Query where
  | below (n : Nat)
  | options
  | tableRows (key : ViewKey)
  | plotDescription (key : ViewKey) (arguments : List PlotArgument)

inductive Answer where
  | number (n : Nat)
  | options (offered : ResultsOptions)
  | rows (rows : List Row)
  | description (description : PlotDescription)

namespace Query

def answer (generator : Generator) : Query → Answer × Generator
  | .below n => (generator.below n).map .number id
  | .options => (Sample.options generator).map .options id
  | .tableRows key => (Sample.tableRows key generator).map .rows id
  | .plotDescription key arguments =>
    (Sample.plotDescription key arguments generator).map .description id

def answer? (generator : Generator) : Query → Option (Answer × Generator)
  | .below n => some ((generator.below n).map .number id)
  | .options => (options? generator).map (Prod.map .options id)
  | .tableRows key => (tableRows? key generator).map (Prod.map .rows id)
  | .plotDescription key arguments =>
    some ((Sample.plotDescription key arguments generator).map .description id)

theorem answer?_eq_some (query : Query) (generator : Generator) :
    query.answer? generator = some (query.answer generator) := by
  cases query with
  | below n => rfl
  | options => rw [answer?, options?_eq_some, Option.map_some, answer]
  | tableRows key => rw [answer?, tableRows?_eq_some, Option.map_some, answer]
  | plotDescription key arguments => rfl

/-- What a query can be answered. A description takes nothing from a table. -/
def Admits : Query → Answer → Prop
  | .below n, .number m => (0 < n → m < n) ∧ (n = 0 → m = 0)
  | .options, .options offered => FromTables offered
  | .tableRows key, .rows rows => FromView key rows
  | .plotDescription _ _, .description _ => True
  | _, _ => False

theorem admits_answer (query : Query) (generator : Generator) :
    query.Admits (query.answer generator).1 := by
  cases query with
  | below n =>
    refine ⟨fun positive => Generator.below_lt positive generator, ?_⟩
    rintro rfl
    rfl
  -- The answer is taken out of its pair by rewriting: to compare the pairs, the draws would be evaluated.
  | options =>
    rw [answer, Prod.map_fst]
    exact options_fromTables generator
  | tableRows key =>
    rw [answer, Prod.map_fst]
    exact tableRows_fromView key generator
  | plotDescription key arguments => exact trivial

end Query

/-- The answers to what is asked of one generator, each with what the one before has left of it. -/
def answers : List Query → Generator → List Answer × Generator
  | [], generator => ([], generator)
  | query :: rest, generator =>
    let (first, generator) := query.answer generator
    let (others, generator) := answers rest generator
    (first :: others, generator)

def answers? : List Query → Generator → Option (List Answer × Generator)
  | [], generator => some ([], generator)
  | query :: rest, generator => do
    let (first, generator) ← query.answer? generator
    let (others, generator) ← answers? rest generator
    return (first :: others, generator)

theorem answers?_eq_some (queries : List Query) (generator : Generator) :
    answers? queries generator = some (answers queries generator) := by
  induction queries generalizing generator with
  | nil => rfl
  | cons query rest ih => simp only [answers?, answers, Query.answer?_eq_some, ih]; rfl

theorem answers_admitted (queries : List Query) (generator : Generator) :
    List.Forall₂ Query.Admits queries (answers queries generator).1 := by
  induction queries generalizing generator with
  | nil => exact .nil
  | cons query rest ih => exact .cons (query.admits_answer generator) (ih _)

/-- Whatever is asked of the generator of a seed, and in whatever order: no index and no slice leaves its
table, numbers stay below their bounds, what is offered is the front of each table, and every view has three
to eight rows that are named alike. -/
theorem answers_within_tables (seed : UInt64) (queries : List Query) :
    answers? queries (start seed) = some (answers queries (start seed)) ∧
      List.Forall₂ Query.Admits queries (answers queries (start seed)).1 :=
  ⟨answers?_eq_some queries _, answers_admitted queries _⟩

end ScenarioResults.Sample
