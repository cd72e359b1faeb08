import Mathlib.Data.List.Basic
import ScenarioResults.Client
import ScenarioResults.Proofs.Coordinator.Slots
import ScenarioResults.Proofs.Form.Action
import ScenarioResults.Proofs.Surface.Name

/-!
# One surface, one request

The name of a surface and the address of a request are made of the same values in two ways: the one
escapes what a filter shows and leaves out a y-axis maximum that is unset, the other has a segment
for every filter in its place. Since a name tells what each filter shows, plots that are drawn on
one surface are asked for at one URL (`same_request`).
-/

namespace ScenarioResults

/-! ### The segments of an address -/

theorem Client.argumentSegment_some (value : FilterValue) :
    Client.argumentSegment (some value) = value.display := by
  cases value with
  | number x => rfl
  | text s => rfl

namespace ParameterForm

variable {form other : ParameterForm} {filter : Filter}

theorem get?_currentValues (listed : filter ∈ form.spec.filters) :
    form.currentValues.get? filter = form.value? filter := by
  rw [FilterValues.get?, currentValues, List.lookup_graph form.value? listed, Option.join_some]

theorem segment_of_shown {value another : Option FilterValue}
    (shown : value.map FilterValue.display = another.map FilterValue.display) :
    Client.argumentSegment (argument filter value) =
      Client.argumentSegment (argument filter another) := by
  cases value with
  | none =>
    cases another with
    | none => rfl
    | some set => cases shown
  | some set =>
    cases another with
    | none => cases shown
    | some reset =>
      rw [argument_some, argument_some, Client.argumentSegment_some, Client.argumentSegment_some]
      exact Option.some.inj shown

section

variable {spec : PlotSpec} (fits : form.spec = spec) (alsoFits : other.spec = spec)
  (same : Surface.ofValues spec form.currentValues = Surface.ofValues spec other.currentValues)

include fits alsoFits same

theorem shown_of_surface (listed : filter ∈ spec.filters) :
    (form.value? filter).map FilterValue.display =
      (other.value? filter).map FilterValue.display := by
  have shown := Surface.ofValues_eq_iff.mp same filter listed
  rw [← fits] at listed
  have alsoListed : filter ∈ other.spec.filters := by rwa [alsoFits, ← fits]
  rwa [FilterValues.shown?, FilterValues.shown?, get?_currentValues listed,
    get?_currentValues alsoListed] at shown

theorem segments_of_surface :
    form.arguments.map Client.argumentSegment = other.arguments.map Client.argumentSegment := by
  simp only [arguments, currentValues, List.map_map, fits, alsoFits]
  refine List.map_congr_left fun filter listed => ?_
  exact segment_of_shown (shown_of_surface fits alsoFits same listed)

end

end ParameterForm

/-! ### Planning a plot -/

namespace Coordinator

/-- The view is planned with the form that there is of it: it waits for a plot to be drawn on a
surface, and its request carries the arguments. -/
structure Asks (coordinator : Coordinator) (descriptor : ViewDescriptor) (scenario : ScenarioId)
    (forms : ParameterForms) (form : ParameterForm) (surface : Surface)
    (arguments : List PlotArgument) : Prop where
  held : forms.form descriptor.key = .ok form
  request : ∃ generation, (coordinator.plan descriptor scenario
    (forms.form descriptor.key).toOption).1 =
      .ok (.plot ⟨descriptor.key, generation⟩ scenario arguments)
  pending : ((coordinator.plan descriptor scenario
    (forms.form descriptor.key).toOption).2.slot descriptor.key).pendingSurface = some surface

theorem asks_of_form {descriptor : ViewDescriptor} {spec : PlotSpec} {forms : ParameterForms}
    {form : ParameterForm} (plot : descriptor.fetch = .plot spec)
    (held : forms.form descriptor.key = .ok form) (own : form.key = descriptor.key)
    (coordinator : Coordinator) (scenario : ScenarioId) :
    coordinator.Asks descriptor scenario forms form (.ofValues spec form.currentValues)
      form.arguments := by
  have answer : coordinator.plan descriptor scenario (some form) = _ :=
    plan_of_ok scenario (plotPlan_form plot own)
  refine ⟨held, ⟨(coordinator.slot descriptor.key).generation.next, ?_⟩, ?_⟩
  · rw [held, Except.toOption, answer]
    rfl
  · rw [held, Except.toOption, answer, slot_putSlot_self]
    rfl

end Coordinator

namespace Surface

/-- However the filters of a plot have come to be set, it can be planned. If that gives it the same
surface twice, it is asked for at the same URL twice: the same filters are set, and what they show
is what the address says. -/
theorem same_request {catalog : Catalog} {descriptor : ViewDescriptor} {spec : PlotSpec}
    (distinct : (catalog.views.map ViewDescriptor.key).Nodup)
    (listed : descriptor ∈ catalog.views) (plot : descriptor.fetch = .plot spec)
    (actions others : List FormAction) (coordinator another : Coordinator)
    (scenario : ScenarioId) (base : Url) :
    (∀ value, Client.argumentSegment (some value) = value.display) ∧
    ∃ form surface arguments, coordinator.Asks descriptor scenario
      ((ParameterForms.ofCatalog catalog).run actions) form surface arguments ∧
    ∃ other otherSurface otherArguments, another.Asks descriptor scenario
      ((ParameterForms.ofCatalog catalog).run others) other otherSurface otherArguments ∧
    (surface = otherSurface →
      (∀ filter ∈ spec.filters, form.value? filter = none ↔ other.value? filter = none) ∧
        Client.plotUrl base scenario descriptor.key arguments =
          Client.plotUrl base scenario descriptor.key otherArguments) := by
  obtain ⟨form, held, own, fits⟩ :=
    ParameterForms.exists_form_of_listed distinct listed plot actions
  obtain ⟨other, alsoHeld, alsoOwn, alsoFits⟩ :=
    ParameterForms.exists_form_of_listed distinct listed plot others
  refine ⟨Client.argumentSegment_some,
    form, _, _, Coordinator.asks_of_form plot held own coordinator scenario,
    other, _, _, Coordinator.asks_of_form plot alsoHeld alsoOwn another scenario, ?_⟩
  intro same
  refine ⟨fun filter member => ?_, ?_⟩
  · have shown := ParameterForm.shown_of_surface fits alsoFits same member
    rw [← Option.map_eq_none_iff, shown, Option.map_eq_none_iff]
  · unfold Client.plotUrl
    rw [ParameterForm.segments_of_surface fits alsoFits same]

/-- A number and the text that shows it are drawn on one surface and asked for at one URL. -/
theorem same_request_number :
    let energy := Catalog.plot .energyPlot "Energy Plot" "energyPlot" Catalog.stagedFilters
    let forms (maximum : FilterValue) := (ParameterForms.ofCatalog .standard).run
      [.setRaw .energyPlot .loadZone " A-B ", .set .energyPlot .yAxisMax (some maximum)]
    let number : FilterValue := .number 500
    let text : FilterValue := .text (Decimal.display 500)
    let base : Url := ⟨"http", none, false, .segments [""], none, none⟩
    ∃ form other surface,
      ({} : Coordinator).Asks energy ⟨7⟩ (forms number) form surface
        [some (.text "A-B"), none, some number] ∧
      ({} : Coordinator).Asks energy ⟨7⟩ (forms text) other surface
        [some (.text "A-B"), none, some text] ∧
      Client.plotUrl base ⟨7⟩ .energyPlot [some (.text "A-B"), none, some number] =
        Client.plotUrl base ⟨7⟩ .energyPlot [some (.text "A-B"), none, some text] := by
  intro energy forms number text base
  have distinct : (Catalog.standard.views.map ViewDescriptor.key).Nodup := by decide
  have listed : energy ∈ Catalog.standard.views := by decide
  obtain ⟨-, form, surface, _, asks, other, otherSurface, _, alsoAsks, alike⟩ :=
    same_request distinct listed rfl
      [.setRaw .energyPlot .loadZone " A-B ", .set .energyPlot .yAxisMax (some number)]
      [.setRaw .energyPlot .loadZone " A-B ", .set .energyPlot .yAxisMax (some text)]
      {} {} ⟨7⟩ base
  obtain rfl : surface = otherSurface :=
    Option.some.inj (asks.pending.symm.trans alsoAsks.pending)
  obtain ⟨_, asked⟩ := asks.request
  obtain ⟨_, alsoAsked⟩ := alsoAsks.request
  cases asked
  cases alsoAsked
  exact ⟨form, other, surface, asks, alsoAsks, (alike rfl).2⟩

end Surface

end ScenarioResults
