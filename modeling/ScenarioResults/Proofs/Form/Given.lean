import ScenarioResults.Proofs.Coordinator.Slots
import ScenarioResults.Proofs.Form.Shape

/-!
# Filters given as texts

Texts that are given for filters one after the other fill the form of a plot: the last one for a
filter counts, and a blank one unsets it. What is said here is which values a form then has and what
its plot is asked with (`plotPlan_taking`).
-/

namespace ScenarioResults

namespace Filter

/-- The value that is given for a filter, none within if it is unset. -/
def given? (filter : Filter) (texts : List (Filter × String)) : Option (Option FilterValue) :=
  (texts.reverse.lookup filter).map fun raw => (filter.read raw).toOption.join

def given (filter : Filter) (texts : List (Filter × String)) : Option FilterValue :=
  (filter.given? texts).join

theorem given?_cons {filter : Filter} {raw : String} {value : Option FilterValue}
    (read : filter.read raw = .ok value) (texts : List (Filter × String)) (other : Filter) :
    other.given? ((filter, raw) :: texts) =
      (other.given? texts).or (if other = filter then some value else none) := by
  unfold given?
  rw [List.reverse_cons, List.lookup_append]
  cases texts.reverse.lookup other with
  | some later => rfl
  | none =>
    by_cases same : other = filter
    · subst same
      simp [read, Except.toOption]
    · have missed : (other == filter) = false := beq_eq_false_iff_ne.mpr same
      simp [List.lookup_cons, missed, same]

end Filter

namespace ViewDescriptor

/-- The filters of a view. A table has none. -/
def filters (view : ViewDescriptor) : List Filter :=
  (view.plotSpec?.map PlotSpec.filters).getD []

def valuesGiven (view : ViewDescriptor) (texts : List (Filter × String)) : FilterValues :=
  view.filters.map fun filter => (filter, filter.given texts)

/-- What a view is asked with, if it is a plot: its surface and its arguments for what is given. -/
def planGiven (view : ViewDescriptor) (texts : List (Filter × String)) :
    Option (Surface × List PlotArgument) :=
  view.plotSpec?.map fun spec =>
    (.ofValues spec (view.valuesGiven texts),
      (view.valuesGiven texts).map fun pair => ParameterForm.argument pair.1 pair.2)

/-- Every text is given for a filter of the view and can be read as a value of it. -/
def Takes (view : ViewDescriptor) (texts : List (Filter × String)) : Prop :=
  ∀ pair ∈ texts, pair.1 ∈ view.filters ∧ (pair.1.read pair.2).isOk

end ViewDescriptor

namespace ParameterForm

/-- The form with what is given in place of what it held. -/
def taking (form : ParameterForm) (texts : List (Filter × String)) : ParameterForm :=
  { form with value? := fun filter => (filter.given? texts).getD (form.value? filter) }

theorem taking_cons {filter : Filter} {raw : String} {value : Option FilterValue}
    (read : filter.read raw = .ok value) (form : ParameterForm) (texts : List (Filter × String)) :
    form.taking ((filter, raw) :: texts) =
      { form with value? := fun other => if other = filter then value else form.value? other
        : ParameterForm }.taking texts := by
  unfold taking
  congr 1
  funext other
  rw [Filter.given?_cons read]
  cases other.given? texts with
  | some later => rfl
  | none => by_cases same : other = filter <;> simp [same]

end ParameterForm

namespace ParameterForms

/-- Every plot of the standard catalog starts with a form in which nothing is set. -/
theorem form_standard {forms : ParameterForms} (made : forms.forms = (ofCatalog .standard).forms)
    {view : ViewDescriptor} {spec : PlotSpec} (listed : view ∈ Catalog.standard.views)
    (plot : view.plotSpec? = some spec) : forms.form view.key = .ok (.blank view.key spec) := by
  have only : ∀ view ∈ Catalog.standard.views,
      (Catalog.standard.plots.reverse.find? fun plot => plot.1.key = view.key).map
        (fun plot => (plot.1.key, plot.2)) = view.plotSpec?.map fun spec => (view.key, spec) := by
    decide +kernel
  have entry := only view listed
  rw [plot] at entry
  obtain ⟨found, first, same⟩ := Option.map_eq_some_iff.mp entry
  obtain ⟨key, fits⟩ := Prod.mk.inj same
  unfold ParameterForms.form
  rw [made, get?_ofCatalog, first, ← key, ← fits]
  rfl

end ParameterForms

/-- A plot whose form was blank is asked with what was given for its filters. -/
theorem Coordinator.plotPlan_taking {view : ViewDescriptor} {spec : PlotSpec}
    (plot : view.fetch = .plot spec) (texts : List (Filter × String)) :
    Coordinator.plotPlan view (some ((ParameterForm.blank view.key spec).taking texts)) =
      .ok (view.planGiven texts) := by
  have values : ((ParameterForm.blank view.key spec).taking texts).currentValues =
      view.valuesGiven texts := by
    have filters : view.filters = spec.filters := by
      simp [ViewDescriptor.filters, ViewDescriptor.plotSpec?, plot]
    unfold ParameterForm.currentValues ViewDescriptor.valuesGiven
    rw [filters]
    refine List.map_congr_left fun filter _ => ?_
    simp only [ParameterForm.taking, ParameterForm.blank, Filter.given]
    cases filter.given? texts <;> rfl
  rw [Coordinator.plotPlan_form plot rfl]
  simp only [ViewDescriptor.planGiven, ViewDescriptor.plotSpec?, plot, ParameterForm.arguments, values,
    Option.map_some]

end ScenarioResults
