import Mathlib.Data.List.Nodup
import ScenarioResults.Proofs.Form.Shape

/-!
# What can be done with forms

Filters are set, by value or by text, all of them are cleared and the options are taken. None of
this touches the plots that the forms are of (`shape_run`). So if no view is listed twice, every
listed plot has a form with its own filters for good (`exists_form_of_listed`).
-/

namespace ScenarioResults

inductive FormAction where
  | set (key : ViewKey) (filter : Filter) (value : Option FilterValue)
  | setRaw (key : ViewKey) (filter : Filter) (raw : String)
  | clear
  | takeOptions (options : ResultsOptions)

namespace ParameterForms

/-- The forms after an action, the same forms if it is refused. -/
def perform (forms : ParameterForms) : FormAction → ParameterForms
  | .set key filter value => (forms.setFilter key filter value).toOption.getD forms
  | .setRaw key filter raw =>
    match filter.read raw with
    | .error _ => forms
    | .ok value => (forms.setFilter key filter value).toOption.getD forms
  | .clear => forms.clearValues
  | .takeOptions options => (forms.takeOptions options).2

def run (forms : ParameterForms) : List FormAction → ParameterForms
  | [] => forms
  | action :: rest => (forms.perform action).run rest

theorem run_append (forms : ParameterForms) (first second : List FormAction) :
    forms.run (first ++ second) = (forms.run first).run second := by
  induction first generalizing forms with
  | nil => rfl
  | cons action rest ih => exact ih _

theorem shape_perform (forms : ParameterForms) (action : FormAction) :
    (forms.perform action).shape = forms.shape := by
  have shape_set (key : ViewKey) (filter : Filter) (value : Option FilterValue) :
      ((forms.setFilter key filter value).toOption.getD forms).shape = forms.shape := by
    cases set : forms.setFilter key filter value with
    | error error => rfl
    | ok next => exact shape_setFilter set
  cases action with
  | set key filter value => exact shape_set key filter value
  | setRaw key filter raw =>
    simp only [perform]
    cases filter.read raw with
    | error error => rfl
    | ok value => exact shape_set key filter value
  | clear => exact shape_clearValues forms
  | takeOptions options => exact shape_takeOptions forms options

theorem shape_run (forms : ParameterForms) (actions : List FormAction) :
    (forms.run actions).shape = forms.shape := by
  induction actions generalizing forms with
  | nil => rfl
  | cons action rest ih => exact (ih (forms.perform action)).trans (shape_perform forms action)

/-- Every plot has a form with its own filters and keeps it, if no view is listed twice. -/
theorem exists_form_of_listed {catalog : Catalog} {descriptor : ViewDescriptor} {spec : PlotSpec}
    (distinct : (catalog.views.map ViewDescriptor.key).Nodup)
    (listed : descriptor ∈ catalog.views) (plot : descriptor.fetch = .plot spec)
    (actions : List FormAction) :
    ∃ form, ((ofCatalog catalog).run actions).form descriptor.key = .ok form ∧
      form.key = descriptor.key ∧ form.spec = spec := by
  obtain ⟨entry, among, sameKey, known⟩ := shape_of_listed listed plot
  obtain ⟨view, member, found⟩ := List.mem_filterMap.mp among
  obtain ⟨own, specified, rfl⟩ := Option.map_eq_some_iff.mp found
  obtain rfl : view = descriptor := List.inj_on_of_nodup_map distinct member listed sameKey
  obtain rfl : spec = own := by simpa [ViewDescriptor.plotSpec?, plot] using specified
  rw [← shape_run _ actions] at known
  exact form_of_shape known

end ParameterForms

end ScenarioResults
