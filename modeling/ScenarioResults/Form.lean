import ScenarioResults.Catalog
import ScenarioResults.FilterValue
import ScenarioResults.Options
import ScenarioResults.SurfaceName
import ScenarioResults.ViewMap

/-!
# Parameter forms

Every plot of a catalog has a form that holds the values of its filters. A form takes values for the
filters of its plot only; a table has no form. The options on offer are taken once.
-/

namespace ScenarioResults

structure ParameterForm where
  key : ViewKey
  spec : PlotSpec
  value? : Filter → Option FilterValue

namespace ParameterForm

def blank (key : ViewKey) (spec : PlotSpec) : ParameterForm := ⟨key, spec, fun _ => none⟩

def set (form : ParameterForm) (filter : Filter) (value : Option FilterValue) :
    Except ViewError ParameterForm :=
  if form.spec.filters.contains filter then
    .ok { form with value? := fun other => if other = filter then value else form.value? other }
  else .error (.unknownFilter form.key filter)

def clear (form : ParameterForm) : ParameterForm := { form with value? := fun _ => none }

def currentValues (form : ParameterForm) : FilterValues :=
  form.spec.filters.map fun filter => (filter, form.value? filter)

/-- The argument sent for a filter. Only an unset y-axis maximum is sent as a word. -/
def argument (filter : Filter) (value : Option FilterValue) : PlotArgument :=
  match filter, value with
  | .yAxisMax, none => some .unsetMaximum
  | _, value => value

def arguments (form : ParameterForm) : List PlotArgument :=
  form.currentValues.map fun pair => argument pair.1 pair.2

end ParameterForm

structure FilterChoice where
  filter : Filter
  label : String
  options : List String
  deriving DecidableEq, Repr

structure FormOffer where
  key : ViewKey
  caption : String
  choices : List FilterChoice
  deriving DecidableEq, Repr

structure ParameterForms where
  forms : ViewMap ParameterForm
  options : Option ResultsOptions := none

namespace ParameterForms

/-- A form for every plot of a catalog. A plot listed twice has the form of its last entry. -/
def ofCatalog (catalog : Catalog) : ParameterForms :=
  ⟨.ofList (catalog.plots.map fun plot => (plot.1.key, .blank plot.1.key plot.2)), none⟩

def takeOptions (forms : ParameterForms) (options : ResultsOptions) : Bool × ParameterForms :=
  match forms.options with
  | some _ => (false, forms)
  | none => (true, { forms with options := some options })

def clearValues (forms : ParameterForms) : ParameterForms :=
  { forms with forms := forms.forms.map .clear }

def form (forms : ParameterForms) (key : ViewKey) : Except ViewError ParameterForm :=
  match forms.forms.get? key with
  | some form => .ok form
  | none => .error (.notAPlot key)

def setFilter (forms : ParameterForms) (key : ViewKey) (filter : Filter)
    (value : Option FilterValue) : Except ViewError ParameterForms := do
  let form ← forms.form key
  let form ← form.set filter value
  return { forms with forms := forms.forms.insert key form }

def offers (forms : ParameterForms) (catalog : Catalog) : List FormOffer :=
  match forms.options with
  | none => []
  | some options =>
    catalog.plots.map fun plot =>
      { key := plot.1.key
        caption := plot.1.caption
        choices := plot.2.filters.map fun filter => ⟨filter, filter.label, options.values filter⟩ }

end ParameterForms

end ScenarioResults
