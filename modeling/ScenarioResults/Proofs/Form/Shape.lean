import ScenarioResults.Form

/-!
# Which forms there are

The forms of a catalog are made once. Setting a filter, clearing all of them and taking the options
leave every form with its plot, so `shape_ofCatalog` tells for good which forms there are: one for
each view that is listed as a plot, with what the last such entry says.
-/

namespace ScenarioResults

namespace ViewMap

variable {α : Type}

theorem get?_insert (map : ViewMap α) (key other : ViewKey) (entry : α) :
    (map.insert key entry).get? other = if other = key then some entry else map.get? other := rfl

theorem get?_foldl_insert (entries : List (ViewKey × α)) (map : ViewMap α) (key : ViewKey) :
    (entries.foldl (fun map entry => map.insert entry.1 entry.2) map).get? key =
      ((entries.reverse.find? fun entry => entry.1 = key).map Prod.snd).or (map.get? key) := by
  induction entries generalizing map with
  | nil => rfl
  | cons entry rest ih =>
    rw [List.foldl_cons, ih, get?_insert, List.reverse_cons, List.find?_append]
    cases rest.reverse.find? fun entry => entry.1 = key with
    | some later => rfl
    | none =>
      by_cases same : entry.1 = key
      · simp [same]
      · simp [same, Ne.symm same]

/-- Of several entries under one view the last one counts. -/
theorem get?_ofList (entries : List (ViewKey × α)) (key : ViewKey) :
    (ofList entries).get? key = (entries.reverse.find? fun entry => entry.1 = key).map Prod.snd := by
  rw [ofList, get?_foldl_insert]
  simp

end ViewMap

/-- What is set is sent as it is. -/
@[simp] theorem ParameterForm.argument_some (filter : Filter) (value : FilterValue) :
    argument filter (some value) = some value := by
  cases filter <;> rfl

namespace ParameterForms

theorem get?_ofCatalog (catalog : Catalog) (key : ViewKey) :
    (ofCatalog catalog).forms.get? key =
      (catalog.plots.reverse.find? fun plot => plot.1.key = key).map fun plot =>
        .blank plot.1.key plot.2 := by
  simp only [ofCatalog, ViewMap.get?_ofList]
  rw [← List.map_reverse, List.find?_map, Option.map_map]
  rfl

/-- The plot that each form is of. -/
def shape (forms : ParameterForms) (key : ViewKey) : Option (ViewKey × PlotSpec) :=
  (forms.forms.get? key).map fun form => (form.key, form.spec)

theorem shape_ofCatalog (catalog : Catalog) (key : ViewKey) :
    (ofCatalog catalog).shape key =
      (catalog.plots.reverse.find? fun plot => plot.1.key = key).map fun plot =>
        (plot.1.key, plot.2) := by
  rw [shape, get?_ofCatalog, Option.map_map]
  rfl

theorem form_ok {forms : ParameterForms} {key : ViewKey} {form : ParameterForm}
    (found : forms.form key = .ok form) : forms.forms.get? key = some form := by
  unfold ParameterForms.form at found
  split at found
  next stored => exact stored.trans (congrArg some (Except.ok.inj found))
  next => cases found

/-- A filter can be set in the form of a plot that has it, and in no other. -/
theorem exists_of_setFilter {forms next : ParameterForms} {key : ViewKey} {filter : Filter}
    {value : Option FilterValue} (set : forms.setFilter key filter value = .ok next) :
    ∃ form, forms.form key = .ok form ∧ filter ∈ form.spec.filters ∧
      next = { forms with forms := forms.forms.insert key { form with
        value? := fun other => if other = filter then value else form.value? other } } := by
  unfold setFilter at set
  cases found : forms.form key with
  | error error => rw [found] at set; cases set
  | ok form =>
    refine ⟨form, rfl, ?_⟩
    by_cases listed : filter ∈ form.spec.filters
    · have contained : form.spec.filters.contains filter := by simpa using listed
      simp only [found, ParameterForm.set, contained, if_true, bind, Except.bind, pure, Except.pure,
        Except.ok.injEq] at set
      exact ⟨listed, set.symm⟩
    · simp [found, ParameterForm.set, listed, bind, Except.bind] at set

theorem setFilter_ok {forms : ParameterForms} {key : ViewKey} {form : ParameterForm}
    {filter : Filter} (found : forms.form key = .ok form) (listed : filter ∈ form.spec.filters)
    (value : Option FilterValue) :
    let filled : ParameterForm :=
      { form with value? := fun other => if other = filter then value else form.value? other }
    ∃ next, forms.setFilter key filter value = .ok next ∧ next.form key = .ok filled := by
  intro filled
  have contained : form.spec.filters.contains filter := by simpa using listed
  refine ⟨{ forms with forms := forms.forms.insert key filled }, ?_, ?_⟩
  · simp only [setFilter, found, ParameterForm.set, contained, if_true, bind, Except.bind, pure,
      Except.pure, filled]
  · simp [ParameterForms.form]

/-- A filter that is set leaves every form with its plot. -/
theorem shape_setFilter {forms next : ParameterForms} {key : ViewKey} {filter : Filter}
    {value : Option FilterValue} (set : forms.setFilter key filter value = .ok next) :
    next.shape = forms.shape := by
  obtain ⟨form, found, -, rfl⟩ := exists_of_setFilter set
  funext other
  simp only [shape, ViewMap.get?_insert]
  split
  next same => rw [same, form_ok found]; rfl
  next => rfl

theorem shape_clearValues (forms : ParameterForms) : forms.clearValues.shape = forms.shape := by
  funext key
  simp only [shape, clearValues, ViewMap.get?_map, Option.map_map]
  rfl

/-- Options that are taken, or not, leave the forms alone. -/
theorem forms_takeOptions (forms : ParameterForms) (options : ResultsOptions) :
    (forms.takeOptions options).2.forms = forms.forms := by
  unfold takeOptions
  split <;> rfl

theorem shape_takeOptions (forms : ParameterForms) (options : ResultsOptions) :
    (forms.takeOptions options).2.shape = forms.shape := by
  funext key
  rw [shape, shape, forms_takeOptions]

theorem form_of_shape {forms : ParameterForms} {key own : ViewKey} {spec : PlotSpec}
    (shape : forms.shape key = some (own, spec)) :
    ∃ form, forms.form key = .ok form ∧ form.key = own ∧ form.spec = spec := by
  obtain ⟨form, found, same⟩ := Option.map_eq_some_iff.mp shape
  obtain ⟨key, fits⟩ := Prod.mk.inj same
  refine ⟨form, ?_, key, fits⟩
  simp only [ParameterForms.form, found]

/-- Every listed plot has a form, which is of some plot that is listed under the same view. -/
theorem shape_of_listed {catalog : Catalog} {descriptor : ViewDescriptor} {spec : PlotSpec}
    (listed : descriptor ∈ catalog.views) (plot : descriptor.fetch = .plot spec) :
    ∃ entry ∈ catalog.plots, entry.1.key = descriptor.key ∧
      (ofCatalog catalog).shape descriptor.key = some (descriptor.key, entry.2) := by
  have among : (descriptor, spec) ∈ catalog.plots := by
    refine List.mem_filterMap.mpr ⟨descriptor, listed, ?_⟩
    simp [ViewDescriptor.plotSpec?, plot]
  rw [shape_ofCatalog]
  cases last : catalog.plots.reverse.find? fun plot => plot.1.key = descriptor.key with
  | none =>
    have unlisted := List.find?_eq_none.mp last _ (List.mem_reverse.mpr among)
    simp at unlisted
  | some entry =>
    have sameKey : entry.1.key = descriptor.key := by simpa using List.find?_some last
    have member := List.mem_reverse.mp (List.mem_of_find?_eq_some last)
    exact ⟨entry, member, sameKey, by rw [Option.map_some, sameKey]⟩

/-- Every view that resolves to a plot has a form of its own. -/
theorem exists_form_of_resolve {catalog : Catalog} {forms : ParameterForms}
    {descriptor : ViewDescriptor} {key : ViewKey} {spec : PlotSpec}
    (shape : forms.shape = (ofCatalog catalog).shape)
    (resolved : catalog.resolve key = .ok descriptor) (plot : descriptor.fetch = .plot spec) :
    ∃ form, forms.form descriptor.key = .ok form ∧ form.key = descriptor.key := by
  obtain ⟨entry, -, -, known⟩ := shape_of_listed (Catalog.mem_of_resolve resolved) plot
  rw [← shape] at known
  obtain ⟨form, found, own, -⟩ := form_of_shape known
  exact ⟨form, found, own⟩

end ParameterForms

end ScenarioResults
