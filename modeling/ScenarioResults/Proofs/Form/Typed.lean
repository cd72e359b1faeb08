import ScenarioResults.Proofs.Form.Action
import ScenarioResults.Proofs.Text.Trim

/-!
# Filters that are only set by text

A text that is given for a filter is read as a finite number for the y-axis maximum, and taken without the
blanks around it for any other filter. As long as filters are set in no other way, forms hold nothing else
(`typed_run`), and then the word that is sent for an unset maximum cannot be taken for a value
(`Typed.legible`).
-/

namespace ScenarioResults

/-- What can be made of a text that is given for a filter. -/
inductive Filter.Typed : Filter → FilterValue → Prop where
  | maximum {x : Float} (finite : isFinite x) : Typed .yAxisMax (.number x)
  | text {filter : Filter} {s : String} (other : filter ≠ .yAxisMax) (filled : s ≠ "")
      (bare : Text.Bare s) : Typed filter (.text s)

theorem Filter.typed_of_read {filter : Filter} {raw : String} {value : FilterValue}
    (read : filter.read raw = .ok (some value)) : filter.Typed value := by
  unfold Filter.read at read
  by_cases blank : (Text.trim raw).isEmpty
  · simp [blank] at read
  · have filled : Text.trim raw ≠ "" := mt String.isEmpty_iff.mpr blank
    simp only [blank, Bool.false_eq_true, if_false] at read
    cases filter with
    | yAxisMax =>
      cases number : (Decimal.read? (Text.trim raw)).filter isFinite with
      | none => simp [number] at read
      | some x =>
        obtain ⟨-, finite⟩ := Option.filter_eq_some_iff.mp number
        simp only [number, Except.ok.injEq, Option.some.injEq] at read
        subst read
        exact .maximum finite
    | _ =>
      obtain rfl := Option.some.inj (Except.ok.inj read)
      exact .text (by decide) filled (Text.trim_bare raw)

namespace ParameterForm

/-- Every value of the form could have been given as a text. -/
def Typed (form : ParameterForm) : Prop :=
  ∀ filter value, form.value? filter = some value → filter.Typed value

/-- Arguments from which it can be told whether the y-axis maximum is set. What is set is sent as it is. -/
structure Legible (form : ParameterForm) (arguments : List PlotArgument) : Prop where
  length : arguments.length = form.spec.filters.length
  text_iff : ∀ argument, (.yAxisMax, argument) ∈ form.spec.filters.zip arguments →
    ((∃ s, argument = some (.text s)) ↔ form.value? .yAxisMax = none)
  word : ∀ s, (.yAxisMax, some (.text s)) ∈ form.spec.filters.zip arguments → s = "default"
  kept : ∀ filter sent value, (filter, sent) ∈ form.spec.filters.zip arguments →
    form.value? filter = some value → sent = some value
  filled : some (.text "") ∉ arguments

theorem arguments_eq (form : ParameterForm) : form.arguments =
    form.spec.filters.map fun filter => argument filter (form.value? filter) := by
  simp only [arguments, currentValues, List.map_map]
  rfl

theorem mem_zip_arguments {form : ParameterForm} {filter : Filter} {sent : PlotArgument}
    (placed : (filter, sent) ∈ form.spec.filters.zip form.arguments) :
    sent = argument filter (form.value? filter) := by
  rw [arguments_eq, ← List.map_prod_left_eq_zip] at placed
  obtain ⟨_, _, same⟩ := List.mem_map.mp placed
  cases same
  rfl

/-- A text in place of the y-axis maximum is the word for an unset one. -/
theorem Typed.of_text {form : ParameterForm} (typed : form.Typed) {s : String}
    (sent : argument .yAxisMax (form.value? .yAxisMax) = some (.text s)) :
    form.value? .yAxisMax = none ∧ s = "default" := by
  cases held : form.value? .yAxisMax with
  | none =>
    rw [held] at sent
    cases sent
    exact ⟨rfl, rfl⟩
  | some value =>
    cases typed _ _ held with
    | maximum finite =>
      rw [held] at sent
      cases sent
    | text other => exact (other rfl).elim

theorem Typed.legible {form : ParameterForm} (typed : form.Typed) :
    form.Legible form.arguments := by
  refine ⟨by rw [arguments_eq, List.length_map], ?_, ?_, ?_, ?_⟩
  · intro sent placed
    rw [mem_zip_arguments placed]
    constructor
    · rintro ⟨s, text⟩
      exact (typed.of_text text).1
    · intro unset
      rw [unset]
      exact ⟨"default", rfl⟩
  · intro s placed
    exact (typed.of_text (mem_zip_arguments placed).symm).2
  · intro filter sent value placed set
    rw [mem_zip_arguments placed, set, argument_some]
  · intro member
    rw [arguments_eq] at member
    obtain ⟨filter, -, sent⟩ := List.mem_map.mp member
    cases set : form.value? filter with
    | none =>
      rw [set] at sent
      cases filter <;> simp [argument, FilterValue.unsetMaximum] at sent
    | some value =>
      rw [set, argument_some] at sent
      obtain rfl := Option.some.inj sent
      cases typed _ _ set with
      | text _ filled => exact filled rfl

end ParameterForm

namespace ParameterForms

/-- Every form holds what could have been given as a text. -/
def Typed (forms : ParameterForms) : Prop :=
  ∀ key form, forms.form key = .ok form → form.Typed

theorem typed_ofCatalog (catalog : Catalog) : (ofCatalog catalog).Typed := by
  intro key form found filter value held
  have stored := form_ok found
  rw [get?_ofCatalog] at stored
  obtain ⟨plot, -, rfl⟩ := Option.map_eq_some_iff.mp stored
  cases held

theorem Typed.setFilter {forms next : ParameterForms} (typed : forms.Typed) {key : ViewKey}
    {filter : Filter} {value : Option FilterValue}
    (set : forms.setFilter key filter value = .ok next)
    (given : ∀ content, value = some content → filter.Typed content) : next.Typed := by
  obtain ⟨form, found, -, rfl⟩ := exists_of_setFilter set
  intro other held stored
  have written := form_ok stored
  simp only [ViewMap.get?_insert] at written
  split at written
  · obtain rfl := Option.some.inj written
    intro place content holds
    simp only at holds
    split at holds
    next same =>
      subst same
      exact given content holds
    next => exact typed key form found place content holds
  · refine typed other held ?_
    simp only [ParameterForms.form, written]

theorem Typed.perform {forms : ParameterForms} (typed : forms.Typed) {action : FormAction}
    (byText : ∀ key filter value, action ≠ .set key filter value) :
    (forms.perform action).Typed := by
  cases action with
  | set key filter value => exact (byText key filter value rfl).elim
  | setRaw key filter raw =>
    simp only [ParameterForms.perform]
    cases read : filter.read raw with
    | error error => exact typed
    | ok value =>
      dsimp only
      cases set : forms.setFilter key filter value with
      | error error => exact typed
      | ok next =>
        refine typed.setFilter set ?_
        rintro content rfl
        exact Filter.typed_of_read read
  | clear =>
    intro key form found filter value held
    obtain ⟨old, -, rfl⟩ := Option.map_eq_some_iff.mp (form_ok found)
    cases held
  | takeOptions options =>
    intro key form found
    refine typed key form ?_
    rw [← found]
    simp only [ParameterForms.perform, ParameterForms.form, forms_takeOptions]

theorem typed_run {forms : ParameterForms} (typed : forms.Typed) {actions : List FormAction}
    (byText : ∀ key filter value, .set key filter value ∉ actions) : (forms.run actions).Typed := by
  induction actions generalizing forms with
  | nil => exact typed
  | cons action rest ih =>
    refine ih (typed.perform ?_) ?_
    · rintro key filter value rfl
      exact byText key filter value List.mem_cons_self
    · intro key filter value member
      exact byText key filter value (List.mem_cons_of_mem _ member)

end ParameterForms

end ScenarioResults
