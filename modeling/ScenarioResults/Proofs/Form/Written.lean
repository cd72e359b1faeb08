import ScenarioResults.Proofs.Form.Action

/-!
# The last value that was written counts

Forms are a store with one place for each filter of each plot. Whatever is done to them, a place holds
what the last accepted write put there since the forms were last cleared, and nothing if there was none
(`values_last_written`). What is accepted is settled by the catalog, and what is refused changes nothing.
-/

namespace ScenarioResults

/-- A value that a filter of a view is set to, none if it is unset. -/
structure FilterWrite where
  key : ViewKey
  filter : Filter
  value : Option FilterValue

/-- The plot that the form of a view is of. Of several plots under one view the last one has the say. -/
def Catalog.formSpec? (catalog : Catalog) (key : ViewKey) : Option PlotSpec :=
  (catalog.plots.reverse.find? fun plot => plot.1.key = key).map Prod.snd

namespace FormAction

/-- What an action writes, if it is accepted. A text that cannot be read is no write. -/
def write? : FormAction → Option FilterWrite
  | .set key filter value => some ⟨key, filter, value⟩
  | .setRaw key filter raw => (filter.read raw).toOption.map fun value => ⟨key, filter, value⟩
  | .clear | .takeOptions _ => none

def clears : FormAction → Bool
  | .clear => true
  | _ => false

/-- The view has a form, the filter is one of its plot, and the text can be read as a value of it. -/
def TakenBy (catalog : Catalog) : FormAction → Prop
  | .set key filter _ => ∃ spec, catalog.formSpec? key = some spec ∧ filter ∈ spec.filters
  | .setRaw key filter raw =>
    (filter.read raw).isOk ∧ ∃ spec, catalog.formSpec? key = some spec ∧ filter ∈ spec.filters
  | .clear | .takeOptions _ => True

end FormAction

/-- What the last write to a filter of a view put there since the forms were last cleared. -/
def lastWritten (key : ViewKey) (filter : Filter) (log : List FormAction) : Option FilterValue :=
  let recent := log.reverse.takeWhile fun action => !action.clears
  ((recent.filterMap FormAction.write?).find? fun write =>
    write.key = key ∧ write.filter = filter).bind FilterWrite.value

section

variable {log : List FormAction} {action : FormAction} {key : ViewKey} {filter : Filter}

theorem lastWritten_of_clears (clears : action.clears = true) :
    lastWritten key filter (log ++ [action]) = none := by
  simp [lastWritten, clears]

theorem lastWritten_of_write {write : FilterWrite} (written : action.write? = some write) :
    lastWritten key filter (log ++ [action]) =
      if write.key = key ∧ write.filter = filter then write.value
      else lastWritten key filter log := by
  have kept : action.clears = false := by
    cases action with
    | clear => cases written
    | _ => rfl
  unfold lastWritten
  rw [List.reverse_append, List.reverse_singleton, List.singleton_append, List.takeWhile_cons, kept]
  simp only [Bool.not_false, if_true, List.filterMap_cons, written, List.find?_cons]
  by_cases same : write.key = key ∧ write.filter = filter <;> simp [same]

theorem lastWritten_of_silent (kept : action.clears = false) (silent : action.write? = none) :
    lastWritten key filter (log ++ [action]) = lastWritten key filter log := by
  simp [lastWritten, kept, silent]

end

namespace ParameterForms

/-- What is set is sent as it is, and nothing is sent for what is unset, the y-axis maximum apart. -/
theorem argument_eq (filter : Filter) (value : Option FilterValue) :
    ParameterForm.argument filter value =
      value.or (if filter = .yAxisMax then some (.text "default") else none) := by
  cases value with
  | some value => exact ParameterForm.argument_some filter value
  | none => cases filter <;> rfl

/-- The forms after an action, or why it is refused. -/
def attempt (forms : ParameterForms) : FormAction → Except ViewError ParameterForms
  | .set key filter value => forms.setFilter key filter value
  | .setRaw key filter raw => (filter.read raw).bind fun value => forms.setFilter key filter value
  | .clear => .ok forms.clearValues
  | .takeOptions options => .ok (forms.takeOptions options).2

/-- The actions of a run that are accepted, in order. -/
def accepted (forms : ParameterForms) : List FormAction → List FormAction
  | [] => []
  | action :: rest =>
    if (forms.attempt action).isOk then action :: (forms.perform action).accepted rest
    else (forms.perform action).accepted rest

/-- Every filter of every form holds what was last written to it. -/
def Recorded (forms : ParameterForms) (log : List FormAction) : Prop :=
  ∀ key form filter, forms.form key = .ok form → form.value? filter = lastWritten key filter log

section

variable {forms next : ParameterForms} {log : List FormAction} {action : FormAction}

theorem perform_of_ok (done : forms.attempt action = .ok next) : forms.perform action = next := by
  cases action with
  | set key filter value =>
    simp only [attempt] at done
    simp only [perform, done, Except.toOption, Option.getD_some]
  | setRaw key filter raw =>
    simp only [attempt] at done
    cases read : filter.read raw with
    | error error => simp [read, Except.bind] at done
    | ok value =>
      simp only [read, Except.bind] at done
      simp only [perform, read, done, Except.toOption, Option.getD_some]
  | clear => exact Except.ok.inj done
  | takeOptions options => exact Except.ok.inj done

/-- What is refused leaves the forms as they were. -/
theorem perform_of_error {error : ViewError} (refused : forms.attempt action = .error error) :
    forms.perform action = forms := by
  cases action with
  | set key filter value =>
    simp only [attempt] at refused
    simp only [perform, refused, Except.toOption, Option.getD_none]
  | setRaw key filter raw =>
    simp only [attempt] at refused
    cases read : filter.read raw with
    | error error => simp only [perform, read]
    | ok value =>
      simp only [read, Except.bind] at refused
      simp only [perform, read, refused, Except.toOption, Option.getD_none]
  | clear => cases refused
  | takeOptions options => cases refused

/-! ### What is accepted -/

theorem shape_eq_formSpec? {catalog : Catalog} (shape : forms.shape = (ofCatalog catalog).shape)
    (key : ViewKey) : forms.shape key = (catalog.formSpec? key).map fun spec => (key, spec) := by
  rw [shape, shape_ofCatalog, Catalog.formSpec?]
  cases last : catalog.plots.reverse.find? fun plot => plot.1.key = key with
  | none => rfl
  | some plot =>
    have own : plot.1.key = key := by simpa using List.find?_some last
    simp [own]

theorem form_shape {key : ViewKey} {form : ParameterForm} (found : forms.form key = .ok form) :
    forms.shape key = some (form.key, form.spec) := by
  rw [shape, form_ok found, Option.map_some]

theorem setFilter_isOk_iff {catalog : Catalog} (shape : forms.shape = (ofCatalog catalog).shape)
    {key : ViewKey} {filter : Filter} {value : Option FilterValue} :
    (forms.setFilter key filter value).isOk ↔
      ∃ spec, catalog.formSpec? key = some spec ∧ filter ∈ spec.filters := by
  have known := shape_eq_formSpec? shape key
  constructor
  · intro accepted
    cases set : forms.setFilter key filter value with
    | error error =>
      rw [set] at accepted
      cases accepted
    | ok next =>
      obtain ⟨form, found, listed, -⟩ := exists_of_setFilter set
      rw [form_shape found] at known
      obtain ⟨spec, given, same⟩ := Option.map_eq_some_iff.mp known.symm
      obtain ⟨-, rfl⟩ := Prod.mk.inj same
      exact ⟨_, given, listed⟩
  · rintro ⟨spec, given, listed⟩
    rw [given, Option.map_some] at known
    obtain ⟨form, found, -, rfl⟩ := form_of_shape known
    obtain ⟨next, set, -⟩ := setFilter_ok found listed value
    rw [set]
    rfl

theorem attempt_isOk_iff {catalog : Catalog} (shape : forms.shape = (ofCatalog catalog).shape)
    (action : FormAction) : (forms.attempt action).isOk ↔ action.TakenBy catalog := by
  cases action with
  | set key filter value => exact setFilter_isOk_iff shape
  | setRaw key filter raw =>
    simp only [attempt, FormAction.TakenBy]
    cases filter.read raw with
    | error error => exact iff_of_false Bool.false_ne_true fun taken => Bool.false_ne_true taken.1
    | ok value => exact (setFilter_isOk_iff shape).trans (and_iff_right rfl).symm
  | clear => exact iff_of_true rfl trivial
  | takeOptions options => exact iff_of_true rfl trivial

/-! ### What is held -/

theorem recorded_ofCatalog (catalog : Catalog) : (ofCatalog catalog).Recorded [] := by
  intro key form filter found
  have stored := form_ok found
  rw [get?_ofCatalog] at stored
  obtain ⟨plot, -, rfl⟩ := Option.map_eq_some_iff.mp stored
  rfl

theorem Recorded.setFilter (recorded : forms.Recorded log) {write : FilterWrite}
    (written : action.write? = some write)
    (set : forms.setFilter write.key write.filter write.value = .ok next) :
    next.Recorded (log ++ [action]) := by
  obtain ⟨form, found, -, rfl⟩ := exists_of_setFilter set
  intro other held filter stored
  rw [lastWritten_of_write written]
  have place := form_ok stored
  simp only [ViewMap.get?_insert] at place
  split at place
  next same =>
    subst same
    obtain rfl := Option.some.inj place
    by_cases own : filter = write.filter
    · simp [own]
    · simpa [own, Ne.symm own] using recorded _ _ filter found
  next different =>
    have old : forms.form other = .ok held := by simp only [ParameterForms.form, place]
    simpa [Ne.symm different] using recorded _ _ filter old

theorem Recorded.attempt (recorded : forms.Recorded log) (done : forms.attempt action = .ok next) :
    next.Recorded (log ++ [action]) := by
  cases action with
  | set key filter value =>
    have written : FormAction.write? (.set key filter value) = some ⟨key, filter, value⟩ := rfl
    exact recorded.setFilter written done
  | setRaw key filter raw =>
    cases read : filter.read raw with
    | error error => simp [ParameterForms.attempt, read, Except.bind] at done
    | ok value =>
      have written : FormAction.write? (.setRaw key filter raw) = some ⟨key, filter, value⟩ := by
        simp [FormAction.write?, read, Except.toOption]
      simp only [ParameterForms.attempt, read, Except.bind] at done
      exact recorded.setFilter written done
  | clear =>
    obtain rfl := Except.ok.inj done
    intro key form filter found
    obtain ⟨old, -, rfl⟩ := Option.map_eq_some_iff.mp (form_ok found)
    rw [lastWritten_of_clears rfl]
    rfl
  | takeOptions options =>
    obtain rfl := Except.ok.inj done
    intro key form filter found
    rw [lastWritten_of_silent rfl rfl]
    refine recorded key form filter ?_
    rw [← found]
    simp only [ParameterForms.form, forms_takeOptions]

/-- Along a run every filter holds what was last written to it. -/
theorem Recorded.run (recorded : forms.Recorded log) (actions : List FormAction) :
    (forms.run actions).Recorded (log ++ forms.accepted actions) := by
  induction actions generalizing forms log with
  | nil => simpa [ParameterForms.run, accepted] using recorded
  | cons action rest ih =>
    simp only [ParameterForms.run, accepted]
    cases done : forms.attempt action with
    | ok next =>
      have later := ih (recorded.attempt done)
      rw [List.append_assoc] at later
      simpa [perform_of_ok done, Except.isOk, Except.toBool] using later
    | error error => simpa [perform_of_error done, Except.isOk, Except.toBool] using ih recorded

end

/-- Whatever has been done to the forms of a catalog, there is one for every view that is listed as a
plot, and its filters, in their order, hold what was last written to them since the forms were last
cleared. What is sent for them is what they hold, with a word for an unset y-axis maximum. A write is
accepted if the view has a form and the filter is one of its plot, and refused without a trace if not. -/
theorem values_last_written (catalog : Catalog) (actions : List FormAction) :
    let forms := (ofCatalog catalog).run actions
    let log := (ofCatalog catalog).accepted actions
    (∀ key, forms.shape key = (catalog.formSpec? key).map fun spec => (key, spec)) ∧
      (∀ key form, forms.form key = .ok form →
        form.currentValues =
            form.spec.filters.map (fun filter => (filter, lastWritten key filter log)) ∧
          form.arguments = form.currentValues.map fun pair =>
            pair.2.or (if pair.1 = .yAxisMax then some (.text "default") else none)) ∧
      ∀ action, ((forms.attempt action).isOk ↔ action.TakenBy catalog) ∧
        (¬ action.TakenBy catalog → forms.perform action = forms) := by
  intro forms log
  have shape : forms.shape = (ofCatalog catalog).shape := shape_run _ actions
  have recorded : forms.Recorded log := by
    simpa using (recorded_ofCatalog catalog).run actions
  refine ⟨shape_eq_formSpec? shape, ?_, ?_⟩
  · intro key form found
    refine ⟨?_, ?_⟩
    · unfold ParameterForm.currentValues
      refine List.map_congr_left fun filter _ => ?_
      rw [recorded key form filter found]
    · unfold ParameterForm.arguments
      exact List.map_congr_left fun pair _ => argument_eq pair.1 pair.2
  · intro action
    have taken := attempt_isOk_iff shape action
    refine ⟨taken, ?_⟩
    intro untaken
    cases done : forms.attempt action with
    | ok next =>
      rw [done] at taken
      exact (untaken (taken.mp rfl)).elim
    | error error => exact perform_of_error done

/-- A plot that is listed twice has the filters of its last entry. One that it names twice is written
before and after the forms are cleared, and one of the first entry is refused. -/
theorem values_last_written_twice :
    let catalog : Catalog := ⟨[Catalog.plot .costPlot "Cost Plot" "costPlot" [.horizon],
      Catalog.plot .costPlot "Cost Plot" "costPlot" [.stage, .yAxisMax, .stage]]⟩
    let actions : List FormAction := [.set .costPlot .yAxisMax (some (.text "9")), .clear,
      .setRaw .costPlot .stage " 2 ", .set .costPlot .horizon (some (.text "2030"))]
    ∃ form, ((ofCatalog catalog).run actions).form .costPlot = .ok form ∧
      form.arguments = [some (.text "2"), some (.text "default"), some (.text "2")] ∧
      ((ofCatalog catalog).run actions).perform (.set .costPlot .horizon none) =
        (ofCatalog catalog).run actions := by
  intro catalog actions
  obtain ⟨shape, held, taken⟩ := values_last_written catalog actions
  have known : ((ofCatalog catalog).run actions).shape .costPlot =
      some (.costPlot, ⟨"costPlot", [.stage, .yAxisMax, .stage]⟩) := shape .costPlot
  obtain ⟨form, found, -, spec⟩ := form_of_shape known
  obtain ⟨values, sent⟩ := held _ _ found
  refine ⟨form, found, ?_, (taken _).2 ?_⟩
  · rw [sent, values, spec]
    rfl
  · rintro ⟨other, given, listed⟩
    cases given
    revert listed
    decide

end ParameterForms

end ScenarioResults
