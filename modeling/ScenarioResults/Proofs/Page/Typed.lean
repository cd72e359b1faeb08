import ScenarioResults.Backend.Scripted
import ScenarioResults.Embedder.Recorder
import ScenarioResults.Proofs.Form.Typed
import ScenarioResults.Proofs.Page.Conservation

/-!
# Plots of a page whose filters are set by text

A page on which filters are set by text only holds in its forms what can be made of texts. So from what it
asks a plot with it can always be told whether the y-axis maximum is set (`plots_legible`).
-/

namespace ScenarioResults.Page

variable {σ ε : Type} [Backend σ]

/-- No action sets a filter but by a text. -/
theorem formed_by_text {page : Page σ ε} {action : PageAction}
    (byText : ∀ key filter value, action ≠ .setFilter key filter value) (key : ViewKey)
    (filter : Filter) (value : Option FilterValue) : .set key filter value ∉ page.formed action := by
  cases action with
  | setFilter key filter value => exact (byText key filter value rfl).elim
  | loadOptions =>
    simp only [formed]
    split <;> simp
  | _ => simp [formed]

theorem activate_calls {page : Page (ObservedBackend σ) ε} {descriptor : ViewDescriptor}
    {plot : Option (Surface × List PlotArgument)}
    (plan : Coordinator.plotPlan descriptor (page.formFor descriptor) = .ok plot) :
    ∃ started, (page.activate descriptor).2.backend.calls =
      page.backend.calls ++ [.spawn (page.planned descriptor plot) started] := by
  rcases answer : Backend.spawn (page.planned descriptor plot) page.backend with
    ⟨fault | events, backend⟩
  · rw [activate_refused plan answer]
    exact ⟨false, ObservedBackend.calls_of_refused answer⟩
  · rw [activate_started plan answer]
    exact ⟨true, ObservedBackend.calls_of_started answer⟩

theorem enter_typed (scenario : ScenarioId) (catalog : Catalog) (backend : σ) (embedder : ε) :
    (enter scenario catalog backend embedder).forms.Typed := by
  have parts := loadOptions_parts
    ({ scenario, catalog, forms := .ofCatalog catalog, embedder, backend } : Page σ ε)
  have entered := parts.forms
  unfold enter
  rw [entered]
  exact ParameterForms.typed_run (ParameterForms.typed_ofCatalog catalog) (formed_by_text (by simp))

variable [Embedder ε]

theorem perform_typed {page : Page σ ε} (typed : page.forms.Typed) {action : PageAction}
    (byText : ∀ key filter value, action ≠ .setFilter key filter value) :
    (page.perform action).2.forms.Typed := by
  rw [(page.perform_parts action).forms]
  exact ParameterForms.typed_run typed (formed_by_text byText)

theorem run_typed {page : Page σ ε} (typed : page.forms.Typed) {actions : List PageAction}
    (byText : ∀ key filter value, .setFilter key filter value ∉ actions) :
    (page.run actions).forms.Typed := by
  rw [run_forms]
  refine ParameterForms.typed_run typed fun key filter value => not_mem_along ?_ page
  intro action member found
  refine formed_by_text ?_ key filter value
  rintro other place content rfl
  exact byText other place content member

/-- As long as filters are set by text only, every y-axis maximum that is set is a finite number, and
any other value is a text that is not empty and has no blank at either end. So in what is planned next
for any plot, and in the fetch that any action starts, a text in place of the y-axis maximum says that
it is unset, and is always the same one; and no argument is the empty text. -/
theorem plots_legible (scenario : ScenarioId) (catalog : Catalog) (backend : σ) (embedder : ε)
    (actions : List PageAction)
    (byText : ∀ key filter value, .setFilter key filter value ∉ actions) :
    let page := (enter scenario catalog backend embedder).observe.run actions
    page.plain = (enter scenario catalog backend embedder).run actions ∧
      (∀ key form, page.forms.form key = .ok form → ∀ filter value,
        form.value? filter = some value → filter.Typed value) ∧
      (∀ descriptor spec, catalog.resolve descriptor.key = .ok descriptor →
        descriptor.fetch = .plot spec →
        ∃ form, page.forms.form descriptor.key = .ok form ∧ form.Legible form.arguments ∧
          (page.coordinator.plan descriptor scenario (page.formFor descriptor)).1 =
            .ok (.plot (page.nextTicket descriptor) scenario form.arguments)) ∧
      ∀ action, (∀ key filter value, action ≠ .setFilter key filter value) →
        ∀ descriptor found spec, page.activation? action = some (descriptor, found) →
        descriptor.fetch = .plot spec →
        ∃ form started, (page.perform action).2.forms.form descriptor.key = .ok form ∧
          form.Legible form.arguments ∧
          (page.perform action).2.backend.calls = found.backend.calls ++
            [.spawn (.plot (found.nextTicket descriptor) scenario form.arguments) started] := by
  intro page
  have sound : page.Sound := run_observed_sound scenario catalog backend embedder actions
  have entered : (enter scenario catalog backend embedder).observe.forms.Typed :=
    enter_typed scenario catalog backend embedder
  have typed : page.forms.Typed := run_typed entered byText
  have alike := enter_alike scenario catalog backend embedder
  have listed : page.catalog = catalog := by
    rw [run_catalog]
    exact alike.catalog
  have same : page.scenario = scenario := by
    rw [run_scenario]
    exact alike.scenario
  refine ⟨run_plain _ actions, typed, ?_, ?_⟩
  · intro descriptor spec resolved plot
    rw [← listed] at resolved
    obtain ⟨form, held, plan⟩ := exists_form_planned sound.shape resolved plot
    refine ⟨form, held, (typed _ form held).legible, ?_⟩
    rw [Coordinator.plan_of_ok scenario plan]
    rfl
  · intro action nextByText descriptor found spec active plot
    have ready := (activation_ready sound active).1
    obtain ⟨form, held, plan⟩ := exists_form_planned ready.shape ready.resolved plot
    obtain ⟨started, calls⟩ := activate_calls plan
    have next := perform_typed typed nextByText
    cases page.course action with
    | activates _ _ _ activation _ _ alike _ _ performed =>
      rw [active] at activation
      cases activation
      have asked : found.scenario = scenario := by rw [alike.scenario, letGo_apart, same]
      have forms := (found.activate_touched descriptor).forms
      rw [performed] at next ⊢
      rw [planned, asked] at calls
      rw [← forms] at held
      exact ⟨form, started, held, (next _ form held).legible, calls⟩
    | takes _ _ inactive => simp [inactive] at active
    | rests inactive => simp [inactive] at active

/-- The word for an unset maximum is refused as a maximum. As a load zone it is a text like any other. -/
theorem plots_legible_word :
    let actions : List PageAction := [.setFilterRaw .dispatchPlot .loadZone " default\u3000",
      .setFilterRaw .dispatchPlot .yAxisMax "default", .setFilterRaw .dispatchPlot .horizon " "]
    let page := (enter ⟨7⟩ .standard ({} : ScriptedBackend) ({} : Recorder)).observe.run actions
    (∀ key filter value, .setFilter key filter value ∉ actions) ∧
      ∃ form, page.forms.form .dispatchPlot = .ok form ∧ form.Legible form.arguments ∧
        form.value? .yAxisMax = none ∧
        form.arguments = [some (.text "default"), none, some (.text "default")] := by
  intro actions page
  have byText : ∀ key filter value, .setFilter key filter value ∉ actions := by simp [actions]
  obtain ⟨-, -, planned, -⟩ := plots_legible ⟨7⟩ .standard ({} : ScriptedBackend) ({} : Recorder)
    actions byText
  obtain ⟨form, held, legible, -⟩ := planned (Catalog.plot .dispatchPlot "Dispatch Plot"
    "dispatchPlot" Catalog.dispatchFilters) _ rfl rfl
  have held : page.forms.form .dispatchPlot = .ok form := held
  have known : (page.forms.form .dispatchPlot).toOption.map (fun form =>
      (form.spec.filters, form.arguments)) = some ([.loadZone, .horizon, .yAxisMax],
        [some (.text "default"), none, some (.text "default")]) := by rfl
  rw [held] at known
  obtain ⟨filters, arguments⟩ := Prod.mk.inj (Option.some.inj known)
  refine ⟨byText, form, held, legible, ?_, arguments⟩
  refine (legible.text_iff (some (.text "default")) ?_).mp ⟨"default", rfl⟩
  rw [filters, arguments]
  simp

end ScenarioResults.Page
