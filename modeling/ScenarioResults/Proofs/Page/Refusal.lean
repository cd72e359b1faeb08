import ScenarioResults.Backend.Scripted
import ScenarioResults.Embedder.Recorder
import ScenarioResults.Proofs.Form.Given
import ScenarioResults.Proofs.Page.Conservation

/-!
# Actions that are refused

What a page refuses is settled by its catalog for good: a view that is not listed, a filter of a view
that is no plot or has no such filter, a text that is no value of its filter. Whatever is under way, a
page that refuses an action is left as it was (`refused_unchanged`).
-/

namespace ScenarioResults

/-- What is refused of a page over a catalog, and with which error. -/
inductive Catalog.Refuses (catalog : Catalog) : PageAction → ViewError → Prop where
  | unlisted {key : ViewKey} (missing : ∀ view ∈ catalog.views, view.key ≠ key) :
      Refuses catalog (.select key) (.unknownView key.slug)
  | nameless {raw : String} (unknown : ∀ key : ViewKey, key.slug ≠ Text.trim raw) :
      Refuses catalog (.selectSlug raw) (.unknownView raw)
  | unlistedSlug {raw : String} {key : ViewKey} (named : key.slug = Text.trim raw)
      (missing : ∀ view ∈ catalog.views, view.key ≠ key) :
      Refuses catalog (.selectSlug raw) (.unknownView key.slug)
  | notAPlot {key : ViewKey} {filter : Filter} {value : Option FilterValue}
      (missing : ∀ plot ∈ catalog.plots, plot.1.key ≠ key) :
      Refuses catalog (.setFilter key filter value) (.notAPlot key)
  /-- Of several plots under one view the last one has the say. -/
  | unknownFilter {key : ViewKey} {filter : Filter} {value : Option FilterValue}
      {plot : ViewDescriptor × PlotSpec}
      (last : catalog.plots.reverse.find? (fun plot => plot.1.key = key) = some plot)
      (foreign : filter ∉ plot.2.filters) :
      Refuses catalog (.setFilter key filter value) (.unknownFilter key filter)
  | unreadable {key : ViewKey} {filter : Filter} {raw : String} {error : ViewError}
      (read : filter.read raw = .error error) : Refuses catalog (.setFilterRaw key filter raw) error
  | ofValue {key : ViewKey} {filter : Filter} {raw : String} {value : Option FilterValue}
      {error : ViewError} (read : filter.read raw = .ok value)
      (refused : Refuses catalog (.setFilter key filter value) error) :
      Refuses catalog (.setFilterRaw key filter raw) error

/-! ### What a catalog does not know -/

namespace Catalog

variable {catalog : Catalog} {error : ViewError}

theorem resolve_error_iff {key : ViewKey} : catalog.resolve key = .error error ↔
    (∀ view ∈ catalog.views, view.key ≠ key) ∧ error = .unknownView key.slug := by
  unfold resolve
  cases found : catalog.views.find? fun view => view.key == key with
  | some view =>
    have listed := List.mem_of_find?_eq_some found
    have named : view.key = key := by simpa using List.find?_some found
    constructor
    · intro same
      cases same
    · rintro ⟨missing, -⟩
      exact (missing view listed named).elim
  | none =>
    have missing : ∀ view ∈ catalog.views, view.key ≠ key := by
      simpa using List.find?_eq_none.mp found
    constructor
    · intro same
      cases same
      exact ⟨missing, rfl⟩
    · rintro ⟨-, rfl⟩
      rfl

theorem refuses_select_iff {key : ViewKey} :
    catalog.Refuses (.select key) error ↔ catalog.resolve key = .error error := by
  rw [resolve_error_iff]
  constructor
  · intro refused
    cases refused with
    | unlisted missing => exact ⟨missing, rfl⟩
  · rintro ⟨missing, rfl⟩
    exact .unlisted missing

theorem refuses_selectSlug_iff {raw : String} :
    catalog.Refuses (.selectSlug raw) error ↔ catalog.resolveSlug raw = .error error := by
  unfold resolveSlug
  cases named : ViewKey.ofSlug? (Text.trim raw) with
  | none =>
    have unknown (key : ViewKey) : key.slug ≠ Text.trim raw := by
      intro same
      rw [← same, ViewKey.ofSlug?_slug] at named
      cases named
    constructor
    · intro refused
      cases refused with
      | nameless => rfl
      | unlistedSlug same => exact (unknown _ same).elim
    · intro same
      cases same
      exact .nameless unknown
  | some key =>
    have slug := ViewKey.slug_of_ofSlug? named
    simp only [resolve_error_iff]
    constructor
    · intro refused
      cases refused with
      | nameless unknown => exact (unknown key slug).elim
      | unlistedSlug same missing =>
        rw [← same, ViewKey.ofSlug?_slug] at named
        obtain rfl := Option.some.inj named
        exact ⟨missing, rfl⟩
    · rintro ⟨missing, rfl⟩
      exact .unlistedSlug slug missing

end Catalog

/-- The forms that there are decide which filters can be set, whatever is set in them. -/
theorem ParameterForms.refuses_setFilter_iff {catalog : Catalog} {forms : ParameterForms}
    (shape : forms.shape = (ofCatalog catalog).shape) {key : ViewKey} {filter : Filter}
    {value : Option FilterValue} {error : ViewError} :
    catalog.Refuses (.setFilter key filter value) error ↔
      forms.setFilter key filter value = .error error := by
  have known : forms.shape key = (catalog.plots.reverse.find? fun plot => plot.1.key = key).map
      fun plot => (plot.1.key, plot.2) := by rw [shape, shape_ofCatalog]
  cases found : catalog.plots.reverse.find? fun plot => plot.1.key = key with
  | none =>
    rw [found] at known
    have formless : forms.form key = .error (.notAPlot key) := by
      simp only [ParameterForms.form, Option.map_eq_none_iff.mp known]
    have missing : ∀ plot ∈ catalog.plots, plot.1.key ≠ key := by
      simpa using List.find?_eq_none.mp found
    simp only [setFilter, formless]
    constructor
    · intro refused
      cases refused with
      | notAPlot => rfl
      | unknownFilter last =>
        rw [found] at last
        cases last
    · intro same
      cases same
      exact .notAPlot missing
  | some plot =>
    rw [found] at known
    obtain ⟨form, held, own, spec⟩ := form_of_shape known
    have named : plot.1.key = key := by simpa using List.find?_some found
    have member := List.mem_reverse.mp (List.mem_of_find?_eq_some found)
    by_cases listed : filter ∈ form.spec.filters
    · obtain ⟨next, taken, -⟩ := setFilter_ok held listed value
      rw [taken]
      constructor
      · intro refused
        cases refused with
        | notAPlot missing => exact (missing plot member named).elim
        | unknownFilter last foreign =>
          rw [found] at last
          obtain rfl := Option.some.inj last
          rw [← spec] at foreign
          exact (foreign listed).elim
      · intro same
        cases same
    · have foreign : form.set filter value = .error (.unknownFilter key filter) := by
        simp [ParameterForm.set, listed, own, named]
      simp only [setFilter, held, foreign, bind, Except.bind]
      constructor
      · intro refused
        cases refused with
        | notAPlot missing => exact (missing plot member named).elim
        | unknownFilter => rfl
      · intro same
        cases same
        rw [spec] at listed
        exact .unknownFilter found listed

namespace Page

variable {σ ε : Type} [Backend σ] [Embedder ε] {page : Page σ ε} {error : ViewError}

/-! ### A refused action and the page after it -/

theorem perform_of_refuses (sound : page.Sound) {action : PageAction}
    (refused : page.catalog.Refuses action error) : page.perform action = (.error error, page) := by
  have unset {key : ViewKey} {filter : Filter} {value : Option FilterValue}
      (refused : page.catalog.Refuses (.setFilter key filter value) error) :
      page.setFilter key filter value = (.error error, page) := by
    have failed := (ParameterForms.refuses_setFilter_iff sound.shape).mp refused
    simp only [setFilter, failed]
  cases action with
  | select key =>
    have unresolved := Catalog.refuses_select_iff.mp refused
    simp only [perform, select, unresolved]
  | selectSlug raw =>
    have unresolved := Catalog.refuses_selectSlug_iff.mp refused
    simp only [perform, selectSlug, unresolved]
  | setFilter key filter value => exact unset refused
  | setFilterRaw key filter raw =>
    cases refused with
    | unreadable read => simp only [perform, setFilterRaw, read]
    | ofValue read refused =>
      simp only [perform, setFilterRaw, read]
      exact unset refused
  | _ => cases refused

/-- An error comes from the catalog or from the forms. Once a filter has been set, the view that is on
show resolves, so nothing can go wrong any more. -/
theorem refuses_of_error (sound : page.Sound) {action : PageAction}
    (answered : (page.perform action).1 = .error error) : page.catalog.Refuses action error := by
  have unset {key : ViewKey} {filter : Filter} {value : Option FilterValue}
      (answered : (page.setFilter key filter value).1 = .error error) :
      page.catalog.Refuses (.setFilter key filter value) error := by
    refine (ParameterForms.refuses_setFilter_iff sound.shape).mpr ?_
    unfold setFilter at answered
    cases set : page.forms.setFilter key filter value with
    | error refused =>
      rw [set] at answered
      obtain rfl := Except.error.inj answered
      rfl
    | ok forms =>
      by_cases shown : page.selection.current = some key
      · obtain ⟨descriptor, resolved⟩ := sound.shown_listed key shown
        simp [set, shown, resolved] at answered
      · simp [set, shown] at answered
  cases action with
  | select key =>
    refine Catalog.refuses_select_iff.mpr ?_
    cases resolved : page.catalog.resolve key with
    | error refused => simpa [perform, select, resolved] using answered
    | ok descriptor => simp [perform, select, resolved] at answered
  | selectSlug raw =>
    refine Catalog.refuses_selectSlug_iff.mpr ?_
    cases named : page.catalog.resolveSlug raw with
    | error refused => simpa [perform, selectSlug, named] using answered
    | ok descriptor =>
      have resolved := Catalog.resolve_of_resolveSlug named
      simp [perform, selectSlug, named, select, resolved] at answered
  | setFilter key filter value => exact unset answered
  | setFilterRaw key filter raw =>
    cases read : filter.read raw with
    | error refused =>
      simp only [perform, setFilterRaw, read] at answered
      obtain rfl := Except.error.inj answered
      exact .unreadable read
    | ok value =>
      simp only [perform, setFilterRaw, read] at answered
      exact .ofValue read (unset answered)
  | _ => cases answered

/-- After any actions, a page refuses what its catalog refuses, and an action that is refused leaves the
whole page as it was: the view on show, the subscribers and what they were told, the forms, the slots,
the tables, the options, the queue, what the backend was asked to start and to cancel, and what the
embedder was asked to draw. -/
theorem refused_unchanged (scenario : ScenarioId) (catalog : Catalog) (backend : σ) (embedder : ε)
    (actions : List PageAction) :
    let page := (enter scenario catalog backend embedder).observe.run actions
    page.plain = (enter scenario catalog backend embedder).run actions ∧
      (∀ action error, (page.perform action).1 = .error error ↔ catalog.Refuses action error) ∧
      ∀ action error, (page.perform action).1 = .error error → (page.perform action).2 = page := by
  intro page
  have sound : page.Sound := run_observed_sound scenario catalog backend embedder actions
  have listed : page.catalog = catalog := by
    rw [run_catalog]
    exact (enter_alike scenario catalog backend embedder).catalog
  have refuses {action : PageAction} {error : ViewError}
      (answered : (page.perform action).1 = .error error) : catalog.Refuses action error := by
    rw [← listed]
    exact refuses_of_error sound answered
  have performed {action : PageAction} {error : ViewError} (refused : catalog.Refuses action error) :
      page.perform action = (.error error, page) := by
    rw [← listed] at refused
    exact perform_of_refuses sound refused
  refine ⟨run_plain _ actions, ?_, ?_⟩
  · intro action error
    constructor
    · exact refuses
    · intro refused
      rw [performed refused]
  · intro action error answered
    rw [performed (refuses answered)]

/-- A view is listed twice, first as a table, which is the one on show, and then as a plot, which has the
say about its filters. The fetch of the table goes on when a filter of no plot is refused. -/
theorem refused_unchanged_foreign :
    let listed := Catalog.plot .dispatchPlot "Dispatch Plot" "dispatchPlot" [.loadZone]
    let catalog : Catalog := ⟨[Catalog.table .dispatchPlot "Dispatch", listed]⟩
    let page := (enter ⟨7⟩ catalog ({ deferred := true } : ScriptedBackend) ({} : Recorder)).observe.run
      [.subscribe, .select .dispatchPlot]
    let action : PageAction := .setFilterRaw .dispatchPlot .horizon "2030"
    (page.perform action).1 = .error (.unknownFilter .dispatchPlot .horizon) ∧
      (page.perform action).2 = page ∧ page.status .dispatchPlot = .pending := by
  intro listed catalog page action
  obtain ⟨-, refuses, unchanged⟩ := refused_unchanged ⟨7⟩ catalog
    ({ deferred := true } : ScriptedBackend) ({} : Recorder) [.subscribe, .select .dispatchPlot]
  have last : catalog.plots.reverse.find? (fun plot => plot.1.key = .dispatchPlot) =
      some (listed, ⟨"dispatchPlot", [.loadZone]⟩) := by decide +kernel
  have foreign : catalog.Refuses (.setFilter .dispatchPlot .horizon (some (.text "2030")))
      (.unknownFilter .dispatchPlot .horizon) := .unknownFilter last (by decide)
  have refused := (refuses action _).mpr (.ofValue rfl foreign)
  exact ⟨refused, unchanged action _ refused, by decide +kernel⟩

end Page

end ScenarioResults
