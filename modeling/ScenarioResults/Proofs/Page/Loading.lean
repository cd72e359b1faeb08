import ScenarioResults.Backend.Scripted
import ScenarioResults.Embedder.Recorder
import ScenarioResults.Proofs.Page.Observed
import ScenarioResults.Proofs.Page.Parts

/-!
# Options are loaded once

A page asks for its options when it is entered, and again whenever it is told to while it has none. Of
the answers that it got it keeps the last one: the fault is told, the options are on offer. With the
options the asking is over, and what is on offer stays as it is (`options_loaded_once`).
-/

namespace ScenarioResults

/-- A backend with a record of what it answered when it was asked for options. -/
structure AskedBackend (σ : Type) where
  inner : σ
  answers : List (Except Fault ResultsOptions) := []

namespace AskedBackend

variable {σ : Type} [Backend σ]

instance : Backend (AskedBackend σ) where
  options scenario backend :=
    let (answer, inner) := Backend.options scenario backend.inner
    (answer, ⟨inner, backend.answers ++ [answer]⟩)
  table scenario key backend :=
    let (answer, inner) := Backend.table scenario key backend.inner
    (answer, { backend with inner })
  plot scenario key arguments backend :=
    let (answer, inner) := Backend.plot scenario key arguments backend.inner
    (answer, { backend with inner })
  spawn request backend :=
    let (answer, inner) := Backend.spawn request backend.inner
    (answer, { backend with inner })
  cancel ticket backend :=
    let (answer, inner) := Backend.cancel ticket backend.inner
    (answer, { backend with inner })
  arrivals backend :=
    let (events, inner) := Backend.arrivals backend.inner
    (events, { backend with inner })

theorem inner_carries : Backend.Carries (AskedBackend.inner (σ := σ)) :=
  ⟨fun _ _ => rfl, fun _ _ => rfl, fun _ _ => rfl, fun _ => rfl⟩

/-- What the backend answers if it is asked now. -/
def answer (scenario : ScenarioId) (backend : AskedBackend σ) : Except Fault ResultsOptions :=
  (Backend.options scenario backend.inner).1

/-- The backend once it was asked. -/
def asked (scenario : ScenarioId) (backend : AskedBackend σ) : AskedBackend σ :=
  ⟨(Backend.options scenario backend.inner).2, backend.answers ++ [backend.answer scenario]⟩

theorem options_eq (scenario : ScenarioId) (backend : AskedBackend σ) :
    Backend.options scenario backend = (backend.answer scenario, backend.asked scenario) := rfl

/-- What is told of an answer. -/
def told? : Except Fault ResultsOptions → Option String
  | .ok _ => none
  | .error fault => some fault.message

end AskedBackend

/-- The list of values that goes with a filter. A maximum may be any number, so none goes with it. -/
inductive ResultsOptions.Lists (options : ResultsOptions) : Filter → List String → Prop where
  | loadZone : options.Lists .loadZone options.loadZones
  | horizon : options.Lists .horizon options.horizons
  | stage : options.Lists .stage options.stages
  | yAxisMax : options.Lists .yAxisMax []

structure FilterChoice.Offers (options : ResultsOptions) (filter : Filter) (choice : FilterChoice) :
    Prop where
  which : choice.filter = filter
  label : choice.label = filter.label
  values : options.Lists filter choice.options

/-- What is on offer for a listed plot: each of its filters in order, with the list of values that
the options hold for it. -/
structure FormOffer.Offers (options : ResultsOptions) (descriptor : ViewDescriptor)
    (offer : FormOffer) : Prop where
  key : offer.key = descriptor.key
  caption : offer.caption = descriptor.caption
  choices : ∃ spec, descriptor.fetch = .plot spec ∧
    List.Forall₂ (FilterChoice.Offers options) spec.filters offer.choices

theorem ResultsOptions.lists_values (options : ResultsOptions) (filter : Filter) :
    options.Lists filter (options.values filter) := by
  cases filter with
  | loadZone => exact .loadZone
  | horizon => exact .horizon
  | stage => exact .stage
  | yAxisMax => exact .yAxisMax

theorem FilterChoice.offers_of_options (options : ResultsOptions) (filters : List Filter) :
    List.Forall₂ (FilterChoice.Offers options) filters
      (filters.map fun filter => ⟨filter, filter.label, options.values filter⟩) := by
  rw [List.forall₂_map_right_iff, List.forall₂_same]
  intro filter _
  exact ⟨rfl, rfl, options.lists_values filter⟩

theorem ParameterForms.offers_of_options {forms : ParameterForms} {options : ResultsOptions}
    (known : forms.options = some options) (catalog : Catalog) :
    List.Forall₂ (FormOffer.Offers options)
      (catalog.views.filter fun descriptor => descriptor.kind = .plot) (forms.offers catalog) := by
  simp only [offers, known, Catalog.plots]
  induction catalog.views with
  | nil => exact .nil
  | cons descriptor rest ih =>
    cases fetched : descriptor.fetch with
    | table =>
      have kind : descriptor.kind = .table := by simp [ViewDescriptor.kind, fetched]
      have plot : descriptor.plotSpec? = none := by simp [ViewDescriptor.plotSpec?, fetched]
      simpa [kind, plot] using ih
    | plot spec =>
      have kind : descriptor.kind = .plot := by simp [ViewDescriptor.kind, fetched]
      have plot : descriptor.plotSpec? = some spec := by simp [ViewDescriptor.plotSpec?, fetched]
      simp only [List.filter_cons, kind, decide_true, if_true, List.filterMap_cons, plot,
        Option.map_some, List.map_cons]
      have choices := FilterChoice.offers_of_options options spec.filters
      exact .cons ⟨rfl, rfl, spec, fetched, choices⟩ ih

namespace Page

variable {σ ε : Type}

/-- No options were asked for, and those that are known stay, as does the fault that is told. -/
structure Unasked (page next : Page (AskedBackend σ) ε) : Prop where
  answers : next.backend.answers = page.backend.answers
  options : next.forms.options = page.forms.options
  told : next.optionsError = page.optionsError

theorem Unasked.trans {page next last : Page (AskedBackend σ) ε} (first : page.Unasked next)
    (second : next.Unasked last) : page.Unasked last :=
  ⟨second.answers.trans first.answers, second.options.trans first.options,
    second.told.trans first.told⟩

section

variable [Backend σ]

theorem release_unasked (page : Page (AskedBackend σ) ε) (key : ViewKey) :
    page.Unasked (page.release key) := by
  rw [release_eq]
  refine ⟨?_, rfl, rfl⟩
  dsimp only
  split <;> rfl

theorem letGo_unasked (page : Page (AskedBackend σ) ε) : page.Unasked page.letGo := by
  unfold letGo
  split
  · exact page.release_unasked _
  · exact ⟨rfl, rfl, rfl⟩

theorem activate_unasked (page : Page (AskedBackend σ) ε) (descriptor : ViewDescriptor) :
    page.Unasked (page.activate descriptor).2 := by
  have spawned (request : FetchRequest) :
      (Backend.spawn request page.backend).2.answers = page.backend.answers := rfl
  unfold activate
  split
  · exact ⟨rfl, rfl, rfl⟩
  next request coordinator planned =>
    have answers := spawned request
    split
    next started =>
      rw [started] at answers
      exact ⟨answers, rfl, rfl⟩
    next refused =>
      rw [refused] at answers
      exact ⟨answers, rfl, rfl⟩

theorem select_unasked (page : Page (AskedBackend σ) ε) (key : ViewKey) :
    page.Unasked (page.select key).2 := by
  unfold select
  split
  · exact ⟨rfl, rfl, rfl⟩
  · refine Unasked.trans ?_ (activate_unasked _ _)
    have released := page.letGo_unasked
    rw [turnTo_eq]
    exact ⟨released.answers, released.options, released.told⟩

theorem restart_unasked (page : Page (AskedBackend σ) ε) (descriptor : ViewDescriptor)
    (key : ViewKey) : page.Unasked (page.restart descriptor key).2 :=
  (page.release_unasked key).trans (activate_unasked _ descriptor)

theorem setFilter_unasked (page : Page (AskedBackend σ) ε) (key : ViewKey) (filter : Filter)
    (value : Option FilterValue) : page.Unasked (page.setFilter key filter value).2 := by
  unfold setFilter
  split
  · exact ⟨rfl, rfl, rfl⟩
  next forms set =>
    have options : forms.options = page.forms.options := by
      obtain ⟨_, _, _, rfl⟩ := ParameterForms.exists_of_setFilter set
      rfl
    have filled : page.Unasked { page with forms } := ⟨rfl, options, rfl⟩
    dsimp only
    split
    · split
      · exact filled
      · exact filled.trans (restart_unasked _ _ _)
    · exact filled

theorem refresh_unasked (page : Page (AskedBackend σ) ε) : page.Unasked page.refresh.2 := by
  unfold refresh
  split
  · exact ⟨rfl, rfl, rfl⟩
  · split
    · exact ⟨rfl, rfl, rfl⟩
    · exact restart_unasked _ _ _

variable [Embedder ε]

omit [Backend σ] in
theorem process_unasked (page : Page (AskedBackend σ) ε) (now : Instant) :
    page.Unasked (page.process now).2 := by
  have told (found : Page (AskedBackend σ) ε) (event : FetchEvent)
      (same : found.optionsError = page.optionsError) :
      (found.applyEvent event now).2.optionsError = page.optionsError := by
    unfold applyEvent bindPlot
    repeat' split
    all_goals exact same
  have start : ({ page with queue := [] } : Page (AskedBackend σ) ε).optionsError =
      page.optionsError := rfl
  have kept := page.process_kept now
  exact ⟨congrArg AskedBackend.answers kept.backend, congrArg ParameterForms.options kept.forms,
    applyEvents_keeps told start page.queue⟩

/-- No action but one asks for options. -/
theorem perform_unasked (page : Page (AskedBackend σ) ε) {action : PageAction}
    (other : action ≠ .loadOptions) : page.Unasked (page.perform action).2 := by
  cases action with
  | select key => exact page.select_unasked key
  | selectSlug raw =>
    simp only [perform, selectSlug]
    split
    · exact ⟨rfl, rfl, rfl⟩
    · exact page.select_unasked _
  | setFilter key filter value => exact page.setFilter_unasked key filter value
  | setFilterRaw key filter raw =>
    simp only [perform, setFilterRaw]
    split
    · exact ⟨rfl, rfl, rfl⟩
    · exact page.setFilter_unasked key filter _
  | refresh => exact page.refresh_unasked
  | process now => exact page.process_unasked now
  | wait now =>
    have gathered : page.Unasked page.gather := ⟨rfl, rfl, rfl⟩
    exact gathered.trans (page.gather.process_unasked now)
  | leave now =>
    refine Unasked.trans ?_ (page.depart.process_unasked now)
    have released := page.letGo_unasked
    rw [depart_eq]
    exact ⟨released.answers, rfl, released.told⟩
  | loadOptions => exact (other rfl).elim
  | subscribe => exact ⟨rfl, rfl, rfl⟩
  | unsubscribe id => exact ⟨rfl, rfl, rfl⟩
  | deliver events => exact ⟨rfl, rfl, rfl⟩

end

/-! ### Asking -/

/-- What a page has made of the answers it got: they were all faults and the last one is told, or the
last one was the options and these are on offer. -/
inductive Asked (page : Page (AskedBackend σ) ε) : Prop where
  | refused (faults : List Fault) (last : Fault)
      (answers : page.backend.answers = (faults ++ [last]).map .error)
      (options : page.forms.options = none) (told : page.optionsError = some last.message)
  | given (faults : List Fault) (options : ResultsOptions)
      (answers : page.backend.answers = faults.map .error ++ [.ok options])
      (known : page.forms.options = some options) (untold : page.optionsError = none)

theorem Asked.of_unasked {page next : Page (AskedBackend σ) ε} (asked : page.Asked)
    (unasked : page.Unasked next) : next.Asked := by
  cases asked with
  | refused faults last answers options told =>
    exact .refused faults last (unasked.answers.trans answers) (unasked.options.trans options)
      (unasked.told.trans told)
  | given faults options answers known untold =>
    exact .given faults options (unasked.answers.trans answers) (unasked.options.trans known)
      (unasked.told.trans untold)

theorem Asked.exclusive {page : Page (AskedBackend σ) ε} (asked : page.Asked) :
    page.forms.options.isSome ↔ page.optionsError = none := by
  cases asked with
  | refused _ _ _ options told => simp [options, told]
  | given _ _ _ known untold => simp [known, untold]

section

variable [Backend σ] {page : Page (AskedBackend σ) ε}

theorem loadOptions_of_known {options : ResultsOptions} (known : page.forms.options = some options) :
    page.loadOptions = (true, page) := by
  simp [loadOptions, known]

/-- A page without options asks once, and makes of the answer what there is to be made of it. -/
theorem loadOptions_of_unknown (unknown : page.forms.options = none) :
    page.loadOptions = ((page.backend.answer page.scenario).isOk, { page with
      backend := page.backend.asked page.scenario
      forms := { page.forms with options := (page.backend.answer page.scenario).toOption }
      optionsError := AskedBackend.told? (page.backend.answer page.scenario) }) := by
  simp only [loadOptions, unknown, Option.isSome_none, AskedBackend.options_eq]
  generalize page.backend.answer page.scenario = answer
  cases answer with
  | error fault => simp [Except.toOption, AskedBackend.told?, Except.isOk, Except.toBool, ← unknown]
  | ok options =>
    simp [ParameterForms.takeOptions, unknown, Except.toOption, AskedBackend.told?, Except.isOk,
      Except.toBool]

/-- Whatever was made of the faults before, one more answer is made the same of. -/
theorem asked_of_unknown {faults : List Fault}
    (answers : page.backend.answers = faults.map .error) (unknown : page.forms.options = none) :
    page.loadOptions.2.Asked := by
  have recorded : (page.backend.asked page.scenario).answers =
      faults.map .error ++ [page.backend.answer page.scenario] := by
    rw [AskedBackend.asked, answers]
  rw [loadOptions_of_unknown unknown]
  cases answer : page.backend.answer page.scenario with
  | error fault => exact .refused faults fault (by simp [recorded, answer]) rfl rfl
  | ok options => exact .given faults options (by rw [recorded, answer]) rfl rfl

theorem Asked.loadOptions (asked : page.Asked) : page.loadOptions.2.Asked := by
  cases asked with
  | refused faults last answers options _ => exact asked_of_unknown answers options
  | given faults options answers known untold =>
    rw [loadOptions_of_known known]
    exact .given faults options answers known untold

theorem enter_asked (scenario : ScenarioId) (catalog : Catalog) (backend : σ) (embedder : ε) :
    (enter scenario catalog ({ inner := backend } : AskedBackend σ) embedder).Asked := by
  have unanswered : ({ inner := backend } : AskedBackend σ).answers =
      ([] : List Fault).map .error := rfl
  exact asked_of_unknown unanswered rfl

variable [Embedder ε]

theorem Asked.perform (asked : page.Asked) (action : PageAction) :
    (page.perform action).2.Asked := by
  by_cases load : action = .loadOptions
  · subst load
    exact asked.loadOptions
  · exact asked.of_unasked (page.perform_unasked load)

theorem Asked.run (asked : page.Asked) (actions : List PageAction) : (page.run actions).Asked := by
  have step (found : Page (AskedBackend σ) ε) (action : PageAction) (before : found.Asked) :
      (found.perform action).2.Asked := before.perform action
  exact run_keeps step asked actions

/-- A page with options asks for none, whatever it does. -/
theorem run_unasked {options : ResultsOptions} (known : page.forms.options = some options)
    (actions : List PageAction) : page.Unasked (page.run actions) := by
  -- What is kept is that the page is as it was before the run, so that it still has its options.
  have step (found : Page (AskedBackend σ) ε) (action : PageAction)
      (unasked : page.Unasked found) : page.Unasked (found.perform action).2 := by
    by_cases load : action = .loadOptions
    · subst load
      have same := loadOptions_of_known (unasked.options.trans known)
      simp only [Page.perform, same]
      exact unasked
    · exact unasked.trans (found.perform_unasked load)
  exact run_keeps step ⟨rfl, rfl, rfl⟩ actions

end

/-- A page that has its options: they are what it was answered after nothing but faults, it does not
ask again, and of them one form is on offer for each plot of the catalog, in order. -/
structure Loaded [Backend σ] (page : Page (AskedBackend σ) ε) (options : ResultsOptions) :
    Prop where
  answered : ∃ faults : List Fault, page.backend.answers = faults.map .error ++ [.ok options]
  known : page.forms.options = some options
  untold : page.optionsError = none
  reload : page.loadOptions = (true, page)
  offers : List.Forall₂ (FormOffer.Offers options)
    (page.catalog.views.filter fun descriptor => descriptor.kind = .plot) page.offers

theorem Asked.loaded [Backend σ] {page : Page (AskedBackend σ) ε} {options : ResultsOptions}
    (asked : page.Asked) (known : page.forms.options = some options) : page.Loaded options := by
  cases asked with
  | refused _ _ _ unknown => simp [unknown] at known
  | given faults given answers held untold =>
    obtain rfl : given = options := Option.some.inj (held.symm.trans known)
    exact ⟨⟨faults, answers⟩, known, untold, loadOptions_of_known known,
      ParameterForms.offers_of_options known _⟩

variable [Backend σ] [Embedder ε]

/-- Whatever a page was taken through, it has options or it tells the last fault, and not both. While it
has none there is nothing on offer, and each time it is told to it asks once. Once it has them it does
not ask again, and they stay, with what is on offer of them. -/
theorem options_loaded_once (scenario : ScenarioId) (catalog : Catalog) (backend : σ) (embedder : ε)
    (actions : List PageAction) :
    let page :=
      (enter scenario catalog ({ inner := backend } : AskedBackend σ) embedder).run actions
    page.carry AskedBackend.inner id = (enter scenario catalog backend embedder).run actions ∧
      page.catalog = catalog ∧ page.Asked ∧
      (page.forms.options.isSome ↔ page.optionsError = none) ∧
      (∀ action, action ≠ .loadOptions → page.Unasked (page.perform action).2) ∧
      (page.forms.options = none → page.offers = [] ∧
        let (answer, next) := page.loadOptions
        answer = (page.backend.answer scenario).isOk ∧
          next.backend.answers = page.backend.answers ++ [page.backend.answer scenario] ∧
          next.forms.options = (page.backend.answer scenario).toOption ∧
          next.optionsError = AskedBackend.told? (page.backend.answer scenario)) ∧
      ∀ options, page.forms.options = some options → page.Loaded options ∧
        ∀ more, (page.run more).Loaded options ∧
          (page.run more).backend.answers = page.backend.answers ∧
          (page.run more).offers = page.offers := by
  intro page
  have asked : page.Asked :=
    Asked.run (enter_asked scenario catalog backend embedder) actions
  have alike := enter_alike scenario catalog ({ inner := backend } : AskedBackend σ) embedder
  have listed : page.catalog = catalog := (run_catalog _ actions).trans alike.catalog
  have named : page.scenario = scenario := (run_scenario _ actions).trans alike.scenario
  refine ⟨?_, listed, asked, asked.exclusive, fun _ other => page.perform_unasked other, ?_, ?_⟩
  · have entered : (enter scenario catalog ({ inner := backend } : AskedBackend σ) embedder).carry
        AskedBackend.inner id = enter scenario catalog backend embedder :=
      (congrArg Prod.snd (carry_loadOptions AskedBackend.inner_carries id
        { scenario, catalog, forms := .ofCatalog catalog, embedder,
          backend := { inner := backend } })).symm
    rw [← entered]
    exact (carry_run AskedBackend.inner_carries (fun _ _ => rfl) _ actions).symm
  · intro unknown
    have loaded := loadOptions_of_unknown unknown
    rw [named] at loaded
    rw [loaded]
    refine ⟨?_, rfl, rfl, rfl, rfl⟩
    simp [offers, ParameterForms.offers, unknown]
  · intro options known
    refine ⟨asked.loaded known, ?_⟩
    intro more
    have unasked := run_unasked known more
    refine ⟨(asked.run more).loaded (unasked.options.trans known), unasked.answers, ?_⟩
    simp only [offers, ParameterForms.offers, unasked.options, run_catalog]

/-- The first answer is a fault and the second one is taken: each filter is on offer with its own list
of it. A third one is never asked for. -/
theorem options_loaded_once_retried :
    let known : ResultsOptions :=
      { loadZones := ["North"], horizons := ["day"], stages := ["final"] }
    let backend : ScriptedBackend := { offered := [.error (.of "down"), .ok known, .ok {}] }
    let entered := enter ⟨7⟩ .standard ({ inner := backend } : AskedBackend ScriptedBackend)
      ({} : Recorder)
    let page := entered.run [.select .dispatchPlot, .loadOptions]
    let later := page.run [.leave ⟨0⟩, .loadOptions]
    entered.optionsError = some "down" ∧ entered.offers = [] ∧ page.optionsError = none ∧
      later.offers = page.offers ∧
      later.offers.map (fun offer => offer.choices.map FilterChoice.options) =
        [[["North"], ["day"], []], [["North"], []], [["North"], []], [["North"], []],
          [["North"], ["final"], []], [["North"], ["final"], []], [["North"], ["final"], []]] ∧
      later.backend.answers = [.error (.of "down"), .ok known] := by
  intro known backend entered page later
  have taken : page.forms.options = some known := by decide +kernel
  have once := options_loaded_once ⟨7⟩ .standard backend ({} : Recorder)
    [.select .dispatchPlot, .loadOptions]
  obtain ⟨-, -, -, -, -, -, onceKnown⟩ := once
  obtain ⟨loaded, after⟩ := onceKnown known taken
  obtain ⟨-, answers, offers⟩ := after [.leave ⟨0⟩, .loadOptions]
  refine ⟨by decide +kernel, by decide +kernel, loaded.untold, offers, by decide +kernel, ?_⟩
  rw [answers]
  rfl

end Page

end ScenarioResults
