import ScenarioResults.Proofs.Page.Action

/-!
# Two pages side by side

Two pages over different backends are taken through the same operations. What they answer and what
they do to the selection, the values of the filters and the slots depends on neither the backend nor
the options on offer. So a relation of the two backends and their queues that is kept by every fetch
that is started or cancelled is kept by every operation (`Backend.Pairs`).
-/

namespace ScenarioResults

variable {σ τ ε : Type}

/-- A relation of two backends, each with what waits in the queue of its page. -/
abbrev Backend.Relation (σ τ : Type) := σ → List FetchEvent → τ → List FetchEvent → Prop

/-- A fetch was started on both sides, or refused on both with the same fault. -/
inductive Backend.Started (paired : Backend.Relation σ τ) (queue other : List FetchEvent) :
    Except Fault (List FetchEvent) × σ → Except Fault (List FetchEvent) × τ → Prop where
  | started {events more : List FetchEvent} {first : σ} {second : τ}
      (after : paired first (queue ++ events) second (other ++ more)) :
      Started paired queue other (.ok events, first) (.ok more, second)
  | refused {fault : Fault} {first : σ} {second : τ} (after : paired first queue second other) :
      Started paired queue other (.error fault, first) (.error fault, second)

/-- The relation is kept by every fetch that is started or cancelled on both sides. -/
structure Backend.Pairs [Backend σ] [Backend τ] (paired : Backend.Relation σ τ) : Prop where
  spawn : ∀ {first queue second other}, paired first queue second other → ∀ request,
    Backend.Started paired queue other (Backend.spawn request first)
      (Backend.spawn request second)
  cancel : ∀ {first queue second other}, paired first queue second other → ∀ ticket,
    paired (Backend.cancel ticket first).2 queue (Backend.cancel ticket second).2 other

/-- The relation does not notice that either backend is asked for options. -/
structure Backend.Apart [Backend σ] [Backend τ] (paired : Backend.Relation σ τ) : Prop where
  first : ∀ {first queue second other}, paired first queue second other → ∀ scenario,
    paired (Backend.options scenario first).2 queue second other
  second : ∀ {first queue second other}, paired first queue second other → ∀ scenario,
    paired first queue (Backend.options scenario second).2 other

/-- Whether a filter can be set does not depend on the options on offer. -/
theorem ParameterForms.setFilter_options (forms : ParameterForms)
    (options : Option ResultsOptions) (key : ViewKey) (filter : Filter)
    (value : Option FilterValue) :
    ({ forms with options } : ParameterForms).setFilter key filter value =
      (forms.setFilter key filter value).map fun next => { next with options } := by
  unfold setFilter
  have same : ({ forms with options } : ParameterForms).form key = forms.form key := rfl
  rw [same]
  cases forms.form key with
  | error error => rfl
  | ok form =>
    simp only [bind, Except.bind]
    cases form.set filter value <;> rfl

namespace Page

/-- Two pages that differ at most in the options on offer, their backends and their queues. -/
structure Paired (paired : Backend.Relation σ τ) (page : Page σ ε) (twin : Page τ ε) : Prop where
  scenario : twin.scenario = page.scenario
  catalog : twin.catalog = page.catalog
  selection : twin.selection = page.selection
  forms : ∃ options, twin.forms = { page.forms with options }
  coordinator : twin.coordinator = page.coordinator
  embedder : twin.embedder = page.embedder
  backends : paired page.backend page.queue twin.backend twin.queue

/-- An operation has the same answer on both pages and leaves them side by side. -/
structure Agree {α : Type} (paired : Backend.Relation σ τ) (result : α × Page σ ε)
    (other : α × Page τ ε) : Prop where
  answer : other.1 = result.1
  paired : Paired paired result.2 other.2

variable {paired : Backend.Relation σ τ} {page : Page σ ε} {twin : Page τ ε}

theorem Agree.map {α β : Type} {result : α × Page σ ε} {other : α × Page τ ε}
    (agree : Agree paired result other) (tell : α → β) :
    Agree paired (result.map tell id) (other.map tell id) :=
  ⟨congrArg tell agree.answer, agree.paired⟩

theorem Paired.formFor (pair : Paired paired page twin) (descriptor : ViewDescriptor) :
    twin.formFor descriptor = page.formFor descriptor := by
  obtain ⟨options, same⟩ := pair.forms
  unfold Page.formFor
  rw [same]
  rfl

theorem Paired.selected (pair : Paired paired page twin) (selection : Selection) :
    Paired paired { page with selection } { twin with selection } :=
  ⟨pair.scenario, pair.catalog, rfl, pair.forms, pair.coordinator, pair.embedder, pair.backends⟩

theorem Paired.cleared (pair : Paired paired page twin) :
    Paired paired { page with forms := page.forms.clearValues }
      { twin with forms := twin.forms.clearValues } := by
  obtain ⟨options, same⟩ := pair.forms
  refine ⟨pair.scenario, pair.catalog, pair.selection, ⟨options, ?_⟩, pair.coordinator,
    pair.embedder, pair.backends⟩
  exact congrArg ParameterForms.clearValues same

section

variable [Backend σ] [Backend τ]

theorem Paired.release (pair : Paired paired page twin) (pairs : Backend.Pairs paired)
    (key : ViewKey) : Paired paired (page.release key) (twin.release key) := by
  unfold Page.release
  rw [pair.coordinator]
  rcases page.coordinator.abandon key with ⟨none | ticket, coordinator⟩
  · exact ⟨pair.scenario, pair.catalog, pair.selection, pair.forms, rfl, pair.embedder,
      pair.backends⟩
  · exact ⟨pair.scenario, pair.catalog, pair.selection, pair.forms, rfl, pair.embedder,
      pairs.cancel pair.backends ticket⟩

theorem Paired.activate (pair : Paired paired page twin) (pairs : Backend.Pairs paired)
    (descriptor : ViewDescriptor) :
    Agree paired (page.activate descriptor) (twin.activate descriptor) := by
  have plan : twin.coordinator.plan descriptor twin.scenario (twin.formFor descriptor) =
      page.coordinator.plan descriptor page.scenario (page.formFor descriptor) := by
    rw [pair.formFor, pair.coordinator, pair.scenario]
  unfold Page.activate
  rw [plan]
  rcases page.coordinator.plan descriptor page.scenario (page.formFor descriptor) with
    ⟨error | request, coordinator⟩
  · exact ⟨rfl, pair.scenario, pair.catalog, pair.selection, pair.forms, rfl, pair.embedder,
      pair.backends⟩
  · have spawned := pairs.spawn pair.backends request
    dsimp only
    generalize Backend.spawn request page.backend = answer at spawned
    generalize Backend.spawn request twin.backend = other at spawned
    cases spawned with
    | started after =>
      exact ⟨rfl, pair.scenario, pair.catalog, pair.selection, pair.forms, rfl, pair.embedder, after⟩
    | refused after =>
      exact ⟨rfl, pair.scenario, pair.catalog, pair.selection, pair.forms, rfl, pair.embedder, after⟩

theorem Paired.restart (pair : Paired paired page twin) (pairs : Backend.Pairs paired)
    (descriptor : ViewDescriptor) (key : ViewKey) :
    Agree paired (page.restart descriptor key) (twin.restart descriptor key) :=
  (pair.release pairs key).activate pairs descriptor

theorem Paired.turnTo (pair : Paired paired page twin) (pairs : Backend.Pairs paired)
    (key : ViewKey) : Paired paired (page.turnTo key) (twin.turnTo key) := by
  unfold Page.turnTo
  rw [pair.selection]
  cases page.selection.current with
  | none => exact pair.selected _
  | some previous => exact (pair.selected _).release pairs previous

theorem Paired.select (pair : Paired paired page twin) (pairs : Backend.Pairs paired)
    (key : ViewKey) : Agree paired (page.select key) (twin.select key) := by
  unfold Page.select
  rw [pair.catalog]
  cases page.catalog.resolve key with
  | error error => exact ⟨rfl, pair⟩
  | ok descriptor =>
    have started := (pair.turnTo pairs key).activate pairs descriptor
    exact started.map fun events =>
      (Except.ok (.selectionChanged key :: events) : Except ViewError (List PageEvent))

theorem Paired.selectSlug (pair : Paired paired page twin) (pairs : Backend.Pairs paired)
    (raw : String) : Agree paired (page.selectSlug raw) (twin.selectSlug raw) := by
  unfold Page.selectSlug
  rw [pair.catalog]
  cases page.catalog.resolveSlug raw with
  | error error => exact ⟨rfl, pair⟩
  | ok descriptor => exact pair.select pairs descriptor.key

theorem Paired.setFilter (pair : Paired paired page twin) (pairs : Backend.Pairs paired)
    (key : ViewKey) (filter : Filter) (value : Option FilterValue) :
    Agree paired (page.setFilter key filter value) (twin.setFilter key filter value) := by
  obtain ⟨options, same⟩ := pair.forms
  have set : twin.forms.setFilter key filter value =
      (page.forms.setFilter key filter value).map fun next => { next with options } := by
    rw [same]
    exact page.forms.setFilter_options options key filter value
  unfold Page.setFilter
  rw [set]
  cases page.forms.setFilter key filter value with
  | error error => exact ⟨rfl, pair⟩
  | ok forms =>
    have given : Paired paired { page with forms }
        { twin with forms := { forms with options } } :=
      ⟨pair.scenario, pair.catalog, pair.selection, ⟨options, rfl⟩, pair.coordinator,
        pair.embedder, pair.backends⟩
    have current : (twin.selection.current = some key) = (page.selection.current = some key) := by
      rw [pair.selection]
    have listed : twin.catalog.resolve key = page.catalog.resolve key := by rw [pair.catalog]
    simp only [Except.map, current, listed]
    by_cases shown : page.selection.current = some key
    · simp only [shown, if_true]
      cases page.catalog.resolve key with
      | error error => exact ⟨rfl, given⟩
      | ok descriptor =>
        have started := given.restart pairs descriptor key
        exact started.map fun events =>
          (Except.ok (.filterChanged key filter :: events) : Except ViewError (List PageEvent))
    · simp only [shown, if_false]
      exact ⟨rfl, given⟩

theorem Paired.setFilterRaw (pair : Paired paired page twin) (pairs : Backend.Pairs paired)
    (key : ViewKey) (filter : Filter) (raw : String) :
    Agree paired (page.setFilterRaw key filter raw) (twin.setFilterRaw key filter raw) := by
  unfold Page.setFilterRaw
  cases filter.read raw with
  | error error => exact ⟨rfl, pair⟩
  | ok value => exact pair.setFilter pairs key filter value

theorem Paired.refresh (pair : Paired paired page twin) (pairs : Backend.Pairs paired) :
    Agree paired page.refresh twin.refresh := by
  unfold Page.refresh
  rw [pair.selection, pair.catalog]
  cases page.selection.current with
  | none => exact ⟨rfl, pair⟩
  | some key =>
    dsimp only
    cases page.catalog.resolve key with
    | error error => exact ⟨rfl, pair⟩
    | ok descriptor => exact pair.restart pairs descriptor key

theorem Paired.depart (pair : Paired paired page twin) (pairs : Backend.Pairs paired) :
    Paired paired page.depart twin.depart := by
  unfold Page.depart
  rw [pair.selection]
  cases page.selection.current with
  | none => exact (pair.selected _).cleared
  | some previous => exact ((pair.selected _).release pairs previous).cleared

/-! ### Options -/

omit [Backend τ] in
/-- What options a page gets makes no difference to anything else of it. -/
theorem loadOptions_apart (page : Page σ ε) :
    ∃ options optionsError backend, page.loadOptions.2 =
        { page with forms := { page.forms with options }, optionsError, backend } ∧
      (backend = page.backend ∨ backend = (Backend.options page.scenario page.backend).2) := by
  unfold Page.loadOptions
  by_cases known : page.forms.options.isSome
  · rw [if_pos known]
    exact ⟨page.forms.options, page.optionsError, page.backend, rfl, .inl rfl⟩
  · rw [if_neg known]
    rcases Backend.options page.scenario page.backend with ⟨fault | options, backend⟩
    · exact ⟨page.forms.options, some fault.message, backend, rfl, .inr rfl⟩
    · have unknown : page.forms.options = none := by simpa using known
      refine ⟨some options, none, backend, ?_, .inr rfl⟩
      simp [ParameterForms.takeOptions, unknown]

theorem Paired.loadOptions (pair : Paired paired page twin) (apart : Backend.Apart paired) :
    Paired paired page.loadOptions.2 twin.loadOptions.2 := by
  obtain ⟨options, error, backend, loaded, asked⟩ := page.loadOptions_apart
  obtain ⟨others, fault, other, reloaded, inquired⟩ := twin.loadOptions_apart
  obtain ⟨_, same⟩ := pair.forms
  have left : paired backend page.queue twin.backend twin.queue := by
    rcases asked with rfl | rfl
    · exact pair.backends
    · exact apart.first pair.backends _
  have both : paired backend page.queue other twin.queue := by
    rcases inquired with rfl | rfl
    · exact left
    · exact apart.second left _
  rw [loaded, reloaded]
  refine ⟨pair.scenario, pair.catalog, pair.selection, ⟨others, ?_⟩, pair.coordinator,
    pair.embedder, both⟩
  rw [same]

/-- Two pages that were entered are side by side. -/
theorem enter_paired (apart : Backend.Apart paired) {backend : σ} {other : τ}
    (start : paired backend [] other []) (scenario : ScenarioId) (catalog : Catalog)
    (embedder : ε) : Paired paired (enter scenario catalog backend embedder)
      (enter scenario catalog other embedder) := by
  have fresh : Paired paired
      ({ scenario, catalog, forms := .ofCatalog catalog, embedder, backend } : Page σ ε)
      { scenario, catalog, forms := .ofCatalog catalog, embedder, backend := other } :=
    ⟨rfl, rfl, rfl, ⟨_, rfl⟩, rfl, rfl, start⟩
  exact fresh.loadOptions apart

end

section

variable [Embedder ε]

theorem Paired.bindPlot (pair : Paired paired page twin) (key : ViewKey) (surface : Surface) :
    Agree paired (page.bindPlot key surface) (twin.bindPlot key surface) := by
  unfold Page.bindPlot
  rw [pair.coordinator, pair.embedder]
  cases page.coordinator.plot? key with
  | none =>
    exact ⟨rfl, pair.scenario, pair.catalog, pair.selection, pair.forms, rfl, rfl, pair.backends⟩
  | some plot =>
    dsimp only
    rcases Embedder.embed plot page.embedder with ⟨fault | done, embedder⟩
    · exact ⟨rfl, pair.scenario, pair.catalog, pair.selection, pair.forms, rfl, rfl, pair.backends⟩
    · exact ⟨rfl, pair.scenario, pair.catalog, pair.selection, pair.forms, rfl, rfl, pair.backends⟩

theorem Paired.applyEvent (pair : Paired paired page twin) (event : FetchEvent) (now : Instant) :
    Agree paired (page.applyEvent event now) (twin.applyEvent event now) := by
  have settled (coordinator : Coordinator) :
      Paired paired { page with coordinator } { twin with coordinator } :=
    ⟨pair.scenario, pair.catalog, pair.selection, pair.forms, rfl, pair.embedder, pair.backends⟩
  have applied : twin.coordinator.apply event twin.selection.current now =
      page.coordinator.apply event page.selection.current now := by
    rw [pair.coordinator, pair.selection]
  unfold Page.applyEvent
  rw [applied]
  rcases page.coordinator.apply event page.selection.current now with
    ⟨reason | ⟨_, _⟩ | ⟨key, surface⟩ | _ | ⟨_, _⟩, coordinator⟩
  · exact ⟨rfl, settled coordinator⟩
  · exact ⟨rfl, settled coordinator⟩
  · exact (settled coordinator).bindPlot key surface
  · exact ⟨rfl, settled coordinator⟩
  · exact ⟨rfl, settled coordinator⟩

theorem Paired.applyEvents (pair : Paired paired page twin) (now : Instant)
    (events : List FetchEvent) :
    Agree paired (Page.applyEvents now events page) (Page.applyEvents now events twin) := by
  induction events generalizing page twin with
  | nil => exact ⟨rfl, pair⟩
  | cons event rest ih =>
    have first := pair.applyEvent event now
    have others := ih first.paired
    refine ⟨?_, others.paired⟩
    simp only [Page.applyEvents, first.answer, others.answer]

end

end Page

end ScenarioResults
