import ScenarioResults.Proofs.Page.Course

/-!
# Pages over a backend and an embedder that are observed

A backend and an embedder can be wrapped so that they keep a record of what they are asked. The page
over them answers as it did before and differs in nothing but the record (`run_plain`), so whatever
is proved of the record is proved of every backend and every embedder.
-/

namespace ScenarioResults

/-- A fetch that a backend was asked to start or to cancel, and whether it did. -/
inductive FetchCall where
  | spawn (request : FetchRequest) (started : Bool)
  | cancel (ticket : Ticket) (done : Bool)

namespace FetchCall

def spawned? : FetchCall → Option Ticket
  | .spawn request _ => some request.ticket
  | .cancel _ _ => none

def refused? : FetchCall → Option Ticket
  | .spawn request false => some request.ticket
  | _ => none

/-- The ticket of a fetch to be cancelled, whether or not that succeeded. -/
def cancelled? : FetchCall → Option Ticket
  | .spawn _ _ => none
  | .cancel ticket _ => some ticket

end FetchCall

/-- A backend with a record of the fetches it was asked to start and to cancel. -/
structure ObservedBackend (σ : Type) where
  inner : σ
  calls : List FetchCall := []

namespace ObservedBackend

variable {σ : Type}

def spawned (backend : ObservedBackend σ) : List Ticket :=
  backend.calls.filterMap FetchCall.spawned?

def refused (backend : ObservedBackend σ) : List Ticket :=
  backend.calls.filterMap FetchCall.refused?

def cancelled (backend : ObservedBackend σ) : List Ticket :=
  backend.calls.filterMap FetchCall.cancelled?

instance [Backend σ] : Backend (ObservedBackend σ) where
  options scenario backend :=
    let (answer, inner) := Backend.options scenario backend.inner
    (answer, { backend with inner })
  table scenario key backend :=
    let (answer, inner) := Backend.table scenario key backend.inner
    (answer, { backend with inner })
  plot scenario key arguments backend :=
    let (answer, inner) := Backend.plot scenario key arguments backend.inner
    (answer, { backend with inner })
  spawn request backend :=
    let (answer, inner) := Backend.spawn request backend.inner
    (answer, ⟨inner, backend.calls ++ [.spawn request answer.isOk]⟩)
  cancel ticket backend :=
    let (answer, inner) := Backend.cancel ticket backend.inner
    (answer, ⟨inner, backend.calls ++ [.cancel ticket answer.isOk]⟩)
  arrivals backend :=
    let (events, inner) := Backend.arrivals backend.inner
    (events, { backend with inner })

section

variable {backend next : ObservedBackend σ}

theorem spawned_of_spawn {request : FetchRequest} {started : Bool}
    (calls : next.calls = backend.calls ++ [.spawn request started]) :
    next.spawned = backend.spawned ++ [request.ticket] := by
  simp [spawned, calls, FetchCall.spawned?]

theorem cancelled_of_spawn {request : FetchRequest} {started : Bool}
    (calls : next.calls = backend.calls ++ [.spawn request started]) :
    next.cancelled = backend.cancelled := by
  simp [cancelled, calls, FetchCall.cancelled?]

theorem refused_of_spawn {request : FetchRequest} {started : Bool}
    (calls : next.calls = backend.calls ++ [.spawn request started]) :
    next.refused = backend.refused ++ if started then [] else [request.ticket] := by
  cases started <;> simp [refused, calls, FetchCall.refused?]

theorem spawned_of_cancel {ticket : Ticket} {done : Bool}
    (calls : next.calls = backend.calls ++ [.cancel ticket done]) :
    next.spawned = backend.spawned := by
  simp [spawned, calls, FetchCall.spawned?]

theorem cancelled_of_cancel {ticket : Ticket} {done : Bool}
    (calls : next.calls = backend.calls ++ [.cancel ticket done]) :
    next.cancelled = backend.cancelled ++ [ticket] := by
  simp [cancelled, calls, FetchCall.cancelled?]

theorem refused_of_cancel {ticket : Ticket} {done : Bool}
    (calls : next.calls = backend.calls ++ [.cancel ticket done]) :
    next.refused = backend.refused := by
  simp [refused, calls, FetchCall.refused?]

end

variable [Backend σ]

theorem calls_of_started {request : FetchRequest} {backend next : ObservedBackend σ}
    {events : List FetchEvent} (started : Backend.spawn request backend = (.ok events, next)) :
    next.calls = backend.calls ++ [.spawn request true] := by
  have recorded : (Backend.spawn request backend).2.calls =
      backend.calls ++ [.spawn request (Backend.spawn request backend).1.isOk] := rfl
  rw [started] at recorded
  exact recorded

theorem calls_of_refused {request : FetchRequest} {backend next : ObservedBackend σ}
    {fault : Fault} (refused : Backend.spawn request backend = (.error fault, next)) :
    next.calls = backend.calls ++ [.spawn request false] := by
  have recorded : (Backend.spawn request backend).2.calls =
      backend.calls ++ [.spawn request (Backend.spawn request backend).1.isOk] := rfl
  rw [refused] at recorded
  exact recorded

theorem calls_of_quiet {backend next : ObservedBackend σ} (quiet : Backend.Quiet backend next) :
    next.calls = backend.calls := by
  cases quiet <;> rfl

end ObservedBackend

/-- An embedder with a record of the plots it was asked to draw. -/
structure ObservedEmbedder (ε : Type) where
  inner : ε
  drawn : List PlotResult := []

instance {ε : Type} [Embedder ε] : Embedder (ObservedEmbedder ε) where
  embed plot embedder :=
    let (answer, inner) := Embedder.embed plot embedder.inner
    (answer, ⟨inner, embedder.drawn ++ [plot]⟩)

/-- A map of the states of one backend to those of another that leaves every answer as it is. -/
structure Backend.Carries {σ τ : Type} [Backend σ] [Backend τ] (carry : σ → τ) : Prop where
  options : ∀ scenario state,
    Backend.options scenario (carry state) = (Backend.options scenario state).map id carry
  spawn : ∀ request state,
    Backend.spawn request (carry state) = (Backend.spawn request state).map id carry
  cancel : ∀ ticket state,
    Backend.cancel ticket (carry state) = (Backend.cancel ticket state).map id carry
  arrivals : ∀ state, Backend.arrivals (carry state) = (Backend.arrivals state).map id carry

/-- A map of the states of one embedder to those of another that leaves every answer as it is. -/
def Embedder.Carries {ε δ : Type} [Embedder ε] [Embedder δ] (carry : ε → δ) : Prop :=
  ∀ plot state, Embedder.embed plot (carry state) = (Embedder.embed plot state).map id carry

theorem ObservedBackend.inner_carries {σ : Type} [Backend σ] :
    Backend.Carries (ObservedBackend.inner (σ := σ)) :=
  ⟨fun _ _ => rfl, fun _ _ => rfl, fun _ _ => rfl, fun _ => rfl⟩

theorem ObservedEmbedder.inner_carries {ε : Type} [Embedder ε] :
    Embedder.Carries (ObservedEmbedder.inner (ε := ε)) := fun _ _ => rfl

namespace Page

variable {σ τ ε δ : Type}

/-! ### Pages carried to another backend and another embedder -/

def carry (backend : σ → τ) (embedder : ε → δ) (page : Page σ ε) : Page τ δ :=
  { page with backend := backend page.backend, embedder := embedder page.embedder }

section

variable (toBackend : σ → τ) (toEmbedder : ε → δ) (page : Page σ ε)

theorem carry_catalog : (page.carry toBackend toEmbedder).catalog = page.catalog := rfl

theorem carry_selection : (page.carry toBackend toEmbedder).selection = page.selection := rfl

theorem carry_forms : (page.carry toBackend toEmbedder).forms = page.forms := rfl

theorem carry_backend :
    (page.carry toBackend toEmbedder).backend = toBackend page.backend := rfl

theorem carry_planned (descriptor : ViewDescriptor) :
    (page.carry toBackend toEmbedder).coordinator.plan descriptor
        (page.carry toBackend toEmbedder).scenario
        ((page.carry toBackend toEmbedder).formFor descriptor) =
      page.coordinator.plan descriptor page.scenario (page.formFor descriptor) := rfl

end

section

variable [Backend σ] [Backend τ] {toBackend : σ → τ} (carries : Backend.Carries toBackend)
  (toEmbedder : ε → δ) (page : Page σ ε)

include carries

theorem carry_loadOptions : (page.carry toBackend toEmbedder).loadOptions =
    page.loadOptions.map id (carry toBackend toEmbedder) := by
  unfold loadOptions
  by_cases known : page.forms.options.isSome
  · simp [carry_forms, known]
  · simp only [carry, known, carries.options]
    rcases Backend.options page.scenario page.backend with ⟨fault | options, backend⟩ <;> rfl

theorem carry_release (key : ViewKey) : (page.carry toBackend toEmbedder).release key =
    (page.release key).carry toBackend toEmbedder := by
  unfold release
  simp only [carry, carries.cancel]
  rcases page.coordinator.abandon key with ⟨none | ticket, coordinator⟩ <;> rfl

theorem carry_activate (descriptor : ViewDescriptor) :
    (page.carry toBackend toEmbedder).activate descriptor =
      (page.activate descriptor).map id (carry toBackend toEmbedder) := by
  unfold activate
  simp only [carry_planned, carry_backend, carries.spawn]
  rcases page.coordinator.plan descriptor page.scenario (page.formFor descriptor) with
    ⟨error | request, coordinator⟩
  · rfl
  · dsimp only
    rcases Backend.spawn request page.backend with ⟨fault | events, backend⟩ <;> rfl

theorem carry_turnTo (key : ViewKey) : (page.carry toBackend toEmbedder).turnTo key =
    (page.turnTo key).carry toBackend toEmbedder := by
  unfold turnTo
  rw [carry_selection]
  cases page.selection.current with
  | none => rfl
  | some previous =>
    exact carry_release carries toEmbedder
      { page with selection := page.selection.setActive key } previous

theorem carry_select (key : ViewKey) : (page.carry toBackend toEmbedder).select key =
    (page.select key).map id (carry toBackend toEmbedder) := by
  unfold select
  rw [carry_catalog]
  cases page.catalog.resolve key with
  | error error => rfl
  | ok descriptor =>
    simp only [carry_turnTo carries, carry_activate carries]
    rfl

theorem carry_selectSlug (raw : String) : (page.carry toBackend toEmbedder).selectSlug raw =
    (page.selectSlug raw).map id (carry toBackend toEmbedder) := by
  unfold selectSlug
  rw [carry_catalog]
  cases page.catalog.resolveSlug raw with
  | error error => rfl
  | ok descriptor => exact carry_select carries toEmbedder page descriptor.key

theorem carry_restart (descriptor : ViewDescriptor) (key : ViewKey) :
    (page.carry toBackend toEmbedder).restart descriptor key =
      (page.restart descriptor key).map id (carry toBackend toEmbedder) := by
  unfold restart
  rw [carry_release carries, carry_activate carries]

theorem carry_setFilter (key : ViewKey) (filter : Filter) (value : Option FilterValue) :
    (page.carry toBackend toEmbedder).setFilter key filter value =
      (page.setFilter key filter value).map id (carry toBackend toEmbedder) := by
  unfold setFilter
  rw [carry_forms]
  cases page.forms.setFilter key filter value with
  | error error => rfl
  | ok forms =>
    have restarted (descriptor : ViewDescriptor) :
        ({ page.carry toBackend toEmbedder with forms } : Page τ δ).restart descriptor key =
          (({ page with forms } : Page σ ε).restart descriptor key).map id
            (carry toBackend toEmbedder) :=
      carry_restart carries toEmbedder { page with forms } descriptor key
    simp only [carry_selection, carry_catalog] at restarted ⊢
    by_cases current : page.selection.current = some key
    · simp only [current, if_true]
      cases page.catalog.resolve key with
      | error error => rfl
      | ok descriptor =>
        simp only [restarted]
        rfl
    · simp only [current, if_false]
      rfl

theorem carry_setFilterRaw (key : ViewKey) (filter : Filter) (raw : String) :
    (page.carry toBackend toEmbedder).setFilterRaw key filter raw =
      (page.setFilterRaw key filter raw).map id (carry toBackend toEmbedder) := by
  unfold setFilterRaw
  cases filter.read raw with
  | error error => rfl
  | ok value => exact carry_setFilter carries toEmbedder page key filter value

theorem carry_refresh : (page.carry toBackend toEmbedder).refresh =
    page.refresh.map id (carry toBackend toEmbedder) := by
  unfold refresh
  rw [carry_selection, carry_catalog]
  cases page.selection.current with
  | none => rfl
  | some key =>
    simp only
    cases page.catalog.resolve key with
    | error error => rfl
    | ok descriptor => exact carry_restart carries toEmbedder page descriptor key

theorem carry_depart : (page.carry toBackend toEmbedder).depart =
    page.depart.carry toBackend toEmbedder := by
  have cleared : ({ page.carry toBackend toEmbedder with
      selection := (page.carry toBackend toEmbedder).selection.reset } : Page τ δ) =
    ({ page with selection := page.selection.reset } : Page σ ε).carry toBackend toEmbedder := rfl
  unfold depart
  rw [cleared, carry_selection]
  cases page.selection.current with
  | none => rfl
  | some previous =>
    simp only [carry_release carries]
    rfl

theorem carry_gather : (page.carry toBackend toEmbedder).gather =
    page.gather.carry toBackend toEmbedder := by
  unfold gather
  simp only [carry, carries.arrivals]
  rfl

end

section

variable [Embedder ε] [Embedder δ] {toEmbedder : ε → δ} (carries : Embedder.Carries toEmbedder)
  (toBackend : σ → τ)

include carries

theorem carry_bindPlot (page : Page σ ε) (key : ViewKey) (surface : Surface) :
    (page.carry toBackend toEmbedder).bindPlot key surface =
      (page.bindPlot key surface).map id (carry toBackend toEmbedder) := by
  unfold bindPlot
  simp only [carry]
  cases page.coordinator.plot? key with
  | none => rfl
  | some plot =>
    simp only [carries plot]
    rcases Embedder.embed plot page.embedder with ⟨fault | done, embedder⟩ <;> rfl

theorem carry_applyEvent (page : Page σ ε) (event : FetchEvent) (now : Instant) :
    (page.carry toBackend toEmbedder).applyEvent event now =
      (page.applyEvent event now).map id (carry toBackend toEmbedder) := by
  unfold applyEvent
  simp only [carry]
  rcases page.coordinator.apply event page.selection.current now with
    ⟨reason | ⟨_, _⟩ | ⟨key, surface⟩ | _ | ⟨_, _⟩, coordinator⟩
  · rfl
  · rfl
  · exact carry_bindPlot carries toBackend { page with coordinator } key surface
  · rfl
  · rfl

theorem carry_applyEvents (now : Instant) (events : List FetchEvent) (page : Page σ ε) :
    applyEvents now events (page.carry toBackend toEmbedder) =
      (applyEvents now events page).map id (carry toBackend toEmbedder) := by
  induction events generalizing page with
  | nil => rfl
  | cons event rest ih =>
    simp only [applyEvents, carry_applyEvent carries, Prod.map_snd, ih]
    rfl

theorem carry_process (page : Page σ ε) (now : Instant) :
    (page.carry toBackend toEmbedder).process now =
      (page.process now).map id (carry toBackend toEmbedder) :=
  carry_applyEvents carries toBackend now page.queue { page with queue := [] }

end

variable [Backend σ] [Backend τ] [Embedder ε] [Embedder δ] {toBackend : σ → τ}
  {toEmbedder : ε → δ}

/-- A page carried over answers every action as before. -/
theorem carry_perform (backend : Backend.Carries toBackend)
    (embedder : Embedder.Carries toEmbedder) (page : Page σ ε) (action : PageAction) :
    (page.carry toBackend toEmbedder).perform action =
      (page.perform action).map id (carry toBackend toEmbedder) := by
  cases action with
  | select key => exact carry_select backend _ page key
  | selectSlug raw => exact carry_selectSlug backend _ page raw
  | setFilter key filter value => exact carry_setFilter backend _ page key filter value
  | setFilterRaw key filter raw => exact carry_setFilterRaw backend _ page key filter raw
  | refresh =>
    simp only [perform, carry_refresh backend]
    rfl
  | process now =>
    simp only [perform, carry_process embedder]
    rfl
  | wait now =>
    simp only [perform, wait, carry_gather backend, carry_process embedder]
    rfl
  | leave now =>
    simp only [perform, leave, carry_depart backend, carry_process embedder]
    rfl
  | loadOptions =>
    simp only [perform, carry_loadOptions backend]
    rfl
  | subscribe => rfl
  | unsubscribe id => rfl
  | deliver events => rfl

theorem carry_run (backend : Backend.Carries toBackend) (embedder : Embedder.Carries toEmbedder)
    (page : Page σ ε) (actions : List PageAction) :
    (page.carry toBackend toEmbedder).run actions =
      (page.run actions).carry toBackend toEmbedder := by
  induction actions generalizing page with
  | nil => rfl
  | cons action rest ih =>
    simp only [run, carry_perform backend embedder, Prod.map_snd]
    exact ih _

/-! ### Observed pages -/

/-- The page with its backend and its embedder observed from now on. -/
def observe (page : Page σ ε) : Page (ObservedBackend σ) (ObservedEmbedder ε) :=
  page.carry (fun inner => { inner }) fun inner => { inner }

/-- The page with the records forgotten. -/
def plain (page : Page (ObservedBackend σ) (ObservedEmbedder ε)) : Page σ ε :=
  page.carry ObservedBackend.inner ObservedEmbedder.inner

/-- Observation changes nothing. -/
theorem run_plain (page : Page σ ε) (actions : List PageAction) :
    (page.observe.run actions).plain = page.run actions :=
  (carry_run ObservedBackend.inner_carries ObservedEmbedder.inner_carries page.observe actions).symm

end Page

end ScenarioResults
