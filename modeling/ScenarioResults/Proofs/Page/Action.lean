import ScenarioResults.Page

/-!
# Runs of a page

Everything that can happen to a page from outside is an action: its operations, and completions that
come in by themselves. What is observed of an action is said here: what it answers, which view it
activates and on which page, which completions it takes and what the coordinator says to them.
-/

namespace ScenarioResults

/-- What can happen to a page from outside. -/
inductive PageAction where
  | select (key : ViewKey)
  | selectSlug (raw : String)
  | setFilter (key : ViewKey) (filter : Filter) (value : Option FilterValue)
  | setFilterRaw (key : ViewKey) (filter : Filter) (raw : String)
  | refresh
  | process (now : Instant)
  | wait (now : Instant)
  | leave (now : Instant)
  | loadOptions
  | subscribe
  | unsubscribe (id : SubscriptionId)
  /-- Completions that come in by themselves, of any tickets and with any outcomes. -/
  | deliver (events : List FetchEvent)

/-- When an action takes completions, if it takes any. -/
def PageAction.time : PageAction → Instant
  | .process now | .wait now | .leave now => now
  | _ => ⟨0⟩

/-- The ticket of a fetch that was issued. -/
def PageEvent.issued? : PageEvent → Option Ticket
  | .fetchIssued ticket => some ticket
  | _ => none

namespace Page

variable {σ ε : Type} [Backend σ]

section

variable [Embedder ε]

/-- An action carried out: what it answers and the page after it. -/
def perform (page : Page σ ε) : PageAction → Except ViewError (List PageEvent) × Page σ ε
  | .select key => page.select key
  | .selectSlug raw => page.selectSlug raw
  | .setFilter key filter value => page.setFilter key filter value
  | .setFilterRaw key filter raw => page.setFilterRaw key filter raw
  | .refresh => let (events, page) := page.refresh; (.ok events, page)
  | .process now => let (events, page) := page.process now; (.ok events, page)
  | .wait now => let (events, page) := page.wait now; (.ok events, page)
  | .leave now => let (events, page) := page.leave now; (.ok events, page)
  | .loadOptions => (.ok [], page.loadOptions.2)
  | .subscribe => (.ok [], page.subscribe.2)
  | .unsubscribe id => (.ok [], (page.unsubscribe id).2)
  | .deliver events => (.ok [], page.deliver events)

def run (page : Page σ ε) : List PageAction → Page σ ε
  | [] => page
  | action :: rest => (page.perform action).2.run rest

/-- What is observed of each action of a run, in order. -/
def along {α : Type} (observe : Page σ ε → PageAction → List α) (page : Page σ ε) :
    List PageAction → List α
  | [] => []
  | action :: rest => observe page action ++ along observe (page.perform action).2 rest

/-- The tickets that an action issues. -/
def issuedBy (page : Page σ ε) (action : PageAction) : List Ticket :=
  match (page.perform action).1 with
  | .ok events => events.filterMap PageEvent.issued?
  | .error _ => []

theorem run_append (page : Page σ ε) (first second : List PageAction) :
    page.run (first ++ second) = (page.run first).run second := by
  induction first generalizing page with
  | nil => rfl
  | cons action rest ih => exact ih _

/-- What every action keeps, every run keeps. -/
theorem run_keeps {kept : Page σ ε → Prop}
    (step : ∀ page action, kept page → kept (page.perform action).2) {page : Page σ ε}
    (start : kept page) (actions : List PageAction) : kept (page.run actions) := by
  induction actions generalizing page with
  | nil => exact start
  | cons action rest ih => exact ih (step page action start)

/-- What holds of all that is observed of each action holds all along a run. -/
theorem along_forall {α : Type} {kept : Page σ ε → Prop} {holds : α → Prop}
    {observe : Page σ ε → PageAction → List α}
    (step : ∀ page action, kept page → kept (page.perform action).2)
    (each : ∀ page action, kept page → ∀ item ∈ observe page action, holds item) {page : Page σ ε}
    (start : kept page) (actions : List PageAction) :
    ∀ item ∈ page.along observe actions, holds item := by
  induction actions generalizing page with
  | nil => simp [along]
  | cons action rest ih =>
    intro item member
    rcases List.mem_append.mp member with now | later
    · exact each page action start item now
    · exact ih (step page action start) item later

/-- What is observed of no action is not observed along a run. -/
theorem not_mem_along {α : Type} {observe : Page σ ε → PageAction → List α} {item : α}
    {actions : List PageAction} (each : ∀ action ∈ actions, ∀ page, item ∉ observe page action)
    (page : Page σ ε) : item ∉ page.along observe actions := by
  induction actions generalizing page with
  | nil => simp [along]
  | cons action rest ih =>
    intro member
    rcases List.mem_append.mp member with now | later
    · exact each action List.mem_cons_self page now
    · refine ih ?_ _ later
      intro other among
      exact each other (List.mem_cons_of_mem _ among)

end

/-! ### Where an action activates a view, and where it takes completions -/

/-- The activation that follows an accepted filter value, if the plot is on show. -/
def refilter? (page : Page σ ε) (key : ViewKey) (filter : Filter) (value : Option FilterValue) :
    Option (ViewDescriptor × Page σ ε) :=
  match page.forms.setFilter key filter value with
  | .error _ => none
  | .ok forms =>
    if page.selection.current = some key then
      (page.catalog.resolve key).toOption.map fun descriptor =>
        (descriptor, ({ page with forms } : Page σ ε).release key)
    else none

/-- The view that an action activates, and the page on which it does. -/
def activation? (page : Page σ ε) : PageAction → Option (ViewDescriptor × Page σ ε)
  | .select key =>
    (page.catalog.resolve key).toOption.map fun descriptor => (descriptor, page.turnTo key)
  | .selectSlug raw =>
    (page.catalog.resolveSlug raw).toOption.map fun descriptor =>
      (descriptor, page.turnTo descriptor.key)
  | .setFilter key filter value => page.refilter? key filter value
  | .setFilterRaw key filter raw =>
    (filter.read raw).toOption.bind fun value => page.refilter? key filter value
  | .refresh => page.selection.current.bind fun key =>
    (page.catalog.resolve key).toOption.map fun descriptor => (descriptor, page.release key)
  | _ => none

/-- The page on which an action takes everything in the queue. -/
def intake? (page : Page σ ε) : PageAction → Option (Page σ ε)
  | .process _ => some page
  | .wait _ => some page.gather
  | .leave _ => some page.depart
  | _ => none

/-- The completions that an action takes from the queue. -/
def takenBy (page : Page σ ε) (action : PageAction) : List FetchEvent :=
  ((page.intake? action).map Page.queue).getD []

section

variable [Embedder ε]

/-- The ticket of a completion that the coordinator took. -/
def landed? (verdict : Ticket × Except Discarded Applied) : Option Ticket :=
  if verdict.2.isOk then some verdict.1 else none

omit [Backend σ] in
/-- What the coordinator says to completions that are applied one after the other. -/
def verdicts (now : Instant) :
    List FetchEvent → Page σ ε → List (Ticket × Except Discarded Applied)
  | [], _ => []
  | event :: rest, page =>
    (event.ticket, (page.coordinator.apply event page.selection.current now).1) ::
      verdicts now rest (page.applyEvent event now).2

/-- What the coordinator says to the completions that an action takes. -/
def verdictsOn (page : Page σ ε) (action : PageAction) :
    List (Ticket × Except Discarded Applied) :=
  ((page.intake? action).map fun found =>
    verdicts action.time found.queue { found with queue := [] }).getD []

/-- The tickets of the completions that land during an action. -/
def landedBy (page : Page σ ε) (action : PageAction) : List Ticket :=
  (page.verdictsOn action).filterMap landed?

end

end Page

end ScenarioResults
