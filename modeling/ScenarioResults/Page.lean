import ScenarioResults.Backend
import ScenarioResults.Coordinator
import ScenarioResults.Embedder
import ScenarioResults.Selection

/-!
# The results page

A page shows at most one view of a scenario. Selecting a view, changing a filter of the view on show
and refreshing it give up the fetch under way and start a new one. Completions wait in a queue until
the page processes them; a plot that lands is drawn at once. An operation that is refused leaves the
page as it was.
-/

namespace ScenarioResults

inductive PageEvent where
  | selectionChanged (key : ViewKey)
  | filterChanged (key : ViewKey) (filter : Filter)
  | fetchIssued (ticket : Ticket)
  | tableReady (key : ViewKey) (rows : Nat)
  | plotBound (key : ViewKey) (surface : Surface)
  | resultEmpty (key : ViewKey)
  | fetchFailed (key : ViewKey) (message : String)
  | embedFailed (key : ViewKey) (message : String)
  | completionDiscarded (ticket : Ticket)
  | selectionCleared
  deriving DecidableEq, Repr

inductive PageCommand where
  | select (key : ViewKey)
  | setFilter (key : ViewKey) (filter : Filter) (value : Option FilterValue)
  | refresh
  | process
  | leave

structure Page (σ ε : Type) where
  scenario : ScenarioId
  catalog : Catalog
  selection : Selection := {}
  forms : ParameterForms
  coordinator : Coordinator := {}
  embedder : ε
  backend : σ
  optionsError : Option String := none
  queue : List FetchEvent := []

def missingPlot : String := "plot result missing after completion"

namespace Page

variable {σ ε : Type}

def formFor (page : Page σ ε) (descriptor : ViewDescriptor) : Option ParameterForm :=
  match descriptor.kind with
  | .plot => (page.forms.form descriptor.key).toOption
  | .table => none

def deliver (page : Page σ ε) (events : List FetchEvent) : Page σ ε :=
  { page with queue := page.queue ++ events }

def subscribe (page : Page σ ε) : SubscriptionId × Page σ ε :=
  let (id, selection) := page.selection.subscribe
  (id, { page with selection })

def unsubscribe (page : Page σ ε) (id : SubscriptionId) : Bool × Page σ ε :=
  let (found, selection) := page.selection.unsubscribe id
  (found, { page with selection })

def status (page : Page σ ε) (key : ViewKey) : ViewStatus := page.coordinator.status key

def filterValues (page : Page σ ε) (key : ViewKey) : Except ViewError FilterValues :=
  (page.forms.form key).map ParameterForm.currentValues

def buttons (page : Page σ ε) : List ResultButton := page.catalog.buttons

def offers (page : Page σ ε) : List FormOffer := page.forms.offers page.catalog

def isTableShown (page : Page σ ε) : Bool :=
  match page.selection.current with
  | some key => key.kind == .table && (page.coordinator.table? key).isSome
  | none => false

/-! ### Starting and giving up fetches -/

section

variable [Backend σ]

/-- The options of the scenario, asked for unless they are known. The answer tells whether they are
known now. -/
def loadOptions (page : Page σ ε) : Bool × Page σ ε :=
  if page.forms.options.isSome then (true, page)
  else
    match Backend.options page.scenario page.backend with
    | (.ok options, backend) =>
      let (taken, forms) := page.forms.takeOptions options
      (taken, { page with backend, forms, optionsError := none })
    | (.error fault, backend) => (false, { page with backend, optionsError := some fault.message })

def enter (scenario : ScenarioId) (catalog : Catalog) (backend : σ) (embedder : ε) : Page σ ε :=
  let page : Page σ ε :=
    { scenario, catalog, forms := .ofCatalog catalog, embedder, backend }
  page.loadOptions.2

/-- The fetch under way for a view given up. A backend that cannot cancel it is let be. -/
def release (page : Page σ ε) (key : ViewKey) : Page σ ε :=
  match page.coordinator.abandon key with
  | (none, coordinator) => { page with coordinator }
  | (some ticket, coordinator) =>
    { page with coordinator, backend := (Backend.cancel ticket page.backend).2 }

def activate (page : Page σ ε) (descriptor : ViewDescriptor) : List PageEvent × Page σ ε :=
  let key := descriptor.key
  match page.coordinator.plan descriptor page.scenario (page.formFor descriptor) with
  | (.error error, coordinator) =>
    ([.fetchFailed key error.message],
      { page with coordinator := coordinator.markFailed key error.message })
  | (.ok request, coordinator) =>
    match Backend.spawn request page.backend with
    | (.ok events, backend) =>
      ([.fetchIssued request.ticket],
        { page with coordinator, backend, queue := page.queue ++ events })
    | (.error fault, backend) =>
      ([.fetchIssued request.ticket, .fetchFailed key fault.message],
        { page with coordinator := coordinator.markFailed key fault.message, backend })

def restart (page : Page σ ε) (descriptor : ViewDescriptor) (key : ViewKey) :
    List PageEvent × Page σ ε :=
  (page.release key).activate descriptor

/-- The selection moved to a view, and the fetch under way for the one before it given up. -/
def turnTo (page : Page σ ε) (key : ViewKey) : Page σ ε :=
  let shown := { page with selection := page.selection.setActive key }
  match page.selection.current with
  | some previous => shown.release previous
  | none => shown

def select (page : Page σ ε) (key : ViewKey) : Except ViewError (List PageEvent) × Page σ ε :=
  match page.catalog.resolve key with
  | .error error => (.error error, page)
  | .ok descriptor =>
    let (events, page) := (page.turnTo key).activate descriptor
    (.ok (.selectionChanged key :: events), page)

def selectSlug (page : Page σ ε) (raw : String) : Except ViewError (List PageEvent) × Page σ ε :=
  match page.catalog.resolveSlug raw with
  | .error error => (.error error, page)
  | .ok descriptor => page.select descriptor.key

/-- A filter set or unset. The view on show is fetched anew. -/
def setFilter (page : Page σ ε) (key : ViewKey) (filter : Filter) (value : Option FilterValue) :
    Except ViewError (List PageEvent) × Page σ ε :=
  match page.forms.setFilter key filter value with
  | .error error => (.error error, page)
  | .ok forms =>
    let page := { page with forms }
    if page.selection.current = some key then
      match page.catalog.resolve key with
      | .error error => (.error error, page)
      | .ok descriptor =>
        let (events, page) := page.restart descriptor key
        (.ok (.filterChanged key filter :: events), page)
    else (.ok [.filterChanged key filter], page)

def setFilterRaw (page : Page σ ε) (key : ViewKey) (filter : Filter) (raw : String) :
    Except ViewError (List PageEvent) × Page σ ε :=
  match filter.read raw with
  | .error error => (.error error, page)
  | .ok value => page.setFilter key filter value

def refresh (page : Page σ ε) : List PageEvent × Page σ ε :=
  match page.selection.current with
  | none => ([], page)
  | some key =>
    match page.catalog.resolve key with
    | .error _ => ([], page)
    | .ok descriptor => page.restart descriptor key

/-- The selection and every filter cleared, and the fetch under way given up. -/
def depart (page : Page σ ε) : Page σ ε :=
  let cleared := { page with selection := page.selection.reset }
  let released := match page.selection.current with
    | some previous => cleared.release previous
    | none => cleared
  { released with forms := released.forms.clearValues }

def gather (page : Page σ ε) : Page σ ε :=
  let (events, backend) := Backend.arrivals page.backend
  { page with backend }.deliver events

end

/-! ### Completions -/

section

variable [Embedder ε]

def bindPlot (page : Page σ ε) (key : ViewKey) (surface : Surface) : PageEvent × Page σ ε :=
  let (answer, embedder) := match page.coordinator.plot? key with
    | some plot => Embedder.embed plot page.embedder
    | none => (.error (.of missingPlot), page.embedder)
  match answer with
  | .ok () => (.plotBound key surface, { page with embedder })
  | .error fault =>
    let message := (ViewError.embedding surface.name fault.message).message
    (.embedFailed key message,
      { page with embedder, coordinator := page.coordinator.markFailed key message })

def applyEvent (page : Page σ ε) (event : FetchEvent) (now : Instant) : PageEvent × Page σ ε :=
  match page.coordinator.apply event page.selection.current now with
  | (.ok (.table key rows), coordinator) => (.tableReady key rows, { page with coordinator })
  | (.ok (.plot key surface), coordinator) => bindPlot { page with coordinator } key surface
  | (.ok (.empty key), coordinator) => (.resultEmpty key, { page with coordinator })
  | (.ok (.failed key message), coordinator) =>
    (.fetchFailed key message, { page with coordinator })
  | (.error _, coordinator) => (.completionDiscarded event.ticket, { page with coordinator })

def applyEvents (now : Instant) : List FetchEvent → Page σ ε → List PageEvent × Page σ ε
  | [], page => ([], page)
  | event :: rest, page =>
    let (first, page) := page.applyEvent event now
    let (events, page) := applyEvents now rest page
    (first :: events, page)

/-- The queue emptied. At most one of the completions in it lands, so one time is enough. -/
def process (page : Page σ ε) (now : Instant) : List PageEvent × Page σ ε :=
  applyEvents now page.queue { page with queue := [] }

end

/-! ### Operations that need both -/

section

variable [Backend σ] [Embedder ε]

/-- What comes while the page waits, after what is in the queue. -/
def wait (page : Page σ ε) (now : Instant) : List PageEvent × Page σ ε := page.gather.process now

/-- Nothing on show and no filter set. What is in the queue is processed, too late to land. -/
def leave (page : Page σ ε) (now : Instant) : List PageEvent × Page σ ε :=
  let (events, page) := page.depart.process now
  (.selectionCleared :: events, page)

def dispatch (page : Page σ ε) (now : Instant) :
    PageCommand → Except ViewError (List PageEvent) × Page σ ε
  | .select key => page.select key
  | .setFilter key filter value => page.setFilter key filter value
  | .refresh => let (events, page) := page.refresh; (.ok events, page)
  | .process => let (events, page) := page.process now; (.ok events, page)
  | .leave => let (events, page) := page.leave now; (.ok events, page)

end

end Page

end ScenarioResults
