import ScenarioResults.Fetch
import ScenarioResults.Options

/-!
# Backends

A backend answers for the results of a scenario. Its state is a value of any type that has an
instance: each call takes the state and gives back the answer with the state after it. A fetch is
started with `spawn`; the event that answers it is there at once, comes while the page waits, or is
delivered at some other time.
-/

namespace ScenarioResults

/-- A call in a state: the answer or the fault, and the state after it. -/
abbrev Call (σ α : Type) := σ → Except Fault α × σ

def FetchOutcome.ofRows : Except Fault (List Row) → FetchOutcome
  | .ok rows => .table rows
  | .error fault => .failed fault.message

def FetchOutcome.ofDescription : Except Fault PlotDescription → FetchOutcome
  | .ok description => .plot description
  | .error fault => .failed fault.message

/-- A request carried out by the call of its kind. A fault is an outcome like any other. -/
def FetchRequest.executeWith {σ : Type} (table : ScenarioId → ViewKey → Call σ (List Row))
    (plot : ScenarioId → ViewKey → List PlotArgument → Call σ PlotDescription)
    (request : FetchRequest) (state : σ) : FetchEvent × σ :=
  match request with
  | .table ticket scenario =>
    let (answer, state) := table scenario ticket.key state
    (⟨ticket, .ofRows answer⟩, state)
  | .plot ticket scenario arguments =>
    let (answer, state) := plot scenario ticket.key arguments state
    (⟨ticket, .ofDescription answer⟩, state)

class Backend (σ : Type) where
  options : ScenarioId → Call σ ResultsOptions
  table : ScenarioId → ViewKey → Call σ (List Row)
  plot : ScenarioId → ViewKey → List PlotArgument → Call σ PlotDescription
  /-- A fetch started: the events that are there at once. Unless a backend knows better, the fetch
  is carried out on the spot. -/
  spawn : FetchRequest → Call σ (List FetchEvent) := fun request state =>
    let (event, state) := request.executeWith table plot state
    (.ok [event], state)
  /-- Word that nobody waits for a fetch any more. -/
  cancel : Ticket → Call σ Unit := fun _ state => (.ok (), state)
  /-- The events that come while the page waits. -/
  arrivals : σ → List FetchEvent × σ := fun state => ([], state)

def FetchRequest.execute {σ : Type} [Backend σ] (request : FetchRequest) (state : σ) :
    FetchEvent × σ :=
  request.executeWith Backend.table Backend.plot state

namespace Backend

def executeAll {σ : Type} [Backend σ] : List FetchRequest → σ → List FetchEvent × σ
  | [], state => ([], state)
  | request :: rest, state =>
    let (event, state) := request.execute state
    let (events, state) := executeAll rest state
    (event :: events, state)

end Backend

@[simp] theorem FetchRequest.execute_ticket {σ : Type} [Backend σ] (request : FetchRequest)
    (state : σ) : (request.execute state).1.ticket = request.ticket := by
  cases request <;> rfl

end ScenarioResults
