import ScenarioResults.Backend.Sampled

/-!
# What a sampled backend answers

A request is answered by the seed and by the views that fail or are void, whatever was asked before and
whatever is held back or cancelled. Carrying out all that is held is the same as completing the tickets
one by one.
-/

namespace ScenarioResults

def FetchRequest.recorded : FetchRequest → RecordedCall
  | .table ticket scenario => .table scenario ticket.key
  | .plot ticket scenario arguments => .plot scenario ticket.key arguments

namespace SampledBackend

variable {backend other : SampledBackend}

def eventOf (backend : SampledBackend) (request : FetchRequest) : FetchEvent :=
  (request.execute backend).1

@[simp] theorem eventOf_ticket (backend : SampledBackend) (request : FetchRequest) :
    (backend.eventOf request).ticket = request.ticket :=
  request.execute_ticket backend

theorem executed (backend : SampledBackend) (request : FetchRequest) :
    request.execute backend = (backend.eventOf request, backend.record request.recorded) := by
  cases request <;> rfl

theorem spawn_deferred (deferred : backend.deferred = true) (request : FetchRequest) :
    Backend.spawn request backend =
      (.ok [], { backend with held := backend.held ++ [request] }) :=
  if_pos deferred

theorem spawn_prompt (prompt : backend.deferred = false) (request : FetchRequest) :
    Backend.spawn request backend =
      (.ok [backend.eventOf request], backend.record request.recorded) := by
  have carriedOut : Backend.spawn request backend =
      (.ok [(request.execute backend).1], (request.execute backend).2) :=
    if_neg (by simp [prompt])
  rw [carriedOut, executed]

/-- Two sampled backends that have the same results. -/
structure Akin (backend other : SampledBackend) : Prop where
  seed : other.seed = backend.seed
  failures : other.failures = backend.failures
  voids : other.voids = backend.voids

theorem Akin.eventOf (akin : backend.Akin other) (request : FetchRequest) :
    other.eventOf request = backend.eventOf request := by
  obtain ⟨seed, failures, voids⟩ := akin
  cases request with
  | table ticket scenario =>
    have same : other.rows scenario ticket.key = backend.rows scenario ticket.key := by
      simp only [rows, generator, seed, failures, voids]
    exact congrArg (fun answer => (⟨ticket, .ofRows answer⟩ : FetchEvent)) same
  | plot ticket scenario arguments =>
    have same : other.description scenario ticket.key arguments =
        backend.description scenario ticket.key arguments := by
      simp only [description, generator, seed, failures, voids]
    exact congrArg (fun answer => (⟨ticket, .ofDescription answer⟩ : FetchEvent)) same

theorem Akin.events (akin : backend.Akin other) : other.eventOf = backend.eventOf :=
  funext akin.eventOf

/-! ### Completing what is held back -/

theorem executeAll_eq (backend : SampledBackend) (requests : List FetchRequest) :
    Backend.executeAll requests backend =
      (requests.map backend.eventOf,
        { backend with calls := backend.calls ++ requests.map FetchRequest.recorded }) := by
  induction requests generalizing backend with
  | nil => simp [Backend.executeAll]
  | cons request rest ih =>
    have akin : backend.Akin (backend.record request.recorded) := ⟨rfl, rfl, rfl⟩
    simp only [Backend.executeAll, executed, ih, akin.events]
    simp [record]

theorem completeAll_eq (backend : SampledBackend) : backend.completeAll =
    (backend.held.map backend.eventOf,
      { backend with
        held := [], calls := backend.calls ++ backend.held.map FetchRequest.recorded }) := by
  have akin : backend.Akin { backend with held := [] } := ⟨rfl, rfl, rfl⟩
  rw [completeAll, executeAll_eq, akin.events]

/-- Tickets completed one after the other, up to the first that is not held. -/
def completeEach : List Ticket → Call SampledBackend (List FetchEvent)
  | [], backend => (.ok [], backend)
  | ticket :: rest, backend =>
    match complete ticket backend with
    | (.error fault, backend) => (.error fault, backend)
    | (.ok event, backend) =>
      let (events, backend) := completeEach rest backend
      (events.map (event :: ·), backend)

theorem complete_first {request : FetchRequest} {rest : List FetchRequest}
    (held : backend.held = request :: rest) :
    complete request.ticket backend =
      (.ok (backend.eventOf request),
        { backend with held := rest, calls := backend.calls ++ [request.recorded] }) := by
  have found : takeHeld request.ticket (request :: rest) = some (request, rest) := if_pos rfl
  have akin : backend.Akin { backend with held := rest } := ⟨rfl, rfl, rfl⟩
  have carriedOut := executed { backend with held := rest } request
  rw [akin.events] at carriedOut
  simp only [FetchRequest.execute, Backend.table, Backend.plot] at carriedOut
  simp only [complete, held, found, carriedOut, record]

/-- Each ticket is looked up in a list from which those before it are gone, so it is the first there,
also if two requests had the same ticket. -/
theorem completeEach_held (backend : SampledBackend) :
    completeEach (backend.held.map FetchRequest.ticket) backend =
      (.ok backend.completeAll.1, backend.completeAll.2) := by
  rw [completeAll_eq]
  generalize listed : backend.held = requests
  induction requests generalizing backend with
  | nil =>
    have same : ({ backend with held := [] } : SampledBackend) = backend := by rw [← listed]
    simp [completeEach, same]
  | cons request rest ih =>
    have akin : backend.Akin
        { backend with held := rest, calls := backend.calls ++ [request.recorded] } :=
      ⟨rfl, rfl, rfl⟩
    have others := ih
      { backend with held := rest, calls := backend.calls ++ [request.recorded] } rfl
    rw [akin.events] at others
    simp only [List.map_cons, completeEach, complete_first listed, others]
    simp [Except.map]

end SampledBackend

end ScenarioResults
