import ScenarioResults.Backend.InFlight
import ScenarioResults.Report
import ScenarioResults.Proofs.Page.Fetching
import ScenarioResults.Proofs.PlotPage.File

/-!
# What is reported of a completion

Once the completion of a view has landed, the page tells of it, and the report of the view says what
it brought: the failure, the rows, the place of the page that was written, or that there is nothing to
show. A page that waits for the one fetch under way takes its completion if it comes before the
deadline (`await_flight`), and it is too late if it does not (`await_late`).
-/

namespace ScenarioResults.Page

/-! ### Reports after a landing -/

section

variable {σ : Type} {page : Page σ PlotFolder} {event : FetchEvent} {key : ViewKey} {now : Instant}

theorem slot_applyEvent_undrawn (lands : page.coordinator.Lands event page.selection.current)
    (named : event.ticket.key = key)
    (undrawn : (page.coordinator.slot key).draws? event.outcome = none) :
    (page.applyEvent event now).2.coordinator.slot key =
        (page.coordinator.slot key).receive now event.outcome ∧
      (page.applyEvent event now).2.embedder = page.embedder := by
  subst named
  rw [applyEvent_undrawn lands undrawn]
  refine ⟨?_, rfl⟩
  rw [Coordinator.slots_land, if_pos rfl]

theorem report_of_failed {message : String}
    (lands : page.coordinator.Lands event page.selection.current)
    (named : event.ticket.key = key) (failed : event.outcome = .failed message) :
    (page.applyEvent event now).1 = .fetchFailed key message ∧
      (page.applyEvent event now).2.report key = .error (.view (.fetchFailure key message)) ∧
      (page.applyEvent event now).2.embedder = page.embedder := by
  obtain ⟨slot, embedder⟩ := slot_applyEvent_undrawn lands named (by rw [failed]; rfl)
  refine ⟨?_, ?_, embedder⟩
  · simp [applyEvent, Coordinator.apply_of_lands lands, Coordinator.land, failed, named]
  · simp [report, status, Coordinator.status, slot, failed, ViewSlot.receive, ViewSlot.fail]

theorem report_of_table {rows : List Row}
    (lands : page.coordinator.Lands event page.selection.current)
    (named : event.ticket.key = key) (table : event.outcome = .table rows)
    (kind : key.kind = .table) :
    (page.applyEvent event now).1 =
        (if rows.isEmpty then .resultEmpty key else .tableReady key rows.length) ∧
      (page.applyEvent event now).2.report key =
        .ok (if rows.isEmpty then (ViewError.noResults key).message ++ "\n"
          else Table.render ⟨rows⟩) ∧
      (page.applyEvent event now).2.embedder = page.embedder := by
  obtain ⟨slot, embedder⟩ := slot_applyEvent_undrawn lands named (by rw [table]; rfl)
  refine ⟨?_, ?_, embedder⟩
  · cases rows <;>
      simp [applyEvent, Coordinator.apply_of_lands lands, Coordinator.land, table, named,
        TableResult.isEmpty]
  · rw [table] at slot
    cases rows with
    | nil =>
      simp [report, status, Coordinator.status, slot, ViewSlot.receive, ViewSlot.settle,
        ViewPayload.isEmpty, TableResult.isEmpty]
    | cons row rest =>
      simp [report, status, Coordinator.status, Coordinator.table?, slot, ViewSlot.receive,
        ViewSlot.settle, ViewPayload.isEmpty, TableResult.isEmpty, kind]

theorem report_of_void {description : PlotDescription} {surface : Surface}
    (lands : page.coordinator.Lands event page.selection.current)
    (named : event.ticket.key = key) (plot : event.outcome = .plot description)
    (placed : (page.coordinator.slot key).pendingSurface = some surface)
    (void : description.isEmpty) :
    (page.applyEvent event now).1 = .resultEmpty key ∧
      (page.applyEvent event now).2.report key = .ok ((ViewError.noResults key).message ++ "\n") ∧
      (page.applyEvent event now).2.embedder = page.embedder := by
  have undrawn : (page.coordinator.slot key).draws? event.outcome = none := by
    simp [ViewSlot.draws?, plot, placed, void]
  obtain ⟨slot, embedder⟩ := slot_applyEvent_undrawn lands named undrawn
  refine ⟨?_, ?_, embedder⟩
  · subst named
    simp [applyEvent, Coordinator.apply_of_lands lands, Coordinator.land, plot, placed, void]
  · simp [report, status, Coordinator.status, slot, plot, ViewSlot.receive, placed, ViewSlot.settle,
      ViewPayload.isEmpty, void]

theorem report_of_drawn {description : PlotDescription} {surface : Surface} {plots : PlotFolder}
    (lands : page.coordinator.Lands event page.selection.current)
    (named : event.ticket.key = key) (plot : event.outcome = .plot description)
    (kind : key.kind = .plot) (placed : (page.coordinator.slot key).pendingSurface = some surface)
    (visible : ¬ description.isEmpty)
    (written : page.embedder.write ⟨surface, description⟩ = (.ok (), plots)) :
    (page.applyEvent event now).1 = .plotBound key surface ∧
      (page.applyEvent event now).2.report key = .ok (page.embedder.path surface ++ "\n") ∧
      (page.applyEvent event now).2.embedder = plots := by
  subst named
  have drawn : (page.coordinator.slot event.ticket.key).draws? event.outcome =
      some ⟨surface, description⟩ := by
    simp [ViewSlot.draws?, plot, placed, visible]
  have embedded : Embedder.embed (⟨surface, description⟩ : PlotResult) page.embedder =
      (.ok (), plots) := written
  have place : plots.path surface = page.embedder.path surface := by
    rw [PlotFolder.path, PlotFolder.path, (PlotFolder.write_fixed written).1]
  refine ⟨?_, ?_⟩
  · simp [applyEvent, Coordinator.apply_of_lands lands, Coordinator.land, plot, placed, visible,
      bindPlot, Coordinator.plot?, ViewSlot.settle, embedded]
  · rw [applyEvent_drawn lands drawn, embedded]
    refine ⟨?_, rfl⟩
    simp [report, status, Coordinator.status, Coordinator.plot?, ViewSlot.settle,
      ViewPayload.isEmpty, visible, kind, place]

end

/-! ### Waiting for the fetch under way -/

section

variable {σ ε : Type} [Backend σ] {page : Page (InFlight σ) ε} {request : FetchRequest}

/-- The page once the request that is under way has been carried out. -/
def arrived (page : Page (InFlight σ) ε) (request : FetchRequest) : Page (InFlight σ) ε :=
  { page with backend := { inner := (request.execute page.backend.inner).2 }, queue := [] }

/-- The request is under way for the view on show, and no other. -/
structure Flies (page : Page (InFlight σ) ε) (request : FetchRequest) : Prop where
  requests : page.backend.requests = [request]
  queue : page.queue = []
  pending : (page.coordinator.slot request.ticket.key).status = .pending
  current : (page.coordinator.slot request.ticket.key).generation = request.ticket.generation
  shown : page.selection.current = some request.ticket.key

theorem Flies.lands (flies : page.Flies request) :
    (page.arrived request).coordinator.Lands (request.execute page.backend.inner).1
      (page.arrived request).selection.current := by
  have ticket : (request.execute page.backend.inner).1.ticket = request.ticket :=
    FetchRequest.execute_ticket _ _
  refine ⟨?_, ?_, ?_⟩
  · rw [ticket]
    exact flies.pending
  · rw [ticket]
    exact flies.current
  · rw [ticket]
    exact flies.shown

variable [Embedder ε]

/-- What is told as the completion of the request that was under way comes in now, and the page
then. -/
def answered (page : Page (InFlight σ) ε) (request : FetchRequest) (now : Instant) :
    PageEvent × Page (InFlight σ) ε :=
  (page.arrived request).applyEvent (request.execute page.backend.inner).1 now

variable {timeout : Duration} {watch : Watch} {deadline : Instant}

/-- Waiting for the one fetch under way takes its completion, if this comes before the deadline. -/
theorem await_flight (flies : page.Flies request)
    (ends : watch.start.after? (timeout.plus grace) = some deadline)
    (early : watch.arrival.nanoseconds < deadline.nanoseconds) :
    page.await request.ticket.key timeout watch =
      (.ok [(page.answered request watch.now).1], (page.answered request watch.now).2) := by
  have still : page.status request.ticket.key = .pending := flies.pending
  have waits : page.wait watch.now =
      ([(page.answered request watch.now).1], (page.answered request watch.now).2) := by
    simp only [wait, gather, deliver, Page.process, Backend.arrivals, flies.requests, flies.queue,
      Backend.executeAll, List.nil_append, applyEvents, answered, arrived]
  have landed := (applyEvent_of_lands flies.lands watch.now).settled
  rw [FetchRequest.execute_ticket] at landed
  have settled : (page.answered request watch.now).2.status request.ticket.key ≠ .pending := landed
  have notLate := Int.not_le.mpr early
  simp only [await, ends, process_of_empty flies.queue, still, waits, settled, notLate, ne_eq,
    not_true_eq_false, if_false, List.nil_append]

/-- A completion that comes at the deadline or after it is too late. -/
theorem await_late (flies : page.Flies request)
    (ends : watch.start.after? (timeout.plus grace) = some deadline)
    (late : deadline.nanoseconds ≤ watch.arrival.nanoseconds) :
    page.await request.ticket.key timeout watch =
      (.error (.timeUp request.ticket.key (timeout.plus grace)), page.gather) := by
  have still : page.status request.ticket.key = .pending := flies.pending
  simp only [await, ends, process_of_empty flies.queue, still, late, ne_eq, not_true_eq_false,
    if_false, if_true]

omit [Embedder ε] in
theorem Flies.gather_inner (flies : page.Flies request) :
    page.gather.backend.inner = (request.execute page.backend.inner).2 := by
  simp only [gather, deliver, Backend.arrivals, flies.requests, Backend.executeAll]

end

end ScenarioResults.Page
