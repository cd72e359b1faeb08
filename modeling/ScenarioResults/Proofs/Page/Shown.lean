import ScenarioResults.Backend.Scripted
import ScenarioResults.Embedder.Recorder
import ScenarioResults.Proofs.Page.Observed
import ScenarioResults.Proofs.Page.Pending

/-!
# What is shown once the newest fetch has come in

While a view stays on show and is not activated again, its slot waits untouched for the ticket of its
newest activation. The first completion with that ticket settles the slot, and what came before, what
comes after and what is done meanwhile to other views leaves no mark on it (`newest_fetch_shown`).
-/

namespace ScenarioResults.Page

variable {σ ε : Type}

/-- The surface that a view is to be drawn on with its filters as they are. A table has none. -/
def surfaceFor (page : Page σ ε) (descriptor : ViewDescriptor) : Option Surface :=
  match descriptor.fetch with
  | .table => none
  | .plot spec =>
    (page.forms.form descriptor.key).toOption.map fun form => .ofValues spec form.currentValues

/-- What a view shows, and what was drawn for it. -/
structure Showing where
  status : ViewStatus
  payload : Option ViewPayload := none
  drawn : List PlotResult := []

/-- The slot that shows it, as of a ticket that was answered now. -/
def Showing.slot (showing : Showing) (ticket : Ticket) (now : Instant) : ViewSlot :=
  { generation := ticket.generation
    status := showing.status
    payload := showing.payload
    completed := showing.payload.map fun _ => now }

/-- What a description comes to on its surface, by what the embedder answers. -/
def showingPlot (answer : PlotResult → Except Fault Unit) (plot : PlotResult) : Showing :=
  match plot.description.value with
  | .null | .object [] | .array [] => { status := .empty, payload := some (.plot plot) }
  | _ =>
    match answer plot with
    | .ok () => { status := .ready, payload := some (.plot plot), drawn := [plot] }
    | .error fault =>
      { status := .failed ("embedding into " ++ plot.surface.name ++ " failed: " ++ fault.message)
        drawn := [plot] }

/-- What the outcome of a fetch comes to. There is no telling for a plot without a surface. -/
def showing? (surface : Option Surface) (answer : PlotResult → Except Fault Unit) :
    FetchOutcome → Option Showing
  | .failed message => some { status := .failed message }
  | .table [] => some { status := .empty, payload := some (.table ⟨[]⟩) }
  | .table rows => some { status := .ready, payload := some (.table ⟨rows⟩) }
  | .plot description => surface.map fun surface => showingPlot answer ⟨surface, description⟩

theorem showingPlot_of_empty {answer : PlotResult → Except Fault Unit} {plot : PlotResult}
    (empty : plot.description.isEmpty) :
    showingPlot answer plot = { status := .empty, payload := some (.plot plot) } := by
  obtain ⟨surface, ⟨value⟩⟩ := plot
  unfold showingPlot
  cases value with
  | null => rfl
  | array items => cases items <;> simp_all [PlotDescription.isEmpty, Json.Value.isVoid]
  | object members => cases members <;> simp_all [PlotDescription.isEmpty, Json.Value.isVoid]
  | bool b => simp [PlotDescription.isEmpty, Json.Value.isVoid] at empty
  | number n => simp [PlotDescription.isEmpty, Json.Value.isVoid] at empty
  | string s => simp [PlotDescription.isEmpty, Json.Value.isVoid] at empty

theorem showingPlot_of_visible {answer : PlotResult → Except Fault Unit} {plot : PlotResult}
    (visible : ¬ plot.description.isEmpty) :
    showingPlot answer plot = match answer plot with
      | .ok () => { status := .ready, payload := some (.plot plot), drawn := [plot] }
      | .error fault =>
        { status := .failed (ViewError.embedding plot.surface.name fault.message).message
          drawn := [plot] } := by
  obtain ⟨surface, ⟨value⟩⟩ := plot
  unfold showingPlot
  cases value with
  | null => simp [PlotDescription.isEmpty, Json.Value.isVoid] at visible
  | array items =>
    cases items with
    | nil => simp [PlotDescription.isEmpty, Json.Value.isVoid] at visible
    | cons item rest => rfl
  | object members =>
    cases members with
    | nil => simp [PlotDescription.isEmpty, Json.Value.isVoid] at visible
    | cons member rest => rfl
  | bool b => rfl
  | number n => rfl
  | string s => rfl

theorem showing_settled {surface : Option Surface} {answer : PlotResult → Except Fault Unit}
    {outcome : FetchOutcome} {showing : Showing}
    (expected : showing? surface answer outcome = some showing) :
    showing.status ≠ .pending ∧ showing.status ≠ .notRequested := by
  unfold showing? at expected
  split at expected
  · obtain rfl := Option.some.inj expected
    simp
  · obtain rfl := Option.some.inj expected
    simp
  · obtain rfl := Option.some.inj expected
    simp
  next description =>
    obtain ⟨place, -, rfl⟩ := Option.map_eq_some_iff.mp expected
    by_cases empty : description.isEmpty
    · rw [showingPlot_of_empty empty]
      simp
    · rw [showingPlot_of_visible empty]
      split <;> simp

/-! ### The completion that settles the slot -/

theorem receive_undrawn {slot : ViewSlot} {answer : PlotResult → Except Fault Unit}
    {outcome : FetchOutcome} {showing : Showing} {ticket : Ticket} {now : Instant}
    (current : slot.generation = ticket.generation) (undrawn : slot.draws? outcome = none)
    (expected : showing? slot.pendingSurface answer outcome = some showing) :
    slot.receive now outcome = showing.slot ticket now ∧ showing.drawn = [] := by
  cases outcome with
  | failed message =>
    obtain rfl := Option.some.inj expected
    simp [ViewSlot.receive, ViewSlot.fail, Showing.slot, current]
  | table rows =>
    cases rows with
    | nil =>
      obtain rfl := Option.some.inj expected
      simp [ViewSlot.receive, ViewSlot.settle, ViewPayload.isEmpty, TableResult.isEmpty,
        Showing.slot, current]
    | cons row rest =>
      obtain rfl := Option.some.inj expected
      simp [ViewSlot.receive, ViewSlot.settle, ViewPayload.isEmpty, TableResult.isEmpty,
        Showing.slot, current]
  | plot description =>
    obtain ⟨surface, placed, rfl⟩ := Option.map_eq_some_iff.mp expected
    have empty : description.isEmpty := by
      by_cases empty : description.isEmpty
      · exact empty
      · simp [ViewSlot.draws?, placed, empty] at undrawn
    rw [showingPlot_of_empty empty]
    simp [ViewSlot.receive, placed, ViewSlot.settle, ViewPayload.isEmpty, empty, Showing.slot,
      current]

section

variable [Embedder ε]

/-- What the embedder would answer now. -/
def answerOf (page : Page σ (ObservedEmbedder ε)) (plot : PlotResult) : Except Fault Unit :=
  (Embedder.embed plot page.embedder.inner).1

variable {page origin : Page σ (ObservedEmbedder ε)} {event : FetchEvent} {showing : Showing}
  {now : Instant}

theorem embed_observed (plot : PlotResult) (page : Page σ (ObservedEmbedder ε)) :
    (Embedder.embed plot page.embedder).1 = page.answerOf plot ∧
      (Embedder.embed plot page.embedder).2.drawn = page.embedder.drawn ++ [plot] := ⟨rfl, rfl⟩

/-- The completion of the pending activation decides what is shown. -/
theorem applyEvent_shown (lands : page.coordinator.Lands event page.selection.current)
    (expected : showing? (page.coordinator.slot event.ticket.key).pendingSurface page.answerOf
      event.outcome = some showing) :
    (page.applyEvent event now).2.coordinator.slot event.ticket.key =
        showing.slot event.ticket now ∧
      (page.applyEvent event now).2.embedder.drawn = page.embedder.drawn ++ showing.drawn := by
  cases drawn : (page.coordinator.slot event.ticket.key).draws? event.outcome with
  | none =>
    obtain ⟨received, undrawn⟩ := receive_undrawn lands.current drawn expected
    rw [applyEvent_undrawn lands drawn]
    refine ⟨?_, by simp [undrawn]⟩
    rw [Coordinator.slots_land, if_pos rfl, received]
  | some plot =>
    obtain ⟨outcome, placed, visible⟩ := draws_eq_some drawn
    rw [outcome, placed] at expected
    have determined : showing = showingPlot page.answerOf plot := (Option.some.inj expected).symm
    obtain ⟨answered, recorded⟩ := embed_observed plot page
    rw [applyEvent_drawn lands drawn, determined, showingPlot_of_visible visible, ← answered]
    rcases answer : Embedder.embed plot page.embedder with ⟨fault | _, embedder⟩
    · rw [answer] at recorded
      refine ⟨?_, recorded⟩
      simp [Coordinator.slot_markFailed, ViewSlot.fail, ViewSlot.settle, Showing.slot,
        lands.current]
    · rw [answer] at recorded
      refine ⟨?_, recorded⟩
      simp [ViewSlot.settle, ViewPayload.isEmpty, visible, Showing.slot, lands.current]

/-! ### From the activation to the completion -/

/-- The slot is as it was after the activation, and nothing was drawn since. -/
structure Untouched (origin : Page σ (ObservedEmbedder ε)) (ticket : Ticket)
    (page : Page σ (ObservedEmbedder ε)) : Prop where
  slot : page.coordinator.slot ticket.key = origin.coordinator.slot ticket.key
  embedder : page.embedder = origin.embedder

/-- The slot shows what the completion came to, and no more was drawn since. -/
structure Settled (origin : Page σ (ObservedEmbedder ε)) (ticket : Ticket) (showing : Showing)
    (now : Instant) (page : Page σ (ObservedEmbedder ε)) : Prop where
  slot : page.coordinator.slot ticket.key = showing.slot ticket now
  drawn : page.embedder.drawn = origin.embedder.drawn ++ showing.drawn

/-- A view that was just activated, and what the outcome of its fetch will come to. -/
structure Expects (origin : Page σ (ObservedEmbedder ε)) (ticket : Ticket)
    (outcome : FetchOutcome) (showing : Showing) : Prop where
  pending : (origin.coordinator.slot ticket.key).status = .pending
  current : (origin.coordinator.slot ticket.key).generation = ticket.generation
  expected : showing? (origin.coordinator.slot ticket.key).pendingSurface origin.answerOf outcome =
    some showing

/-- How far a view has come that stays on show, by the completions taken since its activation. -/
inductive Stage (origin : Page σ (ObservedEmbedder ε)) (ticket : Ticket) (showing : Showing)
    (taken : List FetchEvent) (page : Page σ (ObservedEmbedder ε)) : Prop where
  | waits (untouched : origin.Untouched ticket page)
      (unanswered : ∀ event ∈ taken, event.ticket ≠ ticket)
  | shows (now : Instant) (settled : origin.Settled ticket showing now page)

variable {ticket : Ticket} {outcome : FetchOutcome} {taken : List FetchEvent}

/-- Of the completions that are taken, only the first one with the ticket makes a difference. -/
theorem Stage.applyEvent (expects : origin.Expects ticket outcome showing)
    (shown : page.selection.current = some ticket.key)
    (same : event.ticket = ticket → event.outcome = outcome)
    (stage : origin.Stage ticket showing taken page) (now : Instant) :
    origin.Stage ticket showing (taken ++ [event]) (page.applyEvent event now).2 := by
  have onShow (lands : page.coordinator.Lands event page.selection.current) :
      event.ticket.key = ticket.key := by
    have landed := lands.shown
    rw [shown] at landed
    exact (Option.some.inj landed).symm
  cases stage with
  | waits untouched unanswered =>
    by_cases named : event.ticket = ticket
    -- Nothing has touched the slot since the activation, so it is this completion that it waits for.
    · have lands : page.coordinator.Lands event page.selection.current := by
        rw [shown]
        refine ⟨?_, ?_, by rw [named]⟩
        · rw [named, untouched.slot, expects.pending]
        · rw [named, untouched.slot, expects.current]
      have expected : showing? (page.coordinator.slot event.ticket.key).pendingSurface
          page.answerOf event.outcome = some showing := by
        have answers : page.answerOf = origin.answerOf := by
          funext plot
          simp only [answerOf, untouched.embedder]
        rw [named, untouched.slot, answers, same named, expects.expected]
      obtain ⟨slot, drawn⟩ := applyEvent_shown lands expected
      rw [named] at slot
      rw [untouched.embedder] at drawn
      exact .shows now ⟨slot, drawn⟩
    · have stale : ¬ page.coordinator.Lands event page.selection.current := by
        intro lands
        have key := onShow lands
        have generation := lands.current
        rw [key, untouched.slot, expects.current] at generation
        exact named (Ticket.ext key generation.symm)
      rw [applyEvent_of_not_lands stale]
      refine .waits untouched ?_
      intro other member
      rcases List.mem_append.mp member with old | new
      · exact unanswered other old
      · rw [List.mem_singleton.mp new]
        exact named
  | shows before settled =>
    have stale : ¬ page.coordinator.Lands event page.selection.current := by
      intro lands
      have pending := lands.pending
      rw [onShow lands, settled.slot] at pending
      exact (showing_settled expects.expected).1 pending
    rw [applyEvent_of_not_lands stale]
    exact .shows before settled

theorem Stage.applyEvents (expects : origin.Expects ticket outcome showing)
    (shown : page.selection.current = some ticket.key) (events : List FetchEvent)
    (same : ∀ event ∈ events, event.ticket = ticket → event.outcome = outcome)
    (stage : origin.Stage ticket showing taken page) (now : Instant) :
    origin.Stage ticket showing (taken ++ events) (applyEvents now events page).2 := by
  induction events generalizing page taken with
  | nil => simpa [Page.applyEvents] using stage
  | cons event rest ih =>
    have first := stage.applyEvent expects shown (same event List.mem_cons_self) now
    have still : (page.applyEvent event now).2.selection.current = some ticket.key := by
      rw [(page.applyEvent_kept event now).selection, shown]
    have others := ih still (fun later member => same later (List.mem_cons_of_mem _ member)) first
    rw [List.append_assoc] at others
    exact others

/-! ### Whole runs -/

variable [Backend σ]

omit [Embedder ε] in
theorem Stage.alike {other : Page σ (ObservedEmbedder ε)} (alike : page.Alike other)
    (stage : origin.Stage ticket showing taken page) :
    origin.Stage ticket showing taken other := by
  cases stage with
  | waits untouched unanswered =>
    refine .waits ⟨?_, ?_⟩ unanswered
    · rw [alike.coordinator, untouched.slot]
    · rw [alike.embedder, untouched.embedder]
  | shows now settled =>
    refine .shows now ⟨?_, ?_⟩
    · rw [alike.coordinator, settled.slot]
    · rw [alike.embedder, settled.drawn]

theorem Stage.perform (expects : origin.Expects ticket outcome showing) (sound : page.Sound)
    (action : PageAction)
    (final : (page.perform action).2.selection.current = some ticket.key)
    (newest : ∀ later ∈ page.issuedBy action, later.key ≠ ticket.key)
    (same : ∀ event ∈ page.takenBy action, event.ticket = ticket → event.outcome = outcome)
    (stage : origin.Stage ticket showing taken page) :
    origin.Stage ticket showing (taken ++ page.takenBy action) (page.perform action).2 := by
  have shown := shown_before sound final newest
  cases page.course action with
  | activates descriptor found _ activation _ _ _ _ onShow performed =>
    rw [performed, (found.activate_touched descriptor).selection, onShow] at final
    rw [issuedBy_of_activation sound activation] at newest
    exact (newest _ (List.mem_singleton.mpr rfl) (Option.some.inj final)).elim
  | takes found _ _ intake _ before performed =>
    have events : page.takenBy action = found.queue := by simp [takenBy, intake]
    rw [performed, (found.process_kept action.time).selection] at final
    rw [events] at same ⊢
    rw [performed]
    have dequeued : found.Alike { found with queue := [] } := ⟨rfl, rfl, rfl, rfl, rfl, .same⟩
    have onShow : ({ found with queue := [] } : Page σ (ObservedEmbedder ε)).selection.current =
        some ticket.key := final
    rcases before with ⟨alike, -⟩ | ⟨-, hidden⟩
    · have reached := (stage.alike alike).alike dequeued
      exact reached.applyEvents expects onShow found.queue same action.time
    · rw [hidden] at final
      cases final
  | rests _ untaken _ alike _ =>
    have events : page.takenBy action = [] := by simp [takenBy, untaken]
    rw [events, List.append_nil]
    exact stage.alike alike

theorem shown_through (sound : page.Sound) {actions : List PageAction} {key : ViewKey}
    (final : (page.run actions).selection.current = some key)
    (newest : ∀ later ∈ page.along issuedBy actions, later.key ≠ key) :
    page.selection.current = some key := by
  induction actions generalizing page with
  | nil => exact final
  | cons action rest ih =>
    simp only [along, List.mem_append] at newest
    have next := ih (perform_sound page action sound) final fun later member =>
      newest later (.inr member)
    exact shown_before sound next fun later member => newest later (.inl member)

theorem Stage.run (expects : origin.Expects ticket outcome showing) (sound : page.Sound)
    (actions : List PageAction)
    (final : (page.run actions).selection.current = some ticket.key)
    (newest : ∀ later ∈ page.along issuedBy actions, later.key ≠ ticket.key)
    (same : ∀ event ∈ page.along takenBy actions, event.ticket = ticket → event.outcome = outcome)
    (stage : origin.Stage ticket showing taken page) :
    origin.Stage ticket showing (taken ++ page.along takenBy actions) (page.run actions) := by
  induction actions generalizing page taken with
  | nil => simpa [along, Page.run] using stage
  | cons action rest ih =>
    simp only [along, List.mem_append] at newest same
    have soundNext := perform_sound page action sound
    have shown := shown_through soundNext final fun later member => newest later (.inr member)
    have first := stage.perform expects sound action shown
      (fun later member => newest later (.inl member)) fun event member => same event (.inl member)
    have others := ih soundNext final (fun later member => newest later (.inr member))
      (fun event member => same event (.inr member)) first
    rw [List.append_assoc] at others
    exact others

omit [Embedder ε] [Backend σ] in
/-- A plan for a plot has the surface of its form. -/
theorem planned_surface {found : Page σ ε} {descriptor : ViewDescriptor}
    {plot : Option (Surface × List PlotArgument)}
    (plan : Coordinator.plotPlan descriptor (found.formFor descriptor) = .ok plot) :
    plot.map Prod.fst = found.surfaceFor descriptor := by
  unfold Coordinator.plotPlan at plan
  unfold surfaceFor
  cases fetch : descriptor.fetch with
  | table =>
    rw [fetch] at plan
    cases plan
    rfl
  | plot spec =>
    simp only [fetch, formFor, ViewDescriptor.kind] at plan ⊢
    cases known : found.forms.form descriptor.key with
    | error error => simp [known, Except.toOption, Option.filter] at plan
    | ok form =>
      by_cases own : form.key = descriptor.key
      · simp only [known, Except.toOption, Option.filter, own, beq_self_eq_true, if_true,
          Except.ok.injEq] at plan
        simp [← plan, Except.toOption]
      · simp [known, Except.toOption, Option.filter, own] at plan

/-- A request that is carried out has an outcome of the kind of its plan. -/
theorem exists_showing (ticket : Ticket) (scenario : ScenarioId)
    (plot : Option (Surface × List PlotArgument)) (answer : PlotResult → Except Fault Unit)
    (state : σ) : ∃ showing, showing? (plot.map Prod.fst) answer
      ((Coordinator.requestFor ticket scenario plot).execute state).1.outcome = some showing := by
  have ofRows (reply : Except Fault (List Row)) :
      ∃ showing, showing? (plot.map Prod.fst) answer (.ofRows reply) = some showing := by
    cases reply with
    | error fault => exact ⟨_, rfl⟩
    | ok rows => cases rows <;> exact ⟨_, rfl⟩
  cases plot with
  | none => exact ofRows _
  | some plot =>
    have ofDescription (reply : Except Fault PlotDescription) :
        ∃ showing, showing? (some plot.1) answer (.ofDescription reply) = some showing := by
      cases reply <;> exact ⟨_, rfl⟩
    exact ofDescription _

/-- The view of a fetch that was just started expects what its request comes to. -/
theorem exists_expects {page : Page (ObservedBackend σ) (ObservedEmbedder ε)} (sound : page.Sound)
    {action : PageAction} {request : FetchRequest} (state : σ)
    (issued : page.issuedBy action = [request.ticket])
    (started : (page.perform action).2.backend.calls.getLast? = some (.spawn request true)) :
    ∃ descriptor showing, page.catalog.resolve request.ticket.key = .ok descriptor ∧
      showing? ((page.perform action).2.surfaceFor descriptor) (page.perform action).2.answerOf
        (request.execute state).1.outcome = some showing ∧
      (page.perform action).2.Expects request.ticket (request.execute state).1.outcome showing := by
  cases page.course action with
  | activates descriptor found _ activation _ _ _ resolved _ performed =>
    obtain ⟨ready, -⟩ := activation_ready sound activation
    obtain ⟨plot, plan⟩ := exists_plan ready.shape ready.resolved
    have next : (page.perform action).2 = (found.activate descriptor).2 := by rw [performed]
    rw [next] at started ⊢
    have formed : (found.activate descriptor).2.surfaceFor descriptor = plot.map Prod.fst := by
      simp only [surfaceFor, (found.activate_touched descriptor).forms, planned_surface plan]
    rcases answer : Backend.spawn (found.planned descriptor plot) found.backend with
      ⟨fault | events, backend⟩
    · rw [activate_refused plan answer] at started
      simp [ObservedBackend.calls_of_refused answer] at started
    · have activated := activate_started plan answer
      have asked : found.planned descriptor plot = request := by
        rw [activated] at started
        simpa [ObservedBackend.calls_of_started answer] using started
      have named : request.ticket = found.nextTicket descriptor := by
        rw [← asked, planned_ticket]
      have slot : (found.activate descriptor).2.coordinator.slot request.ticket.key =
          (found.coordinator.slot descriptor.key).activate (plot.map Prod.fst) := by
        rw [activated, named]
        exact Coordinator.slot_putSlot_self _ _ _
      obtain ⟨showing, expected⟩ := exists_showing (found.nextTicket descriptor) found.scenario plot
        (found.activate descriptor).2.answerOf state
      have carriedOut : Coordinator.requestFor (found.nextTicket descriptor) found.scenario plot =
          request := asked
      rw [carriedOut] at expected
      refine ⟨descriptor, showing, ?_, ?_, ?_, ?_, ?_⟩
      · rw [named]
        exact resolved
      · rw [formed, expected]
      · rw [slot]
        rfl
      · rw [slot, named]
        rfl
      · rw [slot]
        exact expected
  | takes _ _ inactive =>
    rw [issuedBy_of_inactive inactive] at issued
    cases issued
  | rests inactive =>
    rw [issuedBy_of_inactive inactive] at issued
    cases issued

/-- By the end of a run the newest fetch of the view on show, which the backend started at one of
the actions, has come in, each time with the same outcome. -/
structure Answered (start : Page (ObservedBackend σ) (ObservedEmbedder ε))
    (before : List PageAction) (action : PageAction) (after : List PageAction)
    (request : FetchRequest) (outcome : FetchOutcome) : Prop where
  issued : (start.run before).issuedBy action = [request.ticket]
  started : ((start.run before).perform action).2.backend.calls.getLast? =
    some (.spawn request true)
  shown : (start.run (before ++ action :: after)).selection.current = some request.ticket.key
  newest : ∀ ticket ∈ ((start.run before).perform action).2.along issuedBy after,
    ticket.key ≠ request.ticket.key
  taken : ∃ event ∈ ((start.run before).perform action).2.along takenBy after,
    event.ticket = request.ticket
  same : ∀ event ∈ ((start.run before).perform action).2.along takenBy after,
    event.ticket = request.ticket → event.outcome = outcome

/-- Once the newest fetch of the view on show has come in, the view shows what the outcome of its
request comes to on the surface that its form gave at the activation, and a plot was drawn at most
once since. -/
theorem newest_fetch_shown (scenario : ScenarioId) (catalog : Catalog) (backend : σ) (embedder : ε)
    (before : List PageAction) (action : PageAction) (after : List PageAction)
    (request : FetchRequest) (state : σ)
    (answered : (enter scenario catalog backend embedder).observe.Answered before action after
      request (request.execute state).1.outcome) :
    let start := (enter scenario catalog backend embedder).observe
    let activated := start.run (before ++ [action])
    let page := start.run (before ++ action :: after)
    page.plain = (enter scenario catalog backend embedder).run (before ++ action :: after) ∧
      ∃ descriptor showing, catalog.resolve request.ticket.key = .ok descriptor ∧
        showing? (activated.surfaceFor descriptor) activated.answerOf
          (request.execute state).1.outcome = some showing ∧
        (∃ now, page.coordinator.slot? request.ticket.key = some (showing.slot request.ticket now)) ∧
        page.embedder.drawn = activated.embedder.drawn ++ showing.drawn := by
  intro start activated page
  have entered := enter_sound scenario catalog backend embedder
  have fresh : start.Sound := ⟨entered.pending_shown, entered.shown_listed, entered.shape⟩
  have sound : (start.run before).Sound := run_keeps perform_sound fresh before
  have next : activated = ((start.run before).perform action).2 := run_append start before [action]
  have reached : page = activated.run after := by
    rw [next]
    exact run_append start before (action :: after)
  have listed : (start.run before).catalog = catalog := by
    rw [run_catalog]
    exact (enter_alike scenario catalog backend embedder).catalog
  obtain ⟨issued, started, shown, newest, ⟨event, came, named⟩, same⟩ := answered
  obtain ⟨descriptor, showing, resolved, expected, expects⟩ :=
    exists_expects sound state issued started
  rw [← next] at newest came same expected expects
  refine ⟨run_plain _ _, descriptor, showing, ?_, expected, ?_⟩
  · rw [← listed, resolved]
  have stage : activated.Stage request.ticket showing [] activated :=
    .waits ⟨rfl, rfl⟩ (by simp)
  have soundNext : activated.Sound := run_keeps perform_sound fresh _
  have final : (activated.run after).selection.current = some request.ticket.key := by
    rw [← reached]
    exact shown
  have last := stage.run expects soundNext after final newest same
  rw [← reached, List.nil_append] at last
  cases last with
  | waits _ unanswered => exact (unanswered event came named).elim
  | shows now settled =>
    refine ⟨⟨now, ?_⟩, settled.drawn⟩
    have requested : (page.coordinator.slot request.ticket.key).status ≠ .notRequested := by
      rw [settled.slot]
      exact (showing_settled expected).2
    rw [Coordinator.slot?_of_requested requested, settled.slot]

/-- A plot that comes in after a stale table is drawn, and its view is ready. -/
theorem newest_fetch_shown_plot :
    let ticket : Ticket := ⟨.dispatchPlot, ⟨1⟩⟩
    let start := (enter ⟨7⟩ .standard ({ deferred := true } : ScriptedBackend)
      ({} : Recorder)).observe
    let page := start.run [.select .systemRps, .select .dispatchPlot,
      .deliver [⟨⟨.systemRps, ⟨1⟩⟩, .table []⟩, ⟨ticket, .plot ⟨.bool true⟩⟩], .process ⟨0⟩]
    ∃ showing : Showing, showing.status = .ready ∧
      (∃ now, page.coordinator.slot? .dispatchPlot = some (showing.slot ticket now)) ∧
      page.embedder.drawn = showing.drawn := by
  intro ticket start page
  let request : FetchRequest := .plot ticket ⟨7⟩ [none, none, some .unsetMaximum]
  let state : ScriptedBackend :=
    { replies := .ofList [(.dispatchPlot, [.description ⟨.bool true⟩])] }
  let after : List PageAction :=
    [.deliver [⟨⟨.systemRps, ⟨1⟩⟩, .table []⟩, ⟨ticket, .plot ⟨.bool true⟩⟩], .process ⟨0⟩]
  have answered : start.Answered [.select .systemRps] (.select .dispatchPlot) after request
      (request.execute state).1.outcome := by
    have taken : ((start.run [.select .systemRps]).perform (.select .dispatchPlot)).2.along takenBy
        after = [⟨⟨.systemRps, ⟨1⟩⟩, .table []⟩, ⟨ticket, .plot ⟨.bool true⟩⟩] := rfl
    refine ⟨rfl, rfl, rfl, ?_, ?_, ?_⟩
    · intro later member
      cases member
    · rw [taken]
      exact ⟨_, List.mem_cons_of_mem _ (List.mem_singleton.mpr rfl), rfl⟩
    · rw [taken]
      intro event member named
      rcases List.mem_cons.mp member with rfl | last
      · cases named
      · rw [List.mem_singleton.mp last]
        rfl
  obtain ⟨-, descriptor, showing, resolved, expected, slot, drawn⟩ :=
    newest_fetch_shown ⟨7⟩ .standard ({ deferred := true } : ScriptedBackend) ({} : Recorder)
      [.select .systemRps] (.select .dispatchPlot) after request state answered
  obtain rfl := Except.ok.inj resolved
  obtain rfl := Option.some.inj expected
  exact ⟨_, rfl, slot, drawn⟩

end

end ScenarioResults.Page
