import ScenarioResults.Page
import ScenarioResults.Proofs.Coordinator.Slots
import ScenarioResults.Proofs.Form.Shape

/-!
# What an activation and a completion do to a page

An activation whose plan succeeds gives out one ticket and starts one fetch, which the backend may
refuse. A completion that lands settles its slot, and a plot that is not empty is drawn; any other
completion changes nothing at all.
-/

namespace ScenarioResults

/-- The plot that is drawn once an outcome has come in for the pending activation. -/
def ViewSlot.draws? (slot : ViewSlot) : FetchOutcome → Option PlotResult
  | .plot description =>
    match slot.pendingSurface with
    | some surface => if description.isEmpty then none else some ⟨surface, description⟩
    | none => none
  | _ => none

namespace Page

variable {σ ε : Type}

theorem draws_eq_some {slot : ViewSlot} {outcome : FetchOutcome} {plot : PlotResult}
    (drawn : slot.draws? outcome = some plot) :
    outcome = .plot plot.description ∧ slot.pendingSurface = some plot.surface ∧
      ¬ plot.description.isEmpty := by
  unfold ViewSlot.draws? at drawn
  split at drawn
  next description =>
    split at drawn
    next surface pending =>
      split at drawn
      next => cases drawn
      next visible =>
        obtain rfl := Option.some.inj drawn
        exact ⟨rfl, pending, visible⟩
    next => cases drawn
  next => cases drawn

/-- What neither an activation nor a completion changes. -/
structure Fixed (page next : Page σ ε) : Prop where
  scenario : next.scenario = page.scenario
  catalog : next.catalog = page.catalog
  selection : next.selection = page.selection
  forms : next.forms = page.forms

/-- One slot was written, and no other. -/
structure Touched (page : Page σ ε) (key : ViewKey) (next : Page σ ε) : Prop
    extends page.Fixed next where
  frame : ∀ other, other ≠ key → next.coordinator.slot other = page.coordinator.slot other

/-! ### Activations -/

section

variable [Backend σ] {page : Page σ ε} {descriptor : ViewDescriptor}
  {plot : Option (Surface × List PlotArgument)}

/-- The ticket that an activation gives out. -/
def nextTicket (page : Page σ ε) (descriptor : ViewDescriptor) : Ticket :=
  ⟨descriptor.key, (page.coordinator.slot descriptor.key).generation.next⟩

/-- The request that an activation makes of its plan. -/
def planned (page : Page σ ε) (descriptor : ViewDescriptor)
    (plot : Option (Surface × List PlotArgument)) : FetchRequest :=
  Coordinator.requestFor (page.nextTicket descriptor) page.scenario plot

omit [Backend σ] in
@[simp] theorem planned_ticket (page : Page σ ε) (descriptor : ViewDescriptor)
    (plot : Option (Surface × List PlotArgument)) :
    (page.planned descriptor plot).ticket = page.nextTicket descriptor :=
  Coordinator.requestFor_ticket _ _ _

theorem activate_started {events : List FetchEvent} {backend : σ}
    (plan : Coordinator.plotPlan descriptor (page.formFor descriptor) = .ok plot)
    (started : Backend.spawn (page.planned descriptor plot) page.backend = (.ok events, backend)) :
    page.activate descriptor =
      ([.fetchIssued (page.planned descriptor plot).ticket],
        { page with
          coordinator := page.coordinator.putSlot descriptor.key
            ((page.coordinator.slot descriptor.key).activate (plot.map Prod.fst))
          backend, queue := page.queue ++ events }) := by
  unfold planned nextTicket at started ⊢
  simp only [activate, Coordinator.plan_of_ok page.scenario plan, started]

theorem activate_refused {fault : Fault} {backend : σ}
    (plan : Coordinator.plotPlan descriptor (page.formFor descriptor) = .ok plot)
    (refused : Backend.spawn (page.planned descriptor plot) page.backend = (.error fault, backend)) :
    page.activate descriptor =
      ([.fetchIssued (page.planned descriptor plot).ticket,
          .fetchFailed descriptor.key fault.message],
        { page with
          coordinator := (page.coordinator.putSlot descriptor.key
            ((page.coordinator.slot descriptor.key).activate (plot.map Prod.fst))).markFailed
              descriptor.key fault.message
          backend }) := by
  unfold planned nextTicket at refused ⊢
  simp only [activate, Coordinator.plan_of_ok page.scenario plan, refused]

theorem activate_unplanned {error : ViewError}
    (plan : Coordinator.plotPlan descriptor (page.formFor descriptor) = .error error) :
    page.activate descriptor =
      ([.fetchFailed descriptor.key error.message],
        { page with coordinator := page.coordinator.markFailed descriptor.key error.message }) := by
  simp only [activate, Coordinator.plan_of_error page.scenario plan]

theorem activate_touched (page : Page σ ε) (descriptor : ViewDescriptor) :
    page.Touched descriptor.key (page.activate descriptor).2 := by
  cases plan : Coordinator.plotPlan descriptor (page.formFor descriptor) with
  | error error =>
    rw [activate_unplanned plan]
    refine ⟨⟨rfl, rfl, rfl, rfl⟩, ?_⟩
    intro other different
    simp [Coordinator.slot_markFailed, different]
  | ok plot =>
    rcases answer : Backend.spawn (page.planned descriptor plot) page.backend with
      ⟨fault | events, backend⟩
    · rw [activate_refused plan answer]
      refine ⟨⟨rfl, rfl, rfl, rfl⟩, ?_⟩
      intro other different
      simp [Coordinator.slot_markFailed, Coordinator.slot_putSlot, different]
    · rw [activate_started plan answer]
      refine ⟨⟨rfl, rfl, rfl, rfl⟩, ?_⟩
      intro other different
      simp [Coordinator.slot_putSlot, different]

omit [Backend σ] in
/-- A plot that resolves is planned from the form that there is of it. -/
theorem exists_form_planned {spec : PlotSpec}
    (shape : page.forms.shape = (ParameterForms.ofCatalog page.catalog).shape)
    (resolved : page.catalog.resolve descriptor.key = .ok descriptor)
    (plot : descriptor.fetch = .plot spec) :
    ∃ form, page.forms.form descriptor.key = .ok form ∧
      Coordinator.plotPlan descriptor (page.formFor descriptor) =
        .ok (some (.ofValues spec form.currentValues, form.arguments)) := by
  obtain ⟨form, found, same⟩ := ParameterForms.exists_form_of_resolve shape resolved plot
  have known : page.formFor descriptor = some form := by
    simp [formFor, ViewDescriptor.kind, plot, found, Except.toOption]
  refine ⟨form, found, ?_⟩
  rw [known]
  exact Coordinator.plotPlan_form plot same

omit [Backend σ] in
/-- A view that resolves can be planned. -/
theorem exists_plan (shape : page.forms.shape = (ParameterForms.ofCatalog page.catalog).shape)
    (resolved : page.catalog.resolve descriptor.key = .ok descriptor) :
    ∃ plot, Coordinator.plotPlan descriptor (page.formFor descriptor) = .ok plot := by
  cases fetch : descriptor.fetch with
  | table => exact ⟨none, by simp only [Coordinator.plotPlan, fetch]⟩
  | plot spec =>
    obtain ⟨form, -, planned⟩ := exists_form_planned shape resolved fetch
    exact ⟨_, planned⟩

end

/-! ### Completions -/

section

variable [Embedder ε] {page : Page σ ε} {event : FetchEvent}

theorem applyEvent_of_not_lands
    (refused : ¬ page.coordinator.Lands event page.selection.current) (now : Instant) :
    page.applyEvent event now = (.completionDiscarded event.ticket, page) := by
  obtain ⟨reason, same⟩ := Coordinator.apply_of_not_lands refused now
  simp only [applyEvent, same]

/-- A completion with nothing to draw settles its slot and does no more. -/
theorem applyEvent_undrawn (lands : page.coordinator.Lands event page.selection.current)
    (undrawn : (page.coordinator.slot event.ticket.key).draws? event.outcome = none)
    (now : Instant) :
    (page.applyEvent event now).2 = { page with
      coordinator :=
        (page.coordinator.land (page.coordinator.slot event.ticket.key) event now).2 } := by
  simp only [applyEvent, Coordinator.apply_of_lands lands now]
  unfold ViewSlot.draws? at undrawn
  unfold Coordinator.land
  cases outcome : event.outcome with
  | failed message => rfl
  | table rows =>
    by_cases empty : TableResult.isEmpty ⟨rows⟩
    · simp [empty]
    · simp [empty]
  | plot description =>
    rw [outcome] at undrawn
    cases pending : (page.coordinator.slot event.ticket.key).pendingSurface with
    | none => rfl
    | some surface =>
      by_cases empty : description.isEmpty
      · simp [empty]
      · simp [pending, empty] at undrawn

/-- A plot that lands is drawn once, and a fault of the embedder takes it off the slot again. -/
theorem applyEvent_drawn {plot : PlotResult}
    (lands : page.coordinator.Lands event page.selection.current)
    (drawn : (page.coordinator.slot event.ticket.key).draws? event.outcome = some plot)
    (now : Instant) :
    (page.applyEvent event now).2 = match Embedder.embed plot page.embedder with
      | (.ok (), embedder) => { page with
          embedder
          coordinator := page.coordinator.putSlot event.ticket.key
            ((page.coordinator.slot event.ticket.key).settle (.plot plot) now) }
      | (.error fault, embedder) => { page with
          embedder
          coordinator := (page.coordinator.putSlot event.ticket.key
            ((page.coordinator.slot event.ticket.key).settle (.plot plot) now)).markFailed
              event.ticket.key (ViewError.embedding plot.surface.name fault.message).message } := by
  simp only [applyEvent, Coordinator.apply_of_lands lands now]
  unfold ViewSlot.draws? at drawn
  unfold Coordinator.land
  split at drawn
  next description outcome =>
    split at drawn
    next surface pending =>
      split at drawn
      next => cases drawn
      next visible =>
        obtain rfl := Option.some.inj drawn
        have stored : (page.coordinator.putSlot event.ticket.key
            ((page.coordinator.slot event.ticket.key).settle
              (.plot ⟨surface, description⟩) now)).plot? event.ticket.key =
            some ⟨surface, description⟩ := by
          simp [Coordinator.plot?, ViewSlot.settle]
        simp only [outcome, pending, visible, if_false, Bool.false_eq_true, bindPlot, stored]
        rcases Embedder.embed ⟨surface, description⟩ page.embedder with ⟨_ | _, embedder⟩ <;> rfl
    next => cases drawn
  next => cases drawn

/-- What is left of the page before a completion landed on it. -/
structure Landed (page : Page σ ε) (key : ViewKey) (next : Page σ ε) : Prop
    extends page.Touched key next where
  settled : (next.coordinator.slot key).status ≠ .pending
  generation : (next.coordinator.slot key).generation = (page.coordinator.slot key).generation
  backend : next.backend = page.backend

theorem applyEvent_of_lands (lands : page.coordinator.Lands event page.selection.current)
    (now : Instant) : page.Landed event.ticket.key (page.applyEvent event now).2 := by
  cases drawn : (page.coordinator.slot event.ticket.key).draws? event.outcome with
  | none =>
    rw [applyEvent_undrawn lands drawn now]
    have written := page.coordinator.slots_land (page.coordinator.slot event.ticket.key) event now
    refine ⟨⟨⟨rfl, rfl, rfl, rfl⟩, ?_⟩, ?_, ?_, rfl⟩
    · intro other different
      rw [written, if_neg different]
    · rw [written, if_pos rfl]
      exact ViewSlot.receive_not_pending _ _ _
    · rw [written, if_pos rfl, ViewSlot.receive_generation]
  | some plot =>
    rw [applyEvent_drawn lands drawn now]
    rcases Embedder.embed plot page.embedder with ⟨fault | _, embedder⟩
    · refine ⟨⟨⟨rfl, rfl, rfl, rfl⟩, ?_⟩, ?_, ?_, rfl⟩
      · intro other different
        simp [Coordinator.slot_markFailed, Coordinator.slot_putSlot, different]
      · simp [Coordinator.slot_markFailed, ViewSlot.fail]
      · simp [Coordinator.slot_markFailed, ViewSlot.fail, ViewSlot.settle]
    · refine ⟨⟨⟨rfl, rfl, rfl, rfl⟩, ?_⟩, ?_, ?_, rfl⟩
      · intro other different
        simp [Coordinator.slot_putSlot, different]
      · simpa using ViewSlot.settle_not_pending _ _ _
      · simp [ViewSlot.settle]

theorem process_of_empty {page : Page σ ε} (empty : page.queue = []) (now : Instant) :
    page.process now = ([], page) := by
  have same : ({ page with queue := [] } : Page σ ε) = page := by rw [← empty]
  unfold process
  rw [empty, same]
  rfl

/-- What every completion keeps, every list of completions keeps. -/
theorem applyEvents_keeps {kept : Page σ ε → Prop} {now : Instant}
    (step : ∀ page event, kept page → kept (page.applyEvent event now).2) {page : Page σ ε}
    (start : kept page) (events : List FetchEvent) : kept (applyEvents now events page).2 := by
  induction events generalizing page with
  | nil => exact start
  | cons event rest ih => exact ih (step page event start)

/-- What completions do not change, landed or not. -/
structure Kept (page next : Page σ ε) : Prop extends page.Fixed next where
  backend : next.backend = page.backend

theorem applyEvent_kept (page : Page σ ε) (event : FetchEvent) (now : Instant) :
    page.Kept (page.applyEvent event now).2 := by
  by_cases lands : page.coordinator.Lands event page.selection.current
  · have landed := applyEvent_of_lands lands now
    exact ⟨landed.toFixed, landed.backend⟩
  · rw [applyEvent_of_not_lands lands now]
    exact ⟨⟨rfl, rfl, rfl, rfl⟩, rfl⟩

theorem process_kept (page : Page σ ε) (now : Instant) : page.Kept (page.process now).2 := by
  have step (found : Page σ ε) (event : FetchEvent) (kept : page.Kept found) :
      page.Kept (found.applyEvent event now).2 := by
    have next := found.applyEvent_kept event now
    exact ⟨⟨next.scenario.trans kept.scenario, next.catalog.trans kept.catalog,
      next.selection.trans kept.selection, next.forms.trans kept.forms⟩,
      next.backend.trans kept.backend⟩
  have start : page.Kept { page with queue := [] } := ⟨⟨rfl, rfl, rfl, rfl⟩, rfl⟩
  exact applyEvents_keeps step start page.queue

end

end Page

end ScenarioResults
