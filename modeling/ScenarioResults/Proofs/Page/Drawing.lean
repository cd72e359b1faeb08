import ScenarioResults.Backend.Scripted
import ScenarioResults.Embedder.Recorder
import ScenarioResults.Proofs.Page.Arrival
import ScenarioResults.Proofs.Page.Observed
import ScenarioResults.Proofs.Page.Pending
import ScenarioResults.Proofs.Page.Shown

/-!
# What is drawn, and when

The embedder is called for completions that the coordinator accepts, and for those only that answer a
plot and have something to show. What a run has decided is kept as a history: the surface planned for
each ticket, and the completions accepted. The calls of the embedder can be read off that history
(`drawn_as_accepted`). The slots carry it: while one is pending, its surface is the one that was
planned for its ticket, and the plot that it holds was drawn (`ViewSlot.Traced`).
-/

namespace ScenarioResults

/-- A plot drawn for a view. -/
structure Drawing where
  key : ViewKey
  plot : PlotResult

/-- What a page says once the embedder has answered. -/
def Drawing.report (drawing : Drawing) : Except Fault Unit → PageEvent
  | .ok () => .plotBound drawing.key drawing.plot.surface
  | .error fault => .embedFailed drawing.key
      (ViewError.embedding drawing.plot.surface.name fault.message).message

def PageEvent.isDrawing : PageEvent → Bool
  | .plotBound _ _ => true
  | .embedFailed _ _ => true
  | _ => false

@[simp] theorem Drawing.report_isDrawing (drawing : Drawing) (answer : Except Fault Unit) :
    (drawing.report answer).isDrawing = true := by
  cases answer <;> rfl

/-- An embedder with a record of what it was asked to draw and what it answered. -/
structure RecordedEmbedder (ε : Type) where
  inner : ε
  calls : List (PlotResult × Except Fault Unit) := []

instance {ε : Type} [Embedder ε] : Embedder (RecordedEmbedder ε) where
  embed plot embedder :=
    let (answer, inner) := Embedder.embed plot embedder.inner
    (answer, ⟨inner, embedder.calls ++ [(plot, answer)]⟩)

theorem RecordedEmbedder.inner_carries {ε : Type} [Embedder ε] :
    Embedder.Carries (RecordedEmbedder.inner (ε := ε)) := fun _ _ => rfl

theorem RecordedEmbedder.calls_embed {ε : Type} [Embedder ε] (plot : PlotResult)
    (embedder : RecordedEmbedder ε) :
    (Embedder.embed plot embedder).2.calls =
      embedder.calls ++ [(plot, (Embedder.embed plot embedder).1)] := rfl

/-! ### What the history of a run asks to be drawn -/

/-- The surface that was planned for a ticket, or a completion that was accepted. -/
inductive Decision where
  | planned (ticket : Ticket) (surface : Option Surface)
  | accepted (event : FetchEvent)

/-- What an accepted completion gives to draw on the surface that was planned for its ticket. -/
def FetchEvent.drawing? (event : FetchEvent) (surface : Option Surface) : Option Drawing :=
  match event.outcome, surface with
  | .plot description, some surface =>
    if description.isEmpty then none else some ⟨event.ticket.key, ⟨surface, description⟩⟩
  | _, _ => none

namespace Decision

/-- The plans made so far, the newest first. -/
abbrev Plans := List (Ticket × Option Surface)

def noted (plans : Plans) : List Decision → Plans
  | [] => plans
  | .planned ticket surface :: rest => noted ((ticket, surface) :: plans) rest
  | .accepted _ :: rest => noted plans rest

/-- What a history asks to be drawn, in order. There is no telling if a completion was accepted that
nothing was planned for. -/
def drawings? (plans : Plans) : List Decision → Option (List Drawing)
  | [] => some []
  | .planned ticket surface :: rest => drawings? ((ticket, surface) :: plans) rest
  | .accepted event :: rest =>
    match plans.lookup event.ticket with
    | none => none
    | some surface => (drawings? plans rest).map ((event.drawing? surface).toList ++ ·)

theorem drawings?_append {plans : Plans} {first second : List Decision}
    {drawn more : List Drawing} (asked : drawings? plans first = some drawn)
    (further : drawings? (noted plans first) second = some more) :
    drawings? plans (first ++ second) = some (drawn ++ more) := by
  induction first generalizing plans drawn with
  | nil =>
    cases asked
    exact further
  | cons decision rest ih =>
    cases decision with
    | planned ticket surface => exact ih asked further
    | accepted event =>
      simp only [drawings?] at asked
      split at asked
      next => cases asked
      next surface known =>
        obtain ⟨others, later, rfl⟩ := Option.map_eq_some_iff.mp asked
        simp only [List.cons_append, drawings?, known, ih later further, Option.map_some,
          List.append_assoc]

theorem noted_append (plans : Plans) (first second : List Decision) :
    noted plans (first ++ second) = noted (noted plans first) second := by
  induction first generalizing plans with
  | nil => rfl
  | cons decision rest ih => cases decision <;> exact ih _

end Decision

/-! ### What the slots keep of it -/

/-- While it is pending, the slot has the surface that was planned for its ticket. The plot that it
holds was drawn, unless there is nothing to show. -/
structure ViewSlot.Traced (slot : ViewSlot) (key : ViewKey) (plans : Decision.Plans)
    (calls : List (PlotResult × Except Fault Unit)) : Prop where
  planned : slot.status = .pending →
    plans.lookup ⟨key, slot.generation⟩ = some slot.pendingSurface
  drawn : ∀ plot, slot.payload = some (.plot plot) → ¬ plot.description.isEmpty →
    (plot, .ok ()) ∈ calls

namespace ViewSlot

variable {slot : ViewSlot} {key : ViewKey} {plans : Decision.Plans}
  {calls : List (PlotResult × Except Fault Unit)}

theorem fresh_traced (key : ViewKey) : ({} : ViewSlot).Traced key plans calls := by
  constructor <;> simp

theorem Traced.mono {more : List (PlotResult × Except Fault Unit)}
    (traced : slot.Traced key plans calls) : slot.Traced key plans (calls ++ more) := by
  refine ⟨traced.planned, ?_⟩
  intro plot held visible
  exact List.mem_append_left _ (traced.drawn plot held visible)

theorem Traced.noted {ticket : Ticket} {surface : Option Surface}
    (traced : slot.Traced key plans calls) (settled : slot.status ≠ .pending) :
    slot.Traced key ((ticket, surface) :: plans) calls :=
  ⟨fun pending => (settled pending).elim, traced.drawn⟩

theorem Traced.activate {surface : Option Surface} (traced : slot.Traced key plans calls) :
    (slot.activate surface).Traced key ((⟨key, slot.generation.next⟩, surface) :: plans) calls := by
  refine ⟨?_, traced.drawn⟩
  intro _
  simp [ViewSlot.activate]

theorem Traced.abandon (traced : slot.Traced key plans calls) :
    slot.abandon.Traced key plans calls :=
  ⟨fun pending => (slot.abandon_not_pending pending).elim, traced.drawn⟩

theorem fail_traced (slot : ViewSlot) (message : String) (key : ViewKey) :
    (slot.fail message).Traced key plans calls := by
  constructor <;> simp [fail]

theorem settle_table_traced (slot : ViewSlot) (table : TableResult) (now : Instant)
    (key : ViewKey) :
    (slot.settle (.table table) now).Traced key plans calls := by
  refine ⟨fun pending => (slot.settle_not_pending _ now pending).elim, ?_⟩
  intro plot held
  cases held

theorem settle_plot_traced (slot : ViewSlot) {plot : PlotResult} (now : Instant) (key : ViewKey)
    (drawn : ¬ plot.description.isEmpty → (plot, .ok ()) ∈ calls) :
    (slot.settle (.plot plot) now).Traced key plans calls := by
  refine ⟨fun pending => (slot.settle_not_pending _ now pending).elim, ?_⟩
  intro other held
  cases held
  exact drawn

theorem Traced.receive {outcome : FetchOutcome} {now : Instant}
    (traced : slot.Traced key plans calls)
    (undrawn : slot.draws? outcome = none) : (slot.receive now outcome).Traced key plans calls := by
  unfold ViewSlot.receive
  cases outcome with
  | failed message => exact slot.fail_traced message key
  | table rows => exact slot.settle_table_traced ⟨rows⟩ now key
  | plot description =>
    cases pending : slot.pendingSurface with
    | none => exact ⟨by simp [reject], traced.drawn⟩
    | some surface =>
      refine slot.settle_plot_traced now key ?_
      intro visible
      simp [draws?, pending, visible] at undrawn

end ViewSlot

/-- What a completion gives to draw is what its slot draws, if it has the surface of the plan. -/
theorem FetchEvent.drawing?_pending (event : FetchEvent) (slot : ViewSlot) :
    event.drawing? slot.pendingSurface =
      (slot.draws? event.outcome).map (Drawing.mk event.ticket.key) := by
  unfold FetchEvent.drawing? ViewSlot.draws?
  cases event.outcome with
  | failed message => cases slot.pendingSurface <;> rfl
  | table rows => cases slot.pendingSurface <;> rfl
  | plot description =>
    cases slot.pendingSurface with
    | none => rfl
    | some surface =>
      by_cases empty : description.isEmpty
      · simp [empty]
      · simp [empty]

namespace Coordinator

variable {coordinator : Coordinator} {plans : Decision.Plans}
  {calls : List (PlotResult × Except Fault Unit)}

def Traced (coordinator : Coordinator) (plans : Decision.Plans)
    (calls : List (PlotResult × Except Fault Unit)) : Prop :=
  ∀ key, (coordinator.slot key).Traced key plans calls

theorem traced_putSlot {key : ViewKey} {slot : ViewSlot} (own : slot.Traced key plans calls)
    (others : ∀ other, other ≠ key → (coordinator.slot other).Traced other plans calls) :
    (coordinator.putSlot key slot).Traced plans calls := by
  intro other
  rw [slot_putSlot]
  split
  next same =>
    rw [same]
    exact own
  next different => exact others other different

theorem traced_markFailed {key : ViewKey} (message : String)
    (others : ∀ other, other ≠ key → (coordinator.slot other).Traced other plans calls) :
    (coordinator.markFailed key message).Traced plans calls :=
  traced_putSlot ((coordinator.slot key).fail_traced message key) others

end Coordinator

namespace Page

variable {σ ε : Type}

/-! ### Completions -/

section

variable [Embedder ε]

omit [Embedder ε] in
/-- The completion, if the coordinator accepts it. -/
def acceptance (page : Page σ ε) (event : FetchEvent) (now : Instant) : List Decision :=
  if (page.coordinator.apply event page.selection.current now).1.isOk then [.accepted event] else []

/-- The completions that the coordinator accepts, of those that are applied one after the other. -/
def accepted (now : Instant) : List FetchEvent → Page σ ε → List Decision
  | [], _ => []
  | event :: rest, page =>
    page.acceptance event now ++ accepted now rest (page.applyEvent event now).2

omit [Embedder ε] in
theorem acceptance_of_lands {page : Page σ ε} {event : FetchEvent}
    (lands : page.coordinator.Lands event page.selection.current) (now : Instant) :
    page.acceptance event now = [.accepted event] :=
  if_pos (Coordinator.apply_isOk_iff.mpr lands)

omit [Embedder ε] in
theorem acceptance_of_not_lands {page : Page σ ε} {event : FetchEvent}
    (refused : ¬ page.coordinator.Lands event page.selection.current) (now : Instant) :
    page.acceptance event now = [] :=
  if_neg (mt Coordinator.apply_isOk_iff.mp refused)

theorem applyEvent_undrawn_answer {page : Page σ ε} {event : FetchEvent}
    (undrawn : (page.coordinator.slot event.ticket.key).draws? event.outcome = none)
    (now : Instant) : (page.applyEvent event now).1.isDrawing = false := by
  by_cases lands : page.coordinator.Lands event page.selection.current
  · simp only [applyEvent, Coordinator.apply_of_lands lands]
    unfold ViewSlot.draws? at undrawn
    unfold Coordinator.land
    cases outcome : event.outcome with
    | failed message => rfl
    | table rows => by_cases empty : TableResult.isEmpty ⟨rows⟩ <;> simp [empty, PageEvent.isDrawing]
    | plot description =>
      rw [outcome] at undrawn
      cases pending : (page.coordinator.slot event.ticket.key).pendingSurface with
      | none => rfl
      | some surface =>
        by_cases empty : description.isEmpty
        · simp [empty, PageEvent.isDrawing]
        · simp [pending, empty] at undrawn
  · rw [applyEvent_of_not_lands lands]
    rfl

theorem applyEvent_drawn_answer {page : Page σ ε} {event : FetchEvent} {plot : PlotResult}
    (lands : page.coordinator.Lands event page.selection.current)
    (drawn : (page.coordinator.slot event.ticket.key).draws? event.outcome = some plot)
    (now : Instant) : (page.applyEvent event now).1 =
      (Drawing.mk event.ticket.key plot).report (Embedder.embed plot page.embedder).1 := by
  obtain ⟨outcome, pending, visible⟩ := draws_eq_some drawn
  have stored : ((page.coordinator.slot event.ticket.key).settle (.plot plot) now).payload =
      some (.plot plot) := rfl
  simp only [applyEvent, Coordinator.apply_of_lands lands, Coordinator.land, outcome, pending,
    visible, if_false, Bool.false_eq_true, bindPlot, Coordinator.plot?,
    Coordinator.slot_putSlot_self, stored]
  rcases Embedder.embed plot page.embedder with ⟨_ | _, embedder⟩ <;> rfl

variable {page next last : Page σ (RecordedEmbedder ε)} {plans : Decision.Plans}

omit [Embedder ε] in
/-- What was drawn between two pages, each drawing once, and what was said of it. -/
def Drew (page next : Page σ (RecordedEmbedder ε)) (drawn : List Drawing)
    (told : List PageEvent) : Prop :=
  ∃ record : List (Drawing × Except Fault Unit), record.map Prod.fst = drawn ∧
    next.embedder.calls =
      page.embedder.calls ++ record.map (fun entry => (entry.1.plot, entry.2)) ∧
    told.filter PageEvent.isDrawing = record.map fun entry => entry.1.report entry.2

omit [Embedder ε] in
theorem Drew.append {drawn more : List Drawing} {told further : List PageEvent}
    (first : page.Drew next drawn told) (second : next.Drew last more further) :
    page.Drew last (drawn ++ more) (told ++ further) := by
  obtain ⟨record, rfl, calls, reports⟩ := first
  obtain ⟨others, rfl, others_calls, others_reports⟩ := second
  refine ⟨record ++ others, ?_, ?_, ?_⟩
  · rw [List.map_append]
  · rw [others_calls, calls, List.map_append, List.append_assoc]
  · rw [List.filter_append, reports, others_reports, List.map_append]

omit [Embedder ε] in
theorem drew_nothing {told : List PageEvent} (same : next.embedder = page.embedder)
    (silent : told.filter PageEvent.isDrawing = []) : page.Drew next [] told := by
  refine ⟨[], rfl, ?_, silent⟩
  rw [same, List.map_nil, List.append_nil]

/-- What was decided between two pages is what was drawn, and the slots keep trace of it. -/
structure Follows (plans : Decision.Plans) (page next : Page σ (RecordedEmbedder ε))
    (decided : List Decision) (told : List PageEvent) : Prop where
  traced : next.coordinator.Traced (Decision.noted plans decided) next.embedder.calls
  drew : ∃ drawn, Decision.drawings? plans decided = some drawn ∧ page.Drew next drawn told

omit [Embedder ε] in
theorem Follows.append {decided others : List Decision} {told further : List PageEvent}
    (first : Follows plans page next decided told)
    (second : Follows (Decision.noted plans decided) next last others further) :
    Follows plans page last (decided ++ others) (told ++ further) := by
  obtain ⟨drawn, asked, drew⟩ := first.drew
  obtain ⟨more, asked_more, drew_more⟩ := second.drew
  refine ⟨?_, drawn ++ more, Decision.drawings?_append asked asked_more, drew.append drew_more⟩
  rw [Decision.noted_append]
  exact second.traced

theorem applyEvent_follows (traced : page.coordinator.Traced plans page.embedder.calls)
    (event : FetchEvent) (now : Instant) : Follows plans page (page.applyEvent event now).2
      (page.acceptance event now)
      [(page.applyEvent event now).1] := by
  by_cases lands : page.coordinator.Lands event page.selection.current
  · have known := (traced event.ticket.key).planned lands.pending
    rw [lands.current] at known
    have asked : Decision.drawings? plans [.accepted event] = some
        (((page.coordinator.slot event.ticket.key).draws? event.outcome).map
          (Drawing.mk event.ticket.key)).toList := by
      simp [Decision.drawings?, known, event.drawing?_pending]
    rw [acceptance_of_lands lands]
    cases drawn : (page.coordinator.slot event.ticket.key).draws? event.outcome with
    | none =>
      have silent := applyEvent_undrawn_answer drawn now
      have landed := applyEvent_undrawn lands drawn now
      rw [drawn] at asked
      refine ⟨?_, [], asked, drew_nothing (by rw [landed]) (by simp [silent])⟩
      rw [landed]
      intro key
      rw [Coordinator.slots_land]
      split
      next same =>
        rw [same]
        exact (traced event.ticket.key).receive drawn
      next => exact traced key
    | some plot =>
      have told := applyEvent_drawn_answer lands drawn now
      have landed := applyEvent_drawn lands drawn now
      have recorded := RecordedEmbedder.calls_embed plot page.embedder
      rw [drawn] at asked
      rcases answer : Embedder.embed plot page.embedder with ⟨fault | _, embedder⟩
      · rw [answer] at told landed recorded
        refine ⟨?_, _, asked, [(⟨event.ticket.key, plot⟩, .error fault)], rfl, ?_, ?_⟩
        · rw [landed, recorded]
          refine Coordinator.traced_markFailed _ fun other different => ?_
          rw [Coordinator.slot_putSlot_of_ne _ _ different]
          exact (traced other).mono
        · rw [landed]
          exact recorded
        · rw [told]
          simp
      · rw [answer] at told landed recorded
        refine ⟨?_, _, asked, [(⟨event.ticket.key, plot⟩, .ok ())], rfl, ?_, ?_⟩
        · rw [landed, recorded]
          refine Coordinator.traced_putSlot (ViewSlot.settle_plot_traced _ _ _ ?_)
            fun other _ => (traced other).mono
          intro _
          exact List.mem_append_right _ (List.mem_singleton.mpr rfl)
        · rw [landed]
          exact recorded
        · rw [told]
          simp
  · rw [applyEvent_of_not_lands lands, acceptance_of_not_lands lands]
    exact ⟨traced, [], rfl, drew_nothing rfl rfl⟩

theorem applyEvents_cons (now : Instant) (event : FetchEvent) (rest : List FetchEvent)
    (page : Page σ ε) :
    applyEvents now (event :: rest) page =
      ((page.applyEvent event now).1 :: (applyEvents now rest (page.applyEvent event now).2).1,
        (applyEvents now rest (page.applyEvent event now).2).2) := rfl

theorem applyEvents_follows (traced : page.coordinator.Traced plans page.embedder.calls)
    (events : List FetchEvent) (now : Instant) : Follows plans page (applyEvents now events page).2
      (accepted now events page) (applyEvents now events page).1 := by
  induction events generalizing page plans with
  | nil => exact ⟨traced, [], rfl, drew_nothing rfl rfl⟩
  | cons event rest ih =>
    have first := applyEvent_follows traced event now
    exact first.append (ih first.traced)

end

/-! ### Actions -/

section

variable [Backend σ]

theorem activate_undrawn (page : Page σ ε) (descriptor : ViewDescriptor) :
    (page.activate descriptor).1.filter PageEvent.isDrawing = [] := by
  cases plan : Coordinator.plotPlan descriptor (page.formFor descriptor) with
  | error error =>
    rw [activate_unplanned plan]
    rfl
  | ok plot =>
    rcases answer : Backend.spawn (page.planned descriptor plot) page.backend with
      ⟨fault | events, backend⟩
    · rw [activate_refused plan answer]
      rfl
    · rw [activate_started plan answer]
      rfl

variable [Embedder ε]

/-- What an action answers. An action that is refused says nothing. -/
def answers (page : Page σ ε) (action : PageAction) : List PageEvent :=
  (page.perform action).1.toOption.getD []

theorem answers_of_select (page : Page σ ε) (key : ViewKey) :
    (page.answers (.select key)).filter PageEvent.isDrawing = [] := by
  unfold answers
  simp only [perform, select]
  cases page.catalog.resolve key with
  | error error => rfl
  | ok descriptor => exact activate_undrawn _ descriptor

theorem answers_of_setFilter (page : Page σ ε) (key : ViewKey) (filter : Filter)
    (value : Option FilterValue) :
    (page.answers (.setFilter key filter value)).filter PageEvent.isDrawing = [] := by
  unfold answers
  simp only [perform, setFilter]
  cases page.forms.setFilter key filter value with
  | error error => rfl
  | ok forms =>
    by_cases shown : page.selection.current = some key
    · simp only [shown, if_true]
      cases page.catalog.resolve key with
      | error error => rfl
      | ok descriptor => exact activate_undrawn _ descriptor
    · simp only [shown, if_false]
      rfl

/-- Only an action that takes completions says anything of drawings. -/
theorem answers_undrawn {page : Page σ ε} {action : PageAction}
    (untaken : page.intake? action = none) :
    (page.answers action).filter PageEvent.isDrawing = [] := by
  cases action with
  | select key => exact page.answers_of_select key
  | selectSlug raw =>
    unfold answers
    simp only [perform, selectSlug]
    cases page.catalog.resolveSlug raw with
    | error error => rfl
    | ok descriptor => exact page.answers_of_select descriptor.key
  | setFilter key filter value => exact page.answers_of_setFilter key filter value
  | setFilterRaw key filter raw =>
    unfold answers
    simp only [perform, setFilterRaw]
    cases filter.read raw with
    | error error => rfl
    | ok value => exact page.answers_of_setFilter key filter value
  | refresh =>
    unfold answers
    simp only [perform, refresh]
    cases page.selection.current with
    | none => rfl
    | some key =>
      dsimp only
      cases page.catalog.resolve key with
      | error error => rfl
      | ok descriptor => exact activate_undrawn _ descriptor
  | process now => cases untaken
  | wait now => cases untaken
  | leave now => cases untaken
  | loadOptions => rfl
  | subscribe => rfl
  | unsubscribe id => rfl
  | deliver events => rfl

theorem answers_taken {page found : Page σ ε} {action : PageAction}
    (taken : page.intake? action = some found) :
    (page.answers action).filter PageEvent.isDrawing =
      (found.process action.time).1.filter PageEvent.isDrawing := by
  cases action with
  | process now =>
    cases taken
    rfl
  | wait now =>
    cases taken
    rfl
  | leave now =>
    cases taken
    rfl
  | _ => cases taken

/-- The surface that a view is to be drawn on with its filters as they are. -/
def surfaceOf (page : Page σ ε) (key : ViewKey) : Option Surface :=
  (page.catalog.resolve key).toOption.bind page.surfaceFor

/-- What an action decides about drawings: the surface for the ticket that it issues, or which of
the completions that it takes are accepted. -/
def decisions (page : Page σ ε) (action : PageAction) : List Decision :=
  ((page.issuedBy action).map fun ticket =>
    .planned ticket ((page.perform action).2.surfaceOf ticket.key)) ++
  ((page.intake? action).map fun found =>
    accepted action.time found.queue { found with queue := [] }).getD []

omit [Embedder ε] in
theorem surfaceOf_activate {found : Page σ ε} {descriptor : ViewDescriptor}
    (ready : found.Ready descriptor) :
    (found.activate descriptor).2.surfaceOf descriptor.key = found.surfaceFor descriptor := by
  have touched := found.activate_touched descriptor
  unfold surfaceOf surfaceFor
  rw [touched.catalog, touched.forms, ready.resolved]
  rfl

omit [Embedder ε] in
theorem activate_embedder (page : Page σ ε) (descriptor : ViewDescriptor) :
    (page.activate descriptor).2.embedder = page.embedder := by
  cases plan : Coordinator.plotPlan descriptor (page.formFor descriptor) with
  | error error => rw [activate_unplanned plan]
  | ok plot =>
    rcases answer : Backend.spawn (page.planned descriptor plot) page.backend with
      ⟨fault | events, backend⟩
    · rw [activate_refused plan answer]
    · rw [activate_started plan answer]

variable {page : Page σ (RecordedEmbedder ε)} {plans : Decision.Plans}

omit [Embedder ε] in
theorem letGo_traced (traced : page.coordinator.Traced plans page.embedder.calls) :
    page.letGo.coordinator.Traced plans page.letGo.embedder.calls := by
  cases shown : page.selection.current with
  | none =>
    rw [letGo_of_none shown]
    exact traced
  | some key =>
    by_cases pending : page.status key = .pending
    · rw [letGo_of_pending shown pending]
      exact Coordinator.traced_putSlot (traced key).abandon fun other _ => traced other
    · rw [letGo_of_settled shown pending]
      exact traced

omit [Embedder ε] in
/-- The surface of an activation is the one that is planned for its ticket. -/
theorem activate_traced {descriptor : ViewDescriptor} (ready : page.Ready descriptor)
    (traced : page.coordinator.Traced plans page.embedder.calls) :
    (page.activate descriptor).2.coordinator.Traced
      ((page.nextTicket descriptor, page.surfaceFor descriptor) :: plans)
      (page.activate descriptor).2.embedder.calls := by
  obtain ⟨plot, plan⟩ := exists_plan ready.shape ready.resolved
  have others (other : ViewKey) : (page.coordinator.slot other).Traced other
      ((page.nextTicket descriptor, page.surfaceFor descriptor) :: plans) page.embedder.calls :=
    (traced other).noted (ready.idle other)
  rw [activate_embedder]
  rcases answer : Backend.spawn (page.planned descriptor plot) page.backend with
    ⟨fault | events, backend⟩
  · rw [activate_refused plan answer]
    refine Coordinator.traced_markFailed _ fun other different => ?_
    rw [Coordinator.slot_putSlot_of_ne _ _ different]
    exact others other
  · rw [activate_started plan answer, planned_surface plan]
    exact Coordinator.traced_putSlot (traced descriptor.key).activate fun other _ => others other

omit [Embedder ε] in
theorem letGo_embedder (page : Page σ ε) : page.letGo.embedder = page.embedder := by
  cases shown : page.selection.current with
  | none => rw [letGo_of_none shown]
  | some key => rw [letGo_of_shown shown, release_eq]

theorem decisions_of_activation {page found : Page σ ε} {action : PageAction}
    {descriptor : ViewDescriptor} (sound : page.Sound)
    (active : page.activation? action = some (descriptor, found)) :
    page.decisions action =
      [.planned (found.nextTicket descriptor) (found.surfaceFor descriptor)] := by
  cases page.course action with
  | activates _ _ _ activation untaken _ _ _ _ performed =>
    rw [active] at activation
    cases activation
    have placed := surfaceOf_activate (activation_ready sound active).1
    unfold decisions
    rw [issuedBy_of_activation sound active, untaken, performed, List.map_singleton]
    simp only [nextTicket, placed]
    rfl
  | takes _ _ inactive => simp [inactive] at active
  | rests inactive => simp [inactive] at active

theorem decisions_of_inactive {page : Page σ ε} {action : PageAction}
    (inactive : page.activation? action = none) :
    page.decisions action = ((page.intake? action).map fun found =>
      accepted action.time found.queue { found with queue := [] }).getD [] := by
  unfold decisions
  rw [issuedBy_of_inactive inactive]
  rfl

theorem perform_follows (sound : page.Sound)
    (traced : page.coordinator.Traced plans page.embedder.calls) (action : PageAction) :
    Follows plans page (page.perform action).2 (page.decisions action)
      (page.answers action) := by
  have letGone := page.letGo_embedder
  cases page.course action with
  | activates descriptor found _ activation untaken _ alike _ _ performed =>
    obtain ⟨ready, -⟩ := activation_ready sound activation
    have started : found.coordinator.Traced plans found.embedder.calls := by
      rw [alike.coordinator, alike.embedder]
      exact letGo_traced traced
    rw [decisions_of_activation sound activation]
    refine ⟨?_, [], rfl, drew_nothing ?_ (answers_undrawn untaken)⟩
    · rw [performed]
      exact activate_traced ready started
    · rw [performed, activate_embedder, alike.embedder, letGone]
  | takes found _ inactive intake _ before performed =>
    have same : found.coordinator.Traced plans found.embedder.calls ∧
        found.embedder = page.embedder := by
      rcases before with ⟨alike, -⟩ | ⟨alike, -⟩
      · rw [alike.coordinator, alike.embedder]
        exact ⟨traced, rfl⟩
      · rw [alike.coordinator, alike.embedder]
        exact ⟨letGo_traced traced, letGone⟩
    have dequeued : ({ found with queue := [] } : Page σ (RecordedEmbedder ε)).coordinator.Traced
        plans found.embedder.calls := same.1
    obtain ⟨next, drawn, asked, record, named, calls, reports⟩ :=
      applyEvents_follows dequeued found.queue action.time
    rw [decisions_of_inactive inactive, intake, performed]
    refine ⟨next, drawn, asked, record, named, ?_, ?_⟩
    · rw [← same.2]
      exact calls
    · rw [answers_taken intake]
      exact reports
  | rests inactive untaken _ alike _ =>
    rw [decisions_of_inactive inactive, untaken]
    refine ⟨?_, [], rfl, drew_nothing alike.embedder (answers_undrawn untaken)⟩
    rw [alike.coordinator, alike.embedder]
    exact traced

theorem run_follows (sound : page.Sound)
    (traced : page.coordinator.Traced plans page.embedder.calls) (actions : List PageAction) :
    Follows plans page (page.run actions) (page.along decisions actions)
      (page.along answers actions) := by
  induction actions generalizing page plans with
  | nil => exact ⟨traced, [], rfl, drew_nothing rfl rfl⟩
  | cons action rest ih =>
    have first := perform_follows sound traced action
    exact first.append (ih (perform_sound page action sound) first.traced)

/-! ### Drawings that fail -/

omit [Backend σ] in
/-- A drawing that failed leaves its view failed, whatever is taken after it. -/
theorem applyEvents_failed {page : Page σ ε} {events : List FetchEvent} {key : ViewKey}
    {message : String} {now : Instant} (told : .embedFailed key message ∈ (applyEvents now events page).1) :
    ((applyEvents now events page).2.coordinator.slot key).status = .failed message ∧
      ((applyEvents now events page).2.coordinator.slot key).payload = none := by
  induction events generalizing page with
  | nil => cases told
  | cons event rest ih =>
    rw [applyEvents_cons] at told ⊢
    rcases List.mem_cons.mp told with head | later
    · have drawing : (page.applyEvent event now).1.isDrawing = true := by
        rw [← head]
        rfl
      cases drawn : (page.coordinator.slot event.ticket.key).draws? event.outcome with
      | none =>
        rw [applyEvent_undrawn_answer drawn] at drawing
        cases drawing
      | some plot =>
        by_cases lands : page.coordinator.Lands event page.selection.current
        · rw [applyEvents_stale fun other _ => none_lands_after lands other,
            applyEvent_drawn lands drawn]
          rw [applyEvent_drawn_answer lands drawn] at head
          rcases answer : Embedder.embed plot page.embedder with ⟨fault | _, embedder⟩
          · rw [answer] at head
            obtain ⟨rfl, rfl⟩ := PageEvent.embedFailed.inj head
            simp [Coordinator.slot_markFailed, ViewSlot.fail]
          · rw [answer] at head
            cases head
        · rw [applyEvent_of_not_lands lands] at drawing
          cases drawing
    · exact ih later

theorem perform_failed {page : Page σ ε} {action : PageAction} {key : ViewKey} {message : String}
    (told : .embedFailed key message ∈ page.answers action) :
    (page.perform action).2.status key = .failed message ∧
      ((page.perform action).2.coordinator.slot key).payload = none := by
  have drawing : .embedFailed key message ∈ (page.answers action).filter PageEvent.isDrawing :=
    List.mem_filter.mpr ⟨told, rfl⟩
  cases page.course action with
  | activates _ _ _ _ untaken =>
    rw [answers_undrawn untaken] at drawing
    cases drawing
  | takes found _ _ intake _ _ performed =>
    rw [answers_taken intake] at drawing
    rw [performed]
    exact applyEvents_failed (List.mem_filter.mp drawing).1
  | rests _ untaken =>
    rw [answers_undrawn untaken] at drawing
    cases drawing

/-! ### Runs -/

omit [Backend σ] [Embedder ε] in
/-- A surface is planned for the views that are plots, and for no others. -/
theorem surfaceFor_isSome {page : Page σ ε} {descriptor : ViewDescriptor}
    (ready : page.Ready descriptor) :
    (page.surfaceFor descriptor).isSome = descriptor.plotSpec?.isSome := by
  obtain ⟨plot, plan⟩ := exists_plan ready.shape ready.resolved
  rw [← planned_surface plan]
  cases fetch : descriptor.fetch with
  | table =>
    simp only [Coordinator.plotPlan, fetch, Except.ok.injEq] at plan
    subst plan
    simp [ViewDescriptor.plotSpec?, fetch]
  | plot spec =>
    simp only [Coordinator.plotPlan, fetch] at plan
    simp only [ViewDescriptor.plotSpec?, fetch]
    split at plan
    · cases plan
    · cases plan
      rfl

omit [Backend σ] in
theorem planned_not_mem_accepted (events : List FetchEvent) (page : Page σ ε) (ticket : Ticket)
    (surface : Option Surface) (now : Instant) :
    .planned ticket surface ∉ accepted now events page := by
  induction events generalizing page with
  | nil => simp [accepted]
  | cons event rest ih =>
    intro member
    rcases List.mem_append.mp member with own | later
    · unfold acceptance at own
      split at own <;> simp at own
    · exact ih _ later

theorem planned_of_mem_decisions {page : Page σ ε} (sound : page.Sound) {action : PageAction}
    {ticket : Ticket} {surface : Option Surface}
    (member : .planned ticket surface ∈ page.decisions action) :
    ∃ descriptor, page.catalog.resolve ticket.key = .ok descriptor ∧
      surface.isSome = descriptor.plotSpec?.isSome := by
  cases active : page.activation? action with
  | none =>
    rw [decisions_of_inactive active] at member
    cases taken : page.intake? action with
    | none => simp [taken] at member
    | some found =>
      rw [taken] at member
      exact (planned_not_mem_accepted _ _ ticket surface _ member).elim
  | some activation =>
    obtain ⟨descriptor, found⟩ := activation
    obtain ⟨ready, alike⟩ := activation_ready sound active
    rw [decisions_of_activation sound active] at member
    obtain ⟨rfl, rfl⟩ := Decision.planned.inj (List.mem_singleton.mp member)
    have listed : found.catalog = page.catalog := by rw [alike.catalog, letGo_catalog]
    refine ⟨descriptor, ?_, surfaceFor_isSome ready⟩
    rw [← listed]
    exact ready.resolved

/-- A page over an embedder that is recorded from now on. -/
def recorded (page : Page σ ε) : Page σ (RecordedEmbedder ε) := page.carry id fun inner => { inner }

/-- The embedder is called once for every completion that is accepted for a plot and has something to
show, on the surface planned for its ticket, and for nothing else. The page tells of each call as it
was answered. A plot that a slot holds was drawn, and a drawing that fails leaves nothing. -/
theorem drawn_as_accepted (scenario : ScenarioId) (catalog : Catalog) (backend : σ) (embedder : ε)
    (actions : List PageAction) :
    let start := (enter scenario catalog backend embedder).recorded
    let page := start.run actions
    let history := start.along decisions actions
    page.carry id RecordedEmbedder.inner = (enter scenario catalog backend embedder).run actions ∧
      (∀ ticket surface, .planned ticket surface ∈ history → ∃ descriptor,
        catalog.resolve ticket.key = .ok descriptor ∧
          surface.isSome = descriptor.plotSpec?.isSome) ∧
      (∃ record : List (Drawing × Except Fault Unit),
        Decision.drawings? [] history = some (record.map Prod.fst) ∧
        page.embedder.calls = record.map (fun entry => (entry.1.plot, entry.2)) ∧
        (start.along answers actions).filter PageEvent.isDrawing =
          record.map fun entry => entry.1.report entry.2) ∧
      (∀ key plot, page.coordinator.plot? key = some plot → ¬ plot.description.isEmpty →
        (plot, .ok ()) ∈ page.embedder.calls) ∧
      ∀ action key message, .embedFailed key message ∈ page.answers action →
        (page.perform action).2.status key = .failed message ∧
          ((page.perform action).2.coordinator.slot key).payload = none := by
  intro start page history
  have entered := enter_sound scenario catalog backend embedder
  have alike := enter_alike scenario catalog backend embedder
  have sound : start.Sound := ⟨entered.pending_shown, entered.shown_listed, entered.shape⟩
  have blank : start.coordinator = {} := alike.coordinator
  have fresh : start.coordinator.Traced [] start.embedder.calls := by
    intro key
    rw [blank]
    exact ViewSlot.fresh_traced key
  obtain ⟨traced, _, asked, record, rfl, calls, reports⟩ := run_follows sound fresh actions
  have unchanged : Backend.Carries (id : σ → σ) :=
    ⟨fun _ _ => rfl, fun _ _ => rfl, fun _ _ => rfl, fun _ => rfl⟩
  refine ⟨(carry_run unchanged RecordedEmbedder.inner_carries start actions).symm, ?_,
    ⟨record, asked, calls, reports⟩, ?_, fun action key message => perform_failed⟩
  · intro ticket surface member
    have step (found : Page σ (RecordedEmbedder ε)) (action : PageAction)
        (kept : found.Sound ∧ found.catalog = catalog) :
        (found.perform action).2.Sound ∧ (found.perform action).2.catalog = catalog :=
      ⟨perform_sound found action kept.1, (perform_catalog found action).trans kept.2⟩
    have each (found : Page σ (RecordedEmbedder ε)) (action : PageAction)
        (kept : found.Sound ∧ found.catalog = catalog) :
        ∀ decision ∈ found.decisions action, ∀ ticket surface,
          decision = .planned ticket surface → ∃ descriptor,
            catalog.resolve ticket.key = .ok descriptor ∧
              surface.isSome = descriptor.plotSpec?.isSome := by
      rintro decision decided ticket surface rfl
      rw [← kept.2]
      exact planned_of_mem_decisions kept.1 decided
    exact along_forall step each ⟨sound, alike.catalog⟩ actions _ member ticket surface rfl
  · intro key plot held visible
    refine (traced key).drawn plot ?_ visible
    unfold Coordinator.plot? at held
    split at held
    next found =>
      cases held
      exact found
    next => cases held

/-- Of three plots that come in, one of them stale and one twice, one is drawn. It cannot be drawn,
and nothing of it is left. -/
theorem drawn_as_accepted_failed :
    let start := (enter ⟨7⟩ .standard ({ deferred := true } : ScriptedBackend)
      ({ fault := some (.of "no canvas") } : Recorder)).recorded
    let actions : List PageAction := [.select .energyPlot, .select .dispatchPlot,
      .deliver [⟨⟨.energyPlot, ⟨1⟩⟩, .plot ⟨.bool true⟩⟩,
        ⟨⟨.dispatchPlot, ⟨1⟩⟩, .plot ⟨.bool true⟩⟩, ⟨⟨.dispatchPlot, ⟨1⟩⟩, .plot ⟨.bool true⟩⟩]]
    let page := start.run actions
    let message := "embedding into dispatchPlot-~-~ failed: no canvas"
    (start.along answers (actions ++ [.process ⟨0⟩])).filter PageEvent.isDrawing =
        [.embedFailed .dispatchPlot message] ∧
      (start.run (actions ++ [.process ⟨0⟩])).embedder.calls.length = 1 ∧
      (page.perform (.process ⟨0⟩)).2.status .dispatchPlot = .failed message ∧
      ((page.perform (.process ⟨0⟩)).2.coordinator.slot .dispatchPlot).payload = none := by
  intro start actions page message
  have told : (start.along answers (actions ++ [.process ⟨0⟩])).filter PageEvent.isDrawing =
      [.embedFailed .dispatchPlot message] := by decide +kernel
  have answered : .embedFailed .dispatchPlot message ∈ page.answers (.process ⟨0⟩) := by decide +kernel
  obtain ⟨-, -, ⟨record, -, calls, reports⟩, -⟩ := drawn_as_accepted ⟨7⟩ .standard
    ({ deferred := true } : ScriptedBackend) ({ fault := some (.of "no canvas") } : Recorder)
    (actions ++ [.process ⟨0⟩])
  obtain ⟨-, -, -, -, failed⟩ := drawn_as_accepted ⟨7⟩ .standard
    ({ deferred := true } : ScriptedBackend) ({ fault := some (.of "no canvas") } : Recorder) actions
  refine ⟨told, ?_, failed (.process ⟨0⟩) .dispatchPlot message answered⟩
  have once := congrArg List.length (reports.symm.trans told)
  rw [calls, List.length_map]
  simpa using once

end

end Page

end ScenarioResults
