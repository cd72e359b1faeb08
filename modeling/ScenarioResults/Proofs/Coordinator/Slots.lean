import ScenarioResults.Coordinator

/-!
# What each operation does to the slots

Every operation of a coordinator writes at most one slot. The lemmas here say which slot that is and
what is in it afterwards, so that no later proof opens an operation again. A view without a slot
counts as one with a fresh slot.
-/

namespace ScenarioResults

/-- The slot once an outcome has come in, now, for its pending activation. -/
def ViewSlot.receive (slot : ViewSlot) (now : Instant) : FetchOutcome → ViewSlot
  | .failed message => slot.fail message
  | .table rows => slot.settle (.table ⟨rows⟩) now
  | .plot description =>
    match slot.pendingSurface with
    | none => slot.reject misplacedPlot
    | some surface => slot.settle (.plot ⟨surface, description⟩) now

namespace ViewSlot

theorem settle_not_pending (slot : ViewSlot) (payload : ViewPayload) (now : Instant) :
    (slot.settle payload now).status ≠ .pending := by
  simp only [settle]
  split <;> simp

theorem receive_not_pending (slot : ViewSlot) (now : Instant) (outcome : FetchOutcome) :
    (slot.receive now outcome).status ≠ .pending := by
  unfold receive
  split
  · simp [fail]
  · exact slot.settle_not_pending _ _
  · split
    · simp [reject]
    · exact slot.settle_not_pending _ _

@[simp] theorem receive_generation (slot : ViewSlot) (now : Instant) (outcome : FetchOutcome) :
    (slot.receive now outcome).generation = slot.generation := by
  unfold receive
  split
  · rfl
  · rfl
  · split <;> rfl

theorem abandon_not_pending (slot : ViewSlot) : slot.abandon.status ≠ .pending := by
  simp only [abandon, settledStatus]
  split
  · simp
  · split <;> simp

end ViewSlot

namespace Coordinator

@[simp] theorem slot_fresh (key : ViewKey) : ({} : Coordinator).slot key = {} := rfl

theorem slot_of_slot? {coordinator : Coordinator} {key : ViewKey} {slot : ViewSlot}
    (found : coordinator.slot? key = some slot) : coordinator.slot key = slot := by
  simp [Coordinator.slot, found]

theorem slot?_of_requested {coordinator : Coordinator} {key : ViewKey}
    (requested : (coordinator.slot key).status ≠ .notRequested) :
    coordinator.slot? key = some (coordinator.slot key) := by
  cases found : coordinator.slot? key with
  | none => simp [Coordinator.slot, found] at requested
  | some slot => rw [slot_of_slot? found]

theorem slot?_of_pending {coordinator : Coordinator} {key : ViewKey}
    (pending : (coordinator.slot key).status = .pending) :
    coordinator.slot? key = some (coordinator.slot key) :=
  slot?_of_requested (by simp [pending])

@[simp] theorem slot_putSlot_self (coordinator : Coordinator) (key : ViewKey) (slot : ViewSlot) :
    (coordinator.putSlot key slot).slot key = slot := by
  simp [Coordinator.slot]

theorem slot_putSlot_of_ne (coordinator : Coordinator) {key other : ViewKey} (slot : ViewSlot)
    (different : other ≠ key) : (coordinator.putSlot key slot).slot other = coordinator.slot other := by
  simp [Coordinator.slot, different]

theorem slot_putSlot (coordinator : Coordinator) (key other : ViewKey) (slot : ViewSlot) :
    (coordinator.putSlot key slot).slot other =
      if other = key then slot else coordinator.slot other := by
  split
  next same => rw [same, slot_putSlot_self]
  next different => exact slot_putSlot_of_ne _ _ different

/-! ### Planning -/

/-- The request that a plan makes of a ticket. -/
def requestFor (ticket : Ticket) (scenario : ScenarioId) :
    Option (Surface × List PlotArgument) → FetchRequest
  | none => .table ticket scenario
  | some (_, arguments) => .plot ticket scenario arguments

@[simp] theorem requestFor_ticket (ticket : Ticket) (scenario : ScenarioId)
    (plot : Option (Surface × List PlotArgument)) :
    (requestFor ticket scenario plot).ticket = ticket := by
  cases plot <;> rfl

theorem plotPlan_form {descriptor : ViewDescriptor} {spec : PlotSpec} {form : ParameterForm}
    (plot : descriptor.fetch = .plot spec) (own : form.key = descriptor.key) :
    plotPlan descriptor (some form) =
      .ok (some (.ofValues spec form.currentValues, form.arguments)) := by
  have kept : (some form).filter (fun form => form.key == descriptor.key) = some form :=
    Option.filter_eq_some_iff.mpr ⟨rfl, beq_iff_eq.mpr own⟩
  simp only [plotPlan, plot, kept]

/-- A plan that succeeds gives out the next ticket of its view and activates the slot. -/
theorem plan_of_ok {coordinator : Coordinator} {descriptor : ViewDescriptor}
    {form : Option ParameterForm} {plot : Option (Surface × List PlotArgument)}
    (scenario : ScenarioId) (planned : plotPlan descriptor form = .ok plot) :
    coordinator.plan descriptor scenario form =
      (.ok (requestFor ⟨descriptor.key, (coordinator.slot descriptor.key).generation.next⟩
          scenario plot),
        coordinator.putSlot descriptor.key
          ((coordinator.slot descriptor.key).activate (plot.map Prod.fst))) := by
  unfold plan
  rw [planned]
  cases plot <;> rfl

/-- A plan that fails leaves the coordinator as it was. -/
theorem plan_of_error {coordinator : Coordinator} {descriptor : ViewDescriptor}
    {form : Option ParameterForm} {error : ViewError} (scenario : ScenarioId)
    (planned : plotPlan descriptor form = .error error) :
    coordinator.plan descriptor scenario form = (.error error, coordinator) := by
  unfold plan
  rw [planned]

/-! ### Giving up -/

theorem abandon_of_pending {coordinator : Coordinator} {key : ViewKey}
    (pending : (coordinator.slot key).status = .pending) :
    coordinator.abandon key = (some ⟨key, (coordinator.slot key).generation⟩,
      coordinator.putSlot key (coordinator.slot key).abandon) := by
  simp [Coordinator.abandon, slot?_of_pending pending, pending]

theorem abandon_of_settled {coordinator : Coordinator} {key : ViewKey}
    (settled : (coordinator.slot key).status ≠ .pending) :
    coordinator.abandon key = (none, coordinator) := by
  unfold Coordinator.abandon
  split
  next => rfl
  next slot found =>
    rw [slot_of_slot? found] at settled
    rw [if_neg settled]

/-! ### Completions -/

/-- The completion answers the pending activation of the view on show. -/
structure Lands (coordinator : Coordinator) (event : FetchEvent) (active : Option ViewKey) :
    Prop where
  pending : (coordinator.slot event.ticket.key).status = .pending
  current : (coordinator.slot event.ticket.key).generation = event.ticket.generation
  shown : active = some event.ticket.key

theorem slots_land (coordinator : Coordinator) (slot : ViewSlot) (event : FetchEvent)
    (now : Instant) (key : ViewKey) :
    (coordinator.land slot event now).2.slot key =
      if key = event.ticket.key then slot.receive now event.outcome else coordinator.slot key := by
  unfold land ViewSlot.receive
  cases event.outcome with
  | failed message => exact slot_putSlot _ _ _ _
  | table rows => exact slot_putSlot _ _ _ _
  | plot description =>
    cases slot.pendingSurface with
    | none => exact slot_putSlot _ _ _ _
    | some surface => exact slot_putSlot _ _ _ _

theorem apply_of_lands {coordinator : Coordinator} {event : FetchEvent} {active : Option ViewKey}
    (lands : coordinator.Lands event active) (now : Instant) :
    coordinator.apply event active now =
      (.ok (coordinator.land (coordinator.slot event.ticket.key) event now).1,
        (coordinator.land (coordinator.slot event.ticket.key) event now).2) := by
  unfold apply
  rw [slot?_of_pending lands.pending]
  simp [lands.pending, lands.current, lands.shown]

/-- A completion that does not land is discarded without a trace. -/
theorem apply_of_not_lands {coordinator : Coordinator} {event : FetchEvent}
    {active : Option ViewKey} (refused : ¬ coordinator.Lands event active) (now : Instant) :
    ∃ reason, coordinator.apply event active now = (.error reason, coordinator) := by
  unfold apply
  split
  next => exact ⟨_, rfl⟩
  next slot found =>
    split
    next => exact ⟨_, rfl⟩
    next current =>
      split
      next => exact ⟨_, rfl⟩
      next shown =>
        have same := slot_of_slot? found
        simp only [not_or, Decidable.not_not] at current shown
        exact (refused ⟨by rw [same]; exact current.2, by rw [same]; exact current.1, shown⟩).elim

theorem apply_isOk_iff {coordinator : Coordinator} {event : FetchEvent}
    {active : Option ViewKey} {now : Instant} :
    (coordinator.apply event active now).1.isOk ↔ coordinator.Lands event active := by
  constructor
  · intro accepted
    by_cases lands : coordinator.Lands event active
    · exact lands
    · obtain ⟨reason, same⟩ := apply_of_not_lands lands now
      rw [same] at accepted
      simp [Except.isOk, Except.toBool] at accepted
  · intro lands
    rw [apply_of_lands lands now]
    rfl

/-- Only a pending activation of a view that is not on show is called inactive. -/
theorem pending_of_inactive {coordinator : Coordinator} {event : FetchEvent}
    {active : Option ViewKey} {now : Instant}
    (inactive : (coordinator.apply event active now).1 = .error .inactive) :
    (coordinator.slot event.ticket.key).status = .pending ∧ active ≠ some event.ticket.key := by
  unfold apply at inactive
  split at inactive
  next => simp at inactive
  next slot found =>
    split at inactive
    next => simp at inactive
    next current =>
      rw [slot_of_slot? found]
      simp only [not_or, Decidable.not_not] at current
      split at inactive
      next shown => exact ⟨current.2, shown⟩
      next => simp at inactive

/-! ### Failures -/

theorem slot_markFailed (coordinator : Coordinator) (key other : ViewKey) (message : String) :
    (coordinator.markFailed key message).slot other =
      if other = key then (coordinator.slot key).fail message else coordinator.slot other :=
  slot_putSlot _ _ _ _

end Coordinator

end ScenarioResults
