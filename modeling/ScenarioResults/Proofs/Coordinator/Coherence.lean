import ScenarioResults.Proofs.Coordinator.Turn

/-!
# The fields of a slot go together

Each turn of a slot writes other fields, and only together they keep it coherent: unless it is pending
or failed, its status is the one that its payload calls for. This is why a view that is asked for anew
and then given up shows again what it showed before (`slots_coherent`).
-/

namespace ScenarioResults

/-- The status that goes with a payload while nothing is under way and nothing has failed. -/
inductive ViewStatus.Suits : ViewStatus → Option ViewPayload → Prop where
  | unrequested : Suits .notRequested none
  | void (payload : ViewPayload) (empty : payload.isEmpty) : Suits .empty (some payload)
  | visible (payload : ViewPayload) (full : ¬ payload.isEmpty) : Suits .ready (some payload)

/-- The status of a slot goes with its payload, there is a time of arrival exactly if there is a
payload, and there is a surface to draw on only while a plot is awaited. -/
structure ViewSlot.Coherent (slot : ViewSlot) : Prop where
  status : slot.status = .pending ∨ (∃ message, slot.status = .failed message) ∨
    slot.status.Suits slot.payload
  completed : slot.completed.isSome ↔ slot.payload.isSome
  surface : slot.pendingSurface.isSome → slot.status = .pending

namespace ViewSlot

variable {slot : ViewSlot}

/-- The status that a slot settles to is the one that its payload calls for, and no other is. -/
theorem suits_iff (slot : ViewSlot) (status : ViewStatus) :
    status.Suits slot.payload ↔ status = slot.settledStatus := by
  unfold settledStatus
  constructor
  · intro suits
    cases payload : slot.payload with
    | none =>
      rw [payload] at suits
      cases suits
      rfl
    | some held =>
      rw [payload] at suits
      cases suits with
      | void _ empty => simp [empty]
      | visible _ full => simp [full]
  · rintro rfl
    cases slot.payload with
    | none => exact .unrequested
    | some held =>
      by_cases empty : held.isEmpty
      · simpa [empty] using ViewStatus.Suits.void held empty
      · simpa [empty] using ViewStatus.Suits.visible held empty

theorem fresh_coherent : ({} : ViewSlot).Coherent :=
  ⟨.inr (.inr .unrequested), by simp, by simp⟩

theorem Coherent.activate (coherent : slot.Coherent) (surface : Option Surface) :
    (slot.activate surface).Coherent :=
  ⟨.inl rfl, coherent.completed, fun _ => rfl⟩

theorem Coherent.abandon (coherent : slot.Coherent) : slot.abandon.Coherent :=
  ⟨.inr (.inr ((slot.suits_iff _).mpr rfl)), coherent.completed, by simp [ViewSlot.abandon]⟩

theorem fail_coherent (slot : ViewSlot) (message : String) : (slot.fail message).Coherent :=
  ⟨.inr (.inl ⟨message, rfl⟩), by simp [fail], by simp [fail]⟩

theorem Coherent.reject (coherent : slot.Coherent) (message : String) :
    (slot.reject message).Coherent :=
  ⟨.inr (.inl ⟨message, rfl⟩), coherent.completed, by simp [ViewSlot.reject]⟩

theorem settle_coherent (slot : ViewSlot) (payload : ViewPayload) (now : Instant) :
    (slot.settle payload now).Coherent :=
  ⟨.inr (.inr (((slot.settle payload now).suits_iff _).mpr rfl)), by simp [settle], by simp [settle]⟩

theorem Coherent.receive (coherent : slot.Coherent) (now : Instant) (outcome : FetchOutcome) :
    (slot.receive now outcome).Coherent := by
  unfold ViewSlot.receive
  cases outcome with
  | failed message => exact slot.fail_coherent message
  | table rows => exact slot.settle_coherent (.table ⟨rows⟩) now
  | plot description =>
    cases slot.pendingSurface with
    | none => exact coherent.reject misplacedPlot
    | some surface => exact slot.settle_coherent (.plot ⟨surface, description⟩) now

/-- A coherent slot that is neither pending nor failed gets its status back when a plan is given up. -/
theorem Coherent.status_abandon_activate (coherent : slot.Coherent) (surface : Option Surface)
    (settled : slot.status ∈ [.notRequested, .ready, .empty]) :
    (slot.activate surface).abandon.status = slot.status := by
  have suits : slot.status.Suits slot.payload := by
    rcases coherent.status with pending | ⟨message, failed⟩ | suits
    · simp [pending] at settled
    · simp [failed] at settled
    · exact suits
  exact ((slot.suits_iff _).mp suits).symm

end ViewSlot

namespace Coordinator

theorem Turn.coherent {key : ViewKey} {slot next : ViewSlot} {listed : Option FetchedTable}
    (turn : Turn key slot listed next) (coherent : slot.Coherent) : next.Coherent := by
  cases turn with
  | stays => exact coherent
  | activated surface => exact coherent.activate surface
  | abandoned => exact coherent.abandon
  | failed message => exact slot.fail_coherent message
  | received now outcome => exact coherent.receive now outcome

theorem run_coherent {coordinator : Coordinator}
    (coherent : ∀ key, (coordinator.slot key).Coherent) (operations : List Operation) (key : ViewKey) :
    ((run operations coordinator).slot key).Coherent := by
  induction operations generalizing coordinator with
  | nil => exact coherent key
  | cons operation rest ih =>
    exact ih fun other => (coordinator.perform_turn operation other).coherent (coherent other)

/-- A view shows again what it showed before, and nothing else has changed. -/
structure Restores (before after : Coordinator) (key : ViewKey) : Prop where
  status : after.status key = before.status key
  payload : (after.slot key).payload = (before.slot key).payload
  completed : (after.slot key).completed = (before.slot key).completed
  others : ∀ other, other ≠ key → after.slot? other = before.slot? other
  fetched : after.fetched = before.fetched

/-- A plan that is given up again takes its ticket with it and leaves the view as it was. -/
theorem abandon_of_planned {coordinator planned : Coordinator} {descriptor : ViewDescriptor}
    {scenario : ScenarioId} {form : Option ParameterForm} {request : FetchRequest}
    (coherent : (coordinator.slot descriptor.key).Coherent)
    (settled : (coordinator.slot descriptor.key).status ∈ [.notRequested, .ready, .empty])
    (plan : coordinator.plan descriptor scenario form = (.ok request, planned)) :
    (planned.abandon descriptor.key).1 = some request.ticket ∧
      coordinator.Restores (planned.abandon descriptor.key).2 descriptor.key := by
  cases plotted : plotPlan descriptor form with
  | error error =>
    rw [plan_of_error scenario plotted] at plan
    cases plan
  | ok plot =>
    rw [plan_of_ok scenario plotted] at plan
    obtain ⟨asked, rfl⟩ := Prod.mk.inj plan
    obtain rfl := Except.ok.inj asked
    have written := coordinator.slot_putSlot_self descriptor.key
      ((coordinator.slot descriptor.key).activate (plot.map Prod.fst))
    rw [abandon_of_pending (by rw [written]; rfl), written]
    refine ⟨by rw [requestFor_ticket]; rfl, ?_, ?_, ?_, ?_, rfl⟩
    · simp only [status, slot_putSlot_self]
      exact coherent.status_abandon_activate _ settled
    · rw [slot_putSlot_self]
      rfl
    · rw [slot_putSlot_self]
      rfl
    · intro other different
      rw [slot?_putSlot_of_ne _ _ different, slot?_putSlot_of_ne _ _ different]

/-- After any operations every slot is coherent. So a view that shows a result, or nothing yet, shows
the same again once it has been planned anew and given up. -/
theorem slots_coherent (operations : List Operation) :
    let coordinator := run operations {}
    (∀ key slot, coordinator.slot? key = some slot → slot.Coherent) ∧
      ∀ descriptor scenario form request planned,
        (∀ slot, coordinator.slot? descriptor.key = some slot →
          slot.status ∈ [.notRequested, .ready, .empty]) →
        coordinator.plan descriptor scenario form = (.ok request, planned) →
        (planned.abandon descriptor.key).1 = some request.ticket ∧
          coordinator.Restores (planned.abandon descriptor.key).2 descriptor.key := by
  intro coordinator
  have fresh (key : ViewKey) : (({} : Coordinator).slot key).Coherent := ViewSlot.fresh_coherent
  have coherent := run_coherent fresh operations
  refine ⟨?_, ?_⟩
  · intro key slot found
    rw [← slot_of_slot? found]
    exact coherent key
  · intro descriptor scenario form request planned settled plan
    refine abandon_of_planned (coherent descriptor.key) ?_ plan
    cases found : coordinator.slot? descriptor.key with
    | none => simp [Coordinator.slot, found]
    | some slot =>
      rw [slot_of_slot? found]
      exact settled slot found

/-- A table that was shown is ready again after a refetch that was given up, and its time of arrival
is the one that it had. -/
theorem slots_coherent_refetched :
    let view := Catalog.table .systemRps "System RPS"
    let shown := run [.plan view ⟨7⟩ none,
      .apply ⟨⟨.systemRps, ⟨1⟩⟩, .table [[("period", .null)]]⟩ (some .systemRps) ⟨5⟩] {}
    let planned := (shown.plan view ⟨7⟩ none).2
    planned.status .systemRps = .pending ∧
      (planned.abandon .systemRps).2.status .systemRps = .ready ∧
      ((planned.abandon .systemRps).2.slot .systemRps).completed = some ⟨5⟩ ∧
      (planned.abandon .systemRps).1 = some ⟨.systemRps, ⟨2⟩⟩ := by
  intro view shown planned
  have ready : (shown.slot .systemRps).status = .ready := rfl
  have settled (slot : ViewSlot) (found : shown.slot? .systemRps = some slot) :
      slot.status ∈ [.notRequested, .ready, .empty] := by
    rw [← slot_of_slot? found, ready]
    decide
  obtain ⟨ticket, restores⟩ := (slots_coherent _).2 view ⟨7⟩ none _ planned settled rfl
  exact ⟨rfl, restores.status.trans ready, restores.completed, ticket⟩

end Coordinator

end ScenarioResults
