import ScenarioResults.Proofs.Coordinator.History

/-!
# What an operation makes of a slot

Seen from one view, an operation leaves the slot alone or does one of four things to it, and only an
outcome that comes in can list a table. `perform_turn` and `perform_fetched` say this for all four
operations; what holds of every slot along a run is proved from them, one case for each turn.
-/

namespace ScenarioResults

/-- The table that is listed once an outcome has come in for the pending activation of a view. -/
def ViewSlot.lists? (slot : ViewSlot) (key : ViewKey) : FetchOutcome → Option FetchedTable
  | .table rows => some ⟨key, slot.generation, ⟨rows⟩⟩
  | _ => none

namespace Coordinator

/-- The table that a completion brought, if it landed: with its ticket and exactly its rows. -/
def Entry.listed? : Entry → Option FetchedTable
  | .applied ⟨ticket, .table rows⟩ _ (.ok _) => some ⟨ticket.key, ticket.generation, ⟨rows⟩⟩
  | _ => none

/-- What an operation makes of the slot of a view, and the table it lists for that view. -/
inductive Turn (key : ViewKey) (slot : ViewSlot) : Option FetchedTable → ViewSlot → Prop where
  | stays : Turn key slot none slot
  | activated (surface : Option Surface) : Turn key slot none (slot.activate surface)
  | abandoned (pending : slot.status = .pending) : Turn key slot none slot.abandon
  | failed (message : String) : Turn key slot none (slot.fail message)
  | received (now : Instant) (outcome : FetchOutcome) (pending : slot.status = .pending) :
      Turn key slot (slot.lists? key outcome) (slot.receive now outcome)

theorem fetched_land (coordinator : Coordinator) (slot : ViewSlot) (event : FetchEvent)
    (now : Instant) (current : slot.generation = event.ticket.generation) :
    (coordinator.land slot event now).2.fetched =
      coordinator.fetched ++ (slot.lists? event.ticket.key event.outcome).toList := by
  unfold land ViewSlot.lists?
  cases event.outcome with
  | failed message => simp
  | table rows => simp [current]
  | plot description => cases slot.pendingSurface <;> simp

/-- What a completion lists that lands is what it brings for the activation that it answers. -/
theorem listed_of_landed {slot : ViewSlot} {event : FetchEvent} {active : Option ViewKey}
    {applied : Applied} (current : slot.generation = event.ticket.generation) :
    (Entry.applied event active (.ok applied)).listed? =
      slot.lists? event.ticket.key event.outcome := by
  obtain ⟨ticket, outcome⟩ := event
  cases outcome with
  | failed message => rfl
  | table rows => simp only [Entry.listed?, ViewSlot.lists?, current]
  | plot description => rfl

theorem listed_of_discarded {event : FetchEvent} {active : Option ViewKey} {reason : Discarded} :
    (Entry.applied event active (.error reason)).listed? = none := by
  obtain ⟨ticket, outcome⟩ := event
  cases outcome <;> rfl

/-- The list of tables grows at its end only, by what a completion brought that landed. -/
theorem perform_fetched (coordinator : Coordinator) (operation : Operation) :
    (coordinator.perform operation).2.fetched =
      coordinator.fetched ++ (coordinator.perform operation).1.listed?.toList := by
  have step := coordinator.perform_step operation
  generalize coordinator.perform operation = performed at step ⊢
  cases step with
  | landed lands =>
    rw [listed_of_landed lands.current]
    exact fetched_land _ _ _ _ lands.current
  | discarded => simp [listed_of_discarded]
  | _ => simp [Entry.listed?]

theorem filter_lists (slot : ViewSlot) (key other : ViewKey) (outcome : FetchOutcome) :
    (slot.lists? key outcome).filter (fun entry => entry.key = other) =
      if other = key then slot.lists? key outcome else none := by
  by_cases same : other = key
  · subst same
    cases outcome <;> simp [ViewSlot.lists?, Option.filter]
  · cases outcome <;> simp [ViewSlot.lists?, Option.filter, same, Ne.symm same]

/-- Whatever is written to a slot, the slots of other views stay. -/
theorem turn_putSlot {coordinator : Coordinator} {written : ViewKey} {slot : ViewSlot}
    {listed : Option FetchedTable} (turn : Turn written (coordinator.slot written) listed slot)
    (key : ViewKey) :
    Turn key (coordinator.slot key) (if key = written then listed else none)
      ((coordinator.putSlot written slot).slot key) := by
  rw [slot_putSlot]
  by_cases same : key = written
  · subst same
    simpa using turn
  · simpa [same] using Turn.stays

/-- Every operation takes every slot through one turn. -/
theorem perform_turn (coordinator : Coordinator) (operation : Operation) (key : ViewKey) :
    Turn key (coordinator.slot key)
      ((coordinator.perform operation).1.listed?.filter fun entry => entry.key = key)
      ((coordinator.perform operation).2.slot key) := by
  have step := coordinator.perform_step operation
  generalize coordinator.perform operation = performed at step ⊢
  cases step with
  | unplanned => exact .stays
  | @planned descriptor scenario form plot =>
    have turn : Turn descriptor.key (coordinator.slot descriptor.key) none _ :=
      .activated (plot.map Prod.fst)
    simpa [Entry.listed?] using turn_putSlot turn key
  | @abandoned given pending =>
    have turn : Turn given (coordinator.slot given) none _ := .abandoned pending
    simpa [Entry.listed?] using turn_putSlot turn key
  | settled => exact .stays
  | @marked given message =>
    have turn : Turn given (coordinator.slot given) none _ := .failed message
    simpa [Entry.listed?] using turn_putSlot turn key
  | @landed event active now lands =>
    simp only [listed_of_landed lands.current, slots_land, filter_lists]
    by_cases same : key = event.ticket.key
    · subst same
      simpa using Turn.received now event.outcome lands.pending
    · simpa [same] using Turn.stays
  | discarded =>
    rw [listed_of_discarded]
    exact .stays

end Coordinator

end ScenarioResults
