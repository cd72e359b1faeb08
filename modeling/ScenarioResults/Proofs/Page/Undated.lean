import ScenarioResults.Page

/-!
# The time at which completions land

When a completion lands is kept in its slot, and nothing reads it there. So a queue that is processed
later is answered alike and leaves the same page, but for the times that the slots have
(`process_undated`).
-/

namespace ScenarioResults

/-- The slot with any time that it has set to one and the same. -/
def ViewSlot.undated (slot : ViewSlot) : ViewSlot :=
  { slot with completed := slot.completed.map fun _ => ⟨0⟩ }

namespace Coordinator

def undated (coordinator : Coordinator) : Coordinator :=
  { coordinator with slots := coordinator.slots.map ViewSlot.undated }

theorem slot?_undated (coordinator : Coordinator) (key : ViewKey) :
    coordinator.undated.slot? key = (coordinator.slot? key).map ViewSlot.undated := rfl

theorem slot_undated (coordinator : Coordinator) (key : ViewKey) :
    coordinator.undated.slot key = (coordinator.slot key).undated := by
  rw [slot, slot, slot?_undated]
  cases coordinator.slot? key <;> rfl

theorem undated_putSlot (coordinator : Coordinator) (key : ViewKey) (slot : ViewSlot) :
    (coordinator.putSlot key slot).undated = coordinator.undated.putSlot key slot.undated := by
  have slots : (coordinator.slots.insert key slot).map ViewSlot.undated =
      (coordinator.slots.map ViewSlot.undated).insert key slot.undated := by
    ext1 other
    simp only [ViewMap.get?_map, ViewMap.insert]
    split <;> rfl
  simp only [putSlot, undated, slots]

theorem undated_markFailed (coordinator : Coordinator) (key : ViewKey) (message : String) :
    (coordinator.markFailed key message).undated = coordinator.undated.markFailed key message := by
  rw [markFailed, undated_putSlot, markFailed, slot_undated]
  rfl

theorem plot?_undated (coordinator : Coordinator) (key : ViewKey) :
    coordinator.undated.plot? key = coordinator.plot? key := by
  rw [plot?, plot?, slot_undated]
  rfl

theorem land_undated (coordinator : Coordinator) (slot : ViewSlot) (event : FetchEvent)
    (now : Instant) : coordinator.undated.land slot.undated event ⟨0⟩ =
      (coordinator.land slot event now).map id undated := by
  have surface : slot.undated.pendingSurface = slot.pendingSurface := rfl
  unfold land
  cases event.outcome with
  | failed message =>
    simp only [Prod.map, id, undated_putSlot]
    rfl
  | table rows =>
    simp only [Prod.map, id, undated_putSlot]
    rfl
  | plot description =>
    rw [surface]
    cases slot.pendingSurface with
    | none =>
      simp only [Prod.map, id, undated_putSlot]
      rfl
    | some surface =>
      simp only [Prod.map, id, undated_putSlot]
      rfl

theorem apply_undated (coordinator : Coordinator) (event : FetchEvent) (active : Option ViewKey)
    (now : Instant) : coordinator.undated.apply event active ⟨0⟩ =
      (coordinator.apply event active now).map id undated := by
  unfold apply
  rw [slot?_undated]
  cases coordinator.slot? event.ticket.key with
  | none => rfl
  | some slot =>
    have generation : slot.undated.generation = slot.generation := rfl
    have status : slot.undated.status = slot.status := rfl
    simp only [Option.map_some, generation, status, land_undated coordinator slot event now]
    split
    · rfl
    · split <;> rfl

end Coordinator

namespace Page

variable {σ ε : Type}

def undated (page : Page σ ε) : Page σ ε := { page with coordinator := page.coordinator.undated }

theorem status_undated (page : Page σ ε) (key : ViewKey) :
    page.undated.status key = page.status key := by
  simp only [status, Coordinator.status, undated, Coordinator.slot_undated]
  rfl

variable [Embedder ε]

theorem bindPlot_undated (page : Page σ ε) (key : ViewKey) (surface : Surface) :
    page.undated.bindPlot key surface = (page.bindPlot key surface).map id undated := by
  have plot : page.undated.coordinator.plot? key = page.coordinator.plot? key :=
    page.coordinator.plot?_undated key
  have embedder : page.undated.embedder = page.embedder := rfl
  simp only [bindPlot, plot, embedder]
  split
  · rfl
  · simp only [Prod.map, id, undated, Coordinator.undated_markFailed]

theorem applyEvent_undated (page : Page σ ε) (event : FetchEvent) (now : Instant) :
    page.undated.applyEvent event ⟨0⟩ = (page.applyEvent event now).map id undated := by
  have applied : page.undated.coordinator.apply event page.undated.selection.current ⟨0⟩ =
      (page.coordinator.apply event page.selection.current now).map id Coordinator.undated :=
    page.coordinator.apply_undated event page.selection.current now
  unfold applyEvent
  rw [applied]
  rcases page.coordinator.apply event page.selection.current now with
    ⟨discarded | applied, coordinator⟩
  · rfl
  · cases applied with
    | plot key surface => exact bindPlot_undated { page with coordinator } key surface
    | table key rows => rfl
    | empty key => rfl
    | failed key message => rfl

theorem applyEvents_undated (events : List FetchEvent) (page : Page σ ε) (now : Instant) :
    applyEvents ⟨0⟩ events page.undated = (applyEvents now events page).map id undated := by
  induction events generalizing page with
  | nil => rfl
  | cons event rest ih =>
    simp only [applyEvents, applyEvent_undated page event now, Prod.map, id, ih]

/-- Whenever a queue is processed, it is answered alike, and the page that is left is the same but for
the times. -/
theorem process_undated (page : Page σ ε) (now later : Instant) :
    (page.process now).map id undated = (page.process later).map id undated := by
  have first := applyEvents_undated page.queue { page with queue := [] } now
  have second := applyEvents_undated page.queue { page with queue := [] } later
  exact first.symm.trans second

end Page

end ScenarioResults
