import ScenarioResults.Duration
import ScenarioResults.Fetch
import ScenarioResults.Form
import ScenarioResults.ViewMap

/-!
# Coordinating fetches

Each view that was ever activated has a slot with its newest generation, its status and its last
result. A completion lands only if it answers the newest activation of the view on show and that
activation is still pending; every other one is discarded and changes nothing. Tables that land are
listed for good.
-/

namespace ScenarioResults

inductive ViewPayload where
  | table (table : TableResult)
  | plot (plot : PlotResult)

def ViewPayload.isEmpty : ViewPayload → Bool
  | .table result => result.isEmpty
  | .plot result => result.description.isEmpty

inductive ViewStatus where
  | notRequested
  | pending
  | ready
  | empty
  | failed (message : String)
  deriving DecidableEq, Repr, Inhabited

structure ViewSlot where
  generation : Generation := ⟨0⟩
  status : ViewStatus := .notRequested
  payload : Option ViewPayload := none
  /-- The surface of the plot that is pending. -/
  pendingSurface : Option Surface := none
  /-- When the payload arrived. A failure that loses the payload strikes this off. -/
  completed : Option Instant := none

structure FetchedTable where
  key : ViewKey
  generation : Generation
  table : TableResult

structure Coordinator where
  slots : ViewMap ViewSlot := .empty
  fetched : List FetchedTable := []

inductive Applied where
  | table (key : ViewKey) (rows : Nat)
  | plot (key : ViewKey) (surface : Surface)
  | empty (key : ViewKey)
  | failed (key : ViewKey) (message : String)
  deriving DecidableEq, Repr

inductive Discarded where
  | staleGeneration (current : Generation)
  | inactive
  deriving DecidableEq, Repr

namespace ViewSlot

def settledStatus (slot : ViewSlot) : ViewStatus :=
  match slot.payload with
  | none => .notRequested
  | some payload => if payload.isEmpty then .empty else .ready

/-- A new activation, with the surface to draw on if it is of a plot. -/
def activate (slot : ViewSlot) (surface : Option Surface) : ViewSlot :=
  { slot with generation := slot.generation.next, status := .pending, pendingSurface := surface }

/-- The activation given up: its ticket is void and the last result shows again. -/
def abandon (slot : ViewSlot) : ViewSlot :=
  { slot with
    generation := slot.generation.next, status := slot.settledStatus, pendingSurface := none }

def settle (slot : ViewSlot) (payload : ViewPayload) (now : Instant) : ViewSlot :=
  { slot with
    status := if payload.isEmpty then .empty else .ready
    payload := some payload
    pendingSurface := none
    completed := some now }

/-- A failure, which loses the last result. -/
def fail (slot : ViewSlot) (message : String) : ViewSlot :=
  { slot with
    status := .failed message, payload := none, pendingSurface := none, completed := none }

/-- A failure that leaves the last result where it is. -/
def reject (slot : ViewSlot) (message : String) : ViewSlot :=
  { slot with status := .failed message, pendingSurface := none }

end ViewSlot

def misplacedPlot : String := "plot completion arrived for a table activation"

namespace Coordinator

def slot? (coordinator : Coordinator) (key : ViewKey) : Option ViewSlot :=
  coordinator.slots.get? key

/-- The slot of a view, a fresh one if the view was never activated. -/
def slot (coordinator : Coordinator) (key : ViewKey) : ViewSlot := (coordinator.slot? key).getD {}

def putSlot (coordinator : Coordinator) (key : ViewKey) (slot : ViewSlot) : Coordinator :=
  { coordinator with slots := coordinator.slots.insert key slot }

/-- What a view is asked with, if it is a plot: the surface and the arguments from its form. -/
def plotPlan (descriptor : ViewDescriptor) (form : Option ParameterForm) :
    Except ViewError (Option (Surface × List PlotArgument)) :=
  match descriptor.fetch with
  | .table => .ok none
  | .plot spec =>
    match form.filter fun form => form.key == descriptor.key with
    | none => .error (.notAPlot descriptor.key)
    | some form => .ok (some (.ofValues spec form.currentValues, form.arguments))

def plan (coordinator : Coordinator) (descriptor : ViewDescriptor) (scenario : ScenarioId)
    (form : Option ParameterForm) : Except ViewError FetchRequest × Coordinator :=
  match plotPlan descriptor form with
  | .error error => (.error error, coordinator)
  | .ok plot =>
    let slot := (coordinator.slot descriptor.key).activate (plot.map Prod.fst)
    let ticket : Ticket := ⟨descriptor.key, slot.generation⟩
    let request := match plot with
      | none => .table ticket scenario
      | some (_, arguments) => .plot ticket scenario arguments
    (.ok request, coordinator.putSlot descriptor.key slot)

/-- The pending activation of a view given up. The answer is its ticket. -/
def abandon (coordinator : Coordinator) (key : ViewKey) : Option Ticket × Coordinator :=
  match coordinator.slot? key with
  | none => (none, coordinator)
  | some slot =>
    if slot.status = .pending then
      (some ⟨key, slot.generation⟩, coordinator.putSlot key slot.abandon)
    else (none, coordinator)

/-- A completion that lands now. -/
def land (coordinator : Coordinator) (slot : ViewSlot) (event : FetchEvent) (now : Instant) :
    Applied × Coordinator :=
  let key := event.ticket.key
  match event.outcome with
  | .failed message => (.failed key message, coordinator.putSlot key (slot.fail message))
  | .table rows =>
    let table : TableResult := ⟨rows⟩
    let entry : FetchedTable := ⟨key, event.ticket.generation, table⟩
    let listed := { coordinator with fetched := coordinator.fetched ++ [entry] }
    (if table.isEmpty then .empty key else .table key rows.length,
      listed.putSlot key (slot.settle (.table table) now))
  | .plot description =>
    match slot.pendingSurface with
    | none => (.failed key misplacedPlot, coordinator.putSlot key (slot.reject misplacedPlot))
    | some surface =>
      (if description.isEmpty then .empty key else .plot key surface,
        coordinator.putSlot key (slot.settle (.plot ⟨surface, description⟩) now))

def apply (coordinator : Coordinator) (event : FetchEvent) (active : Option ViewKey)
    (now : Instant) : Except Discarded Applied × Coordinator :=
  match coordinator.slot? event.ticket.key with
  | none => (.error (.staleGeneration ⟨0⟩), coordinator)
  | some slot =>
    if slot.generation ≠ event.ticket.generation ∨ slot.status ≠ .pending then
      (.error (.staleGeneration slot.generation), coordinator)
    else if active ≠ some event.ticket.key then (.error .inactive, coordinator)
    else
      let (applied, coordinator) := coordinator.land slot event now
      (.ok applied, coordinator)

def markFailed (coordinator : Coordinator) (key : ViewKey) (message : String) : Coordinator :=
  coordinator.putSlot key ((coordinator.slot key).fail message)

def status (coordinator : Coordinator) (key : ViewKey) : ViewStatus := (coordinator.slot key).status

def table? (coordinator : Coordinator) (key : ViewKey) : Option TableResult :=
  match (coordinator.slot key).payload with
  | some (.table table) => some table
  | _ => none

def plot? (coordinator : Coordinator) (key : ViewKey) : Option PlotResult :=
  match (coordinator.slot key).payload with
  | some (.plot plot) => some plot
  | _ => none

@[simp] theorem slot?_putSlot_self (coordinator : Coordinator) (key : ViewKey) (slot : ViewSlot) :
    (coordinator.putSlot key slot).slot? key = some slot := by
  simp [putSlot, slot?]

@[simp] theorem slot?_putSlot_of_ne (coordinator : Coordinator) {key other : ViewKey}
    (slot : ViewSlot) (different : other ≠ key) :
    (coordinator.putSlot key slot).slot? other = coordinator.slot? other := by
  simp [putSlot, slot?, different]

@[simp] theorem fetched_putSlot (coordinator : Coordinator) (key : ViewKey) (slot : ViewSlot) :
    (coordinator.putSlot key slot).fetched = coordinator.fetched := rfl

end Coordinator

end ScenarioResults
