import ScenarioResults.Proofs.Coordinator.Turn

/-!
# The list of fetched tables

The list keeps every table that ever landed, in the order of arrival, each under the ticket that it
answered (`fetched_exact`). `Logged` ties the tables of one view to its slot: a slot that waits is
newer than all of them, and a table that a slot still holds is the last one.
-/

namespace ScenarioResults

/-- The tables of a view, in the order in which they landed. -/
def Coordinator.tablesOf (coordinator : Coordinator) (key : ViewKey) : List FetchedTable :=
  coordinator.fetched.filter fun entry => entry.key = key

/-- How the tables listed for a view stand to its slot. -/
structure ViewSlot.Logged (slot : ViewSlot) (tables : List FetchedTable) : Prop where
  covered : ∀ entry ∈ tables, entry.generation.number ≤ slot.generation.number
  awaited : slot.status = .pending →
    ∀ entry ∈ tables, entry.generation.number < slot.generation.number
  increasing : tables.Pairwise fun earlier later =>
    earlier.generation.number < later.generation.number
  held : ∀ table, slot.payload = some (.table table) →
    tables.getLast?.map FetchedTable.table = some table

namespace ViewSlot

variable {slot : ViewSlot} {tables : List FetchedTable}

theorem fresh_logged : ({} : ViewSlot).Logged [] :=
  ⟨by simp, by simp, .nil, by simp⟩

theorem Logged.activate (logged : slot.Logged tables) (surface : Option Surface)
    (room : slot.generation.number < Text.maxWord) : (slot.activate surface).Logged tables := by
  have newer : ∀ entry ∈ tables,
      entry.generation.number < (slot.activate surface).generation.number := by
    intro entry member
    have covered := logged.covered entry member
    simp only [ViewSlot.activate, Generation.next_number room]
    omega
  exact ⟨fun entry member => Nat.le_of_lt (newer entry member), fun _ => newer, logged.increasing,
    logged.held⟩

theorem Logged.abandon (logged : slot.Logged tables)
    (room : slot.generation.number < Text.maxWord) : slot.abandon.Logged tables := by
  refine ⟨?_, fun pending => (slot.abandon_not_pending pending).elim, logged.increasing,
    logged.held⟩
  intro entry member
  have covered := logged.covered entry member
  simp only [ViewSlot.abandon, Generation.next_number room]
  omega

theorem Logged.unlisted {next : ViewSlot} (logged : slot.Logged tables)
    (current : next.generation = slot.generation) (settled : next.status ≠ .pending)
    (held : ∀ table, next.payload = some (.table table) → slot.payload = some (.table table)) :
    next.Logged tables := by
  refine ⟨?_, fun pending => (settled pending).elim, logged.increasing,
    fun table payload => logged.held table (held table payload)⟩
  rw [current]
  exact logged.covered

/-- A table that comes in is the newest one of its view. -/
theorem Logged.settle (logged : slot.Logged tables) (pending : slot.status = .pending)
    (key : ViewKey) (table : TableResult) (now : Instant) :
    (slot.settle (.table table) now).Logged (tables ++ [⟨key, slot.generation, table⟩]) := by
  have older := logged.awaited pending
  refine ⟨?_, fun still => (slot.settle_not_pending _ _ still).elim, ?_, ?_⟩
  · intro entry member
    rcases List.mem_append.mp member with old | new
    · exact logged.covered entry old
    · rw [List.mem_singleton.mp new]
      exact Nat.le_refl _
  · rw [List.pairwise_append]
    refine ⟨logged.increasing, List.pairwise_singleton _ _, ?_⟩
    intro earlier old later new
    rw [List.mem_singleton.mp new]
    exact older earlier old
  · intro other payload
    obtain rfl : table = other := by simpa [ViewSlot.settle] using payload
    simp

theorem Logged.receive (logged : slot.Logged tables) (pending : slot.status = .pending)
    (key : ViewKey) (now : Instant) (outcome : FetchOutcome) :
    (slot.receive now outcome).Logged (tables ++ (slot.lists? key outcome).toList) := by
  cases outcome with
  | table rows => exact logged.settle pending key ⟨rows⟩ now
  | failed message =>
    simp only [lists?, Option.toList_none, List.append_nil]
    exact logged.unlisted rfl (receive_not_pending _ _ _) (by simp [ViewSlot.receive, fail])
  | plot description =>
    simp only [lists?, Option.toList_none, List.append_nil]
    refine logged.unlisted (receive_generation _ _ _) (receive_not_pending _ _ _) ?_
    intro table payload
    -- A plot for which there is no surface leaves the table where it is, any other one replaces it.
    cases placed : slot.pendingSurface with
    | none => simpa [ViewSlot.receive, placed, reject] using payload
    | some surface => simp [ViewSlot.receive, placed, ViewSlot.settle] at payload

end ViewSlot

namespace Coordinator

theorem Turn.logged {key : ViewKey} {slot next : ViewSlot} {listed : Option FetchedTable}
    {tables : List FetchedTable} (turn : Turn key slot listed next) (logged : slot.Logged tables)
    (room : slot.generation.number < Text.maxWord) : next.Logged (tables ++ listed.toList) := by
  cases turn with
  | stays => simpa using logged
  | activated surface => simpa using logged.activate surface room
  | abandoned => simpa using logged.abandon room
  | failed message =>
    have unlisted : (slot.fail message).Logged tables :=
      logged.unlisted rfl (by simp [ViewSlot.fail]) (by simp [ViewSlot.fail])
    simpa using unlisted
  | received now outcome pending => exact logged.receive pending key now outcome

theorem tablesOf_perform (coordinator : Coordinator) (operation : Operation) (key : ViewKey) :
    (coordinator.perform operation).2.tablesOf key = coordinator.tablesOf key ++
      ((coordinator.perform operation).1.listed?.filter fun entry => entry.key = key).toList := by
  rw [tablesOf, perform_fetched, List.filter_append, Option.toList_filter]
  rfl

/-- Along a run the tables of every view stand to its slot as they should. -/
theorem run_logged {entries : List Entry} {count : Nat} {coordinator : Coordinator}
    (accounted : Accounted entries count coordinator)
    (logged : ∀ key, (coordinator.slot key).Logged (coordinator.tablesOf key))
    (operations : List Operation)
    (room : count + operations.countP Operation.advances < Text.maxWord) (key : ViewKey) :
    ((run operations coordinator).slot key).Logged ((run operations coordinator).tablesOf key) := by
  induction operations generalizing entries count coordinator with
  | nil => exact logged key
  | cons operation rest ih =>
    rw [advances_cons] at room
    have first := accounted.step (coordinator.perform_effect operation) fun _ => by omega
    refine ih first ?_ (by omega)
    intro other
    have bounded := accounted.bounded other
    rw [tablesOf_perform]
    exact (coordinator.perform_turn operation other).logged (logged other) (by omega)

theorem fetched_history (operations : List Operation) (coordinator : Coordinator) :
    (run operations coordinator).fetched =
      coordinator.fetched ++ (history operations coordinator).filterMap Entry.listed? := by
  induction operations generalizing coordinator with
  | nil => simp [run, history]
  | cons operation rest ih =>
    have later := ih (coordinator.perform operation).2
    rw [perform_fetched, List.append_assoc] at later
    rw [run, later, history]
    cases listed : (coordinator.perform operation).1.listed? <;> simp [listed]

/-- Of two entries of one view the later one is newer, if that is so for each view by itself. -/
theorem apart_of_increasing {coordinator : Coordinator}
    (increasing : ∀ key, (coordinator.tablesOf key).Pairwise fun earlier later =>
      earlier.generation.number < later.generation.number) :
    coordinator.fetched.Pairwise fun earlier later =>
      earlier.key = later.key → earlier.generation.number < later.generation.number := by
  rw [List.pairwise_iff_forall_sublist]
  intro earlier later pair same
  have kept := pair.filter fun entry => entry.key = later.key
  simp only [List.filter_cons, same, decide_true, if_true, List.filter_nil] at kept
  exact List.pairwise_iff_forall_sublist.mp (increasing later.key) kept

/-- Every operation of a run adds to the list what it brought, and nothing else ever changes it: one
entry for each table that lands, with its ticket and its rows. The tables of one view are ever newer,
so no ticket is listed twice, and a table that a slot holds is the last one of its view. -/
theorem fetched_exact (operations : List Operation)
    (few : operations.countP Operation.advances < Text.maxWord) :
    let coordinator := run operations {}
    coordinator.fetched = (history operations {}).filterMap Entry.listed? ∧
      (∀ before operation, (run (before ++ [operation]) {}).fetched =
        (run before {}).fetched ++ ((run before {}).perform operation).1.listed?.toList) ∧
      (coordinator.fetched.map fun entry => (⟨entry.key, entry.generation⟩ : Ticket)).Nodup ∧
      (∀ key, (coordinator.tablesOf key).Pairwise fun earlier later =>
        earlier.generation.number < later.generation.number) ∧
      ∀ key slot table, coordinator.slot? key = some slot →
        slot.payload = some (.table table) →
        (coordinator.tablesOf key).getLast?.map FetchedTable.table = some table := by
  intro coordinator
  have logged := run_logged fresh_accounted (fun _ => ViewSlot.fresh_logged) operations (by omega)
  have increasing (key : ViewKey) := (logged key).increasing
  refine ⟨?_, ?_, ?_, increasing, ?_⟩
  · simpa using fetched_history operations {}
  · intro before operation
    rw [run_append]
    exact perform_fetched _ _
  · rw [List.nodup_iff_pairwise_ne, List.pairwise_map]
    refine (apart_of_increasing increasing).imp ?_
    intro earlier later newer same
    obtain ⟨key, generation⟩ := Ticket.mk.inj same
    have less := newer key
    rw [generation] at less
    exact Nat.lt_irrefl _ less
  · intro key slot table found payload
    rw [← slot_of_slot? found] at payload
    exact (logged key).held table payload

/-- An empty table is listed like any other, and a completion that comes twice is listed once. -/
theorem fetched_exact_empty :
    let plan : Operation := .plan (Catalog.table .systemRps "System RPS") ⟨7⟩ none
    let answer (generation : Generation) (rows : List Row) : Operation :=
      .apply ⟨⟨.systemRps, generation⟩, .table rows⟩ (some .systemRps) ⟨0⟩
    let operations := [plan, answer ⟨1⟩ [[("period", .null)]], plan, answer ⟨2⟩ [], answer ⟨2⟩ []]
    operations.countP Operation.advances < Text.maxWord ∧
      (run operations {}).fetched.map FetchedTable.generation = [⟨1⟩, ⟨2⟩] ∧
      ((run operations {}).tablesOf .systemRps).getLast?.map FetchedTable.table = some ⟨[]⟩ := by
  intro plan answer operations
  have few : operations.countP Operation.advances < Text.maxWord := by decide
  obtain ⟨-, -, -, -, held⟩ := fetched_exact operations few
  exact ⟨few, rfl, held .systemRps _ ⟨[]⟩ rfl rfl⟩

end Coordinator

end ScenarioResults
