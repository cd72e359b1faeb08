import ScenarioResults.Proofs.Coordinator.Slots

/-!
# Which completions land

The operations of a coordinator, carried out one after the other from a fresh one, leave a history
of what was asked and answered. A ticket is open after a history if it is the one that the latest
successful plan of its view gave out and nothing has ended that activation since. `apply_isOk_iff_open`
states that a completion lands exactly if its ticket is open and its view is on show, for as long as
the count of generations lasts: so no ticket is given out twice, and none lands twice.
-/

namespace ScenarioResults.Coordinator

/-- An operation with what it is given. -/
inductive Operation where
  | plan (descriptor : ViewDescriptor) (scenario : ScenarioId) (form : Option ParameterForm)
  | abandon (key : ViewKey)
  | markFailed (key : ViewKey) (message : String)
  | apply (event : FetchEvent) (active : Option ViewKey) (now : Instant)

/-- An operation that was carried out, with its answer. -/
inductive Entry where
  | planned (descriptor : ViewDescriptor) (scenario : ScenarioId) (form : Option ParameterForm)
      (answer : Except ViewError FetchRequest)
  | abandoned (key : ViewKey) (answer : Option Ticket)
  | markedFailed (key : ViewKey) (message : String)
  | applied (event : FetchEvent) (active : Option ViewKey) (answer : Except Discarded Applied)

/-- Whether an operation can raise a generation. -/
def Operation.advances : Operation → Bool
  | .plan _ _ _ | .abandon _ => true
  | .markFailed _ _ | .apply _ _ _ => false

namespace Entry

/-- The ticket that a successful plan gave out. -/
def issued? : Entry → Option Ticket
  | .planned _ _ _ (.ok request) => some request.ticket
  | _ => none

/-- The ticket of a completion that landed. -/
def accepted? : Entry → Option Ticket
  | .applied event _ (.ok _) => some event.ticket
  | _ => none

/-- The view whose activation was given up, failed or answered. -/
def ended? : Entry → Option ViewKey
  | .abandoned key (some _) => some key
  | .markedFailed key _ => some key
  | .applied event _ (.ok _) => some event.ticket.key
  | _ => none

end Entry

def perform (coordinator : Coordinator) : Operation → Entry × Coordinator
  | .plan descriptor scenario form =>
    let (answer, next) := coordinator.plan descriptor scenario form
    (.planned descriptor scenario form answer, next)
  | .abandon key =>
    let (answer, next) := coordinator.abandon key
    (.abandoned key answer, next)
  | .markFailed key message => (.markedFailed key message, coordinator.markFailed key message)
  | .apply event active now =>
    let (answer, next) := coordinator.apply event active now
    (.applied event active answer, next)

def run : List Operation → Coordinator → Coordinator
  | [], coordinator => coordinator
  | operation :: rest, coordinator => run rest (coordinator.perform operation).2

/-- What was asked and answered along a run, in order. -/
def history : List Operation → Coordinator → List Entry
  | [], _ => []
  | operation :: rest, coordinator =>
    (coordinator.perform operation).1 :: history rest (coordinator.perform operation).2

theorem run_append (first second : List Operation) (coordinator : Coordinator) :
    run (first ++ second) coordinator = run second (run first coordinator) := by
  induction first generalizing coordinator with
  | nil => rfl
  | cons operation rest ih => exact ih _

theorem advances_cons (operation : Operation) (rest : List Operation) :
    (operation :: rest).countP Operation.advances =
      operation.advances.toNat + rest.countP Operation.advances := by
  cases advances : operation.advances <;> simp [advances, Nat.add_comm]

/-- The tickets given out, in order. -/
def issued (entries : List Entry) : List Ticket := entries.filterMap Entry.issued?

/-- The tickets of the completions that landed, in order. -/
def accepted (entries : List Entry) : List Ticket := entries.filterMap Entry.accepted?

/-- The latest successful plan of the ticket's view gave it out, and nothing has ended that
activation since. -/
def Open (entries : List Entry) (ticket : Ticket) : Prop :=
  ∃ before entry after, entries = before ++ entry :: after ∧ entry.issued? = some ticket ∧
    ∀ later ∈ after, (∀ other, later.issued? = some other → other.key ≠ ticket.key) ∧
      later.ended? ≠ some ticket.key

theorem not_open_nil (ticket : Ticket) : ¬ Open [] ticket := by
  rintro ⟨before, entry, after, same, -⟩
  simp at same

/-- One more entry opens the ticket it gives out and closes those of the views it writes. -/
theorem open_snoc {entries : List Entry} {entry : Entry} {ticket : Ticket} :
    Open (entries ++ [entry]) ticket ↔ entry.issued? = some ticket ∨
      Open entries ticket ∧ (∀ other, entry.issued? = some other → other.key ≠ ticket.key) ∧
        entry.ended? ≠ some ticket.key := by
  constructor
  · rintro ⟨before, first, after, same, issued, quiet⟩
    rcases List.eq_nil_or_concat after with rfl | ⟨rest, last, rfl⟩
    · obtain ⟨-, same⟩ := List.append_inj' same rfl
      obtain rfl : entry = first := by simpa using same
      exact .inl issued
    · rw [List.concat_eq_append, ← List.cons_append, ← List.append_assoc] at same
      obtain ⟨rfl, same⟩ := List.append_inj' same rfl
      obtain rfl : entry = last := by simpa using same
      refine .inr ⟨⟨before, first, rest, rfl, issued, ?_⟩, quiet entry (by simp)⟩
      intro later member
      exact quiet later (by simp [member])
  · rintro (issued | ⟨⟨before, first, after, rfl, issued, quiet⟩, last⟩)
    · exact ⟨entries, entry, [], rfl, issued, by simp⟩
    · refine ⟨before, first, after ++ [entry], by simp, issued, ?_⟩
      intro later member
      rcases List.mem_append.mp member with old | new
      · exact quiet later old
      · obtain rfl := List.mem_singleton.mp new
        exact last

/-! ### What an operation can do -/

/-- The ways in which an operation can go, with its entry and the coordinator after it. -/
inductive Step (coordinator : Coordinator) : Operation → Entry × Coordinator → Prop where
  | unplanned {descriptor : ViewDescriptor} {scenario : ScenarioId} {form : Option ParameterForm}
      {error : ViewError} (plan : plotPlan descriptor form = .error error) :
      Step coordinator (.plan descriptor scenario form)
        (.planned descriptor scenario form (.error error), coordinator)
  | planned {descriptor : ViewDescriptor} {scenario : ScenarioId} {form : Option ParameterForm}
      {plot : Option (Surface × List PlotArgument)} (plan : plotPlan descriptor form = .ok plot) :
      Step coordinator (.plan descriptor scenario form)
        (.planned descriptor scenario form (.ok (requestFor
            ⟨descriptor.key, (coordinator.slot descriptor.key).generation.next⟩ scenario plot)),
          coordinator.putSlot descriptor.key
            ((coordinator.slot descriptor.key).activate (plot.map Prod.fst)))
  | abandoned {key : ViewKey} (pending : (coordinator.slot key).status = .pending) :
      Step coordinator (.abandon key)
        (.abandoned key (some ⟨key, (coordinator.slot key).generation⟩),
          coordinator.putSlot key (coordinator.slot key).abandon)
  | settled {key : ViewKey} (settled : (coordinator.slot key).status ≠ .pending) :
      Step coordinator (.abandon key) (.abandoned key none, coordinator)
  | marked {key : ViewKey} {message : String} :
      Step coordinator (.markFailed key message) (.markedFailed key message,
        coordinator.putSlot key ((coordinator.slot key).fail message))
  | landed {event : FetchEvent} {active : Option ViewKey} {now : Instant}
      (lands : coordinator.Lands event active) :
      Step coordinator (.apply event active now)
        (.applied event active
            (.ok (coordinator.land (coordinator.slot event.ticket.key) event now).1),
          (coordinator.land (coordinator.slot event.ticket.key) event now).2)
  | discarded {event : FetchEvent} {active : Option ViewKey} {now : Instant} {reason : Discarded}
      (refused : ¬ coordinator.Lands event active) :
      Step coordinator (.apply event active now)
        (.applied event active (.error reason), coordinator)

theorem perform_step (coordinator : Coordinator) (operation : Operation) :
    coordinator.Step operation (coordinator.perform operation) := by
  cases operation with
  | plan descriptor scenario form =>
    simp only [perform]
    cases plan : plotPlan descriptor form with
    | error error =>
      rw [plan_of_error scenario plan]
      exact .unplanned plan
    | ok plot =>
      rw [plan_of_ok scenario plan]
      exact .planned plan
  | abandon key =>
    simp only [perform]
    by_cases pending : (coordinator.slot key).status = .pending
    · rw [abandon_of_pending pending]
      exact .abandoned pending
    · rw [abandon_of_settled pending]
      exact .settled pending
  | markFailed key message => exact .marked
  | apply event active now =>
    simp only [perform]
    by_cases lands : coordinator.Lands event active
    · rw [apply_of_lands lands now]
      exact .landed lands
    · obtain ⟨reason, same⟩ := apply_of_not_lands lands now
      rw [same]
      exact .discarded lands

/-- What one operation does, by its entry: it activates a slot and gives out a ticket, it ends an
activation, or it leaves everything as it was. -/
inductive Effect (coordinator : Coordinator) (operation : Operation) (entry : Entry)
    (next : Coordinator) : Prop where
  | issues (ticket : Ticket) (counted : operation.advances) (issued : entry.issued? = some ticket)
      (unended : entry.ended? = none) (unaccepted : entry.accepted? = none)
      (fresh : ticket.generation = (coordinator.slot ticket.key).generation.next)
      (pending : (next.slot ticket.key).status = .pending)
      (current : (next.slot ticket.key).generation = ticket.generation)
      (frame : ∀ key, key ≠ ticket.key → next.slot key = coordinator.slot key)
  | ends (key : ViewKey) (unissued : entry.issued? = none) (ended : entry.ended? = some key)
      (landed : ∀ ticket, entry.accepted? = some ticket → ticket.key = key ∧
        (coordinator.slot key).status = .pending ∧
        (coordinator.slot key).generation = ticket.generation)
      (settled : (next.slot key).status ≠ .pending)
      (raised : (next.slot key).generation = (coordinator.slot key).generation ∨
        operation.advances ∧ (next.slot key).generation = (coordinator.slot key).generation.next)
      (frame : ∀ other, other ≠ key → next.slot other = coordinator.slot other)
  | idle (unissued : entry.issued? = none) (unended : entry.ended? = none)
      (unaccepted : entry.accepted? = none) (same : next = coordinator)

theorem perform_effect (coordinator : Coordinator) (operation : Operation) :
    Effect coordinator operation (coordinator.perform operation).1
      (coordinator.perform operation).2 := by
  have step := coordinator.perform_step operation
  generalize coordinator.perform operation = performed at step ⊢
  cases step with
  | unplanned => exact .idle rfl rfl rfl rfl
  | @planned descriptor scenario form plot =>
    refine .issues ⟨descriptor.key, (coordinator.slot descriptor.key).generation.next⟩
      rfl ?_ rfl rfl rfl ?_ ?_ ?_
    · simp [Entry.issued?]
    · rw [slot_putSlot_self]
      rfl
    · rw [slot_putSlot_self]
      rfl
    · intro other different
      exact slot_putSlot_of_ne _ _ different
  | @abandoned key =>
    refine .ends key rfl rfl (by simp [Entry.accepted?]) ?_ (.inr ⟨rfl, ?_⟩) ?_
    · rw [slot_putSlot_self]
      exact ViewSlot.abandon_not_pending _
    · rw [slot_putSlot_self]
      rfl
    · intro other different
      exact slot_putSlot_of_ne _ _ different
  | settled => exact .idle rfl rfl rfl rfl
  | @marked key =>
    refine .ends key rfl rfl (by simp [Entry.accepted?]) ?_ (.inl ?_) ?_
    · simp [ViewSlot.fail]
    · rw [slot_putSlot_self]
      rfl
    · intro other different
      exact slot_putSlot_of_ne _ _ different
  | @landed event active now lands =>
    have written := coordinator.slots_land (coordinator.slot event.ticket.key) event now
    refine .ends event.ticket.key rfl rfl ?_ ?_ (.inl ?_) ?_
    · intro ticket landed
      obtain rfl : event.ticket = ticket := Option.some.inj landed
      exact ⟨rfl, lands.pending, lands.current⟩
    · rw [written, if_pos rfl]
      exact ViewSlot.receive_not_pending _ _ _
    · rw [written, if_pos rfl, ViewSlot.receive_generation]
    · intro other different
      rw [written, if_neg different]
  | discarded => exact .idle rfl rfl rfl rfl

/-! ### What a history says of the slots -/

/-- How a coordinator stands to its history, in which `count` operations could raise a generation:
a slot is pending exactly if the ticket it waits for is open, and all tickets given out for its view
are at most as new. -/
structure Accounted (entries : List Entry) (count : Nat) (coordinator : Coordinator) : Prop where
  bounded : ∀ key, (coordinator.slot key).generation.number ≤ count
  open_iff : ∀ ticket, Open entries ticket ↔ (coordinator.slot ticket.key).status = .pending ∧
    (coordinator.slot ticket.key).generation = ticket.generation
  issued_range : ∀ ticket ∈ issued entries, 1 ≤ ticket.generation.number ∧
    ticket.generation.number ≤ (coordinator.slot ticket.key).generation.number
  increasing : (issued entries).Pairwise fun earlier later =>
    earlier.key = later.key → earlier.generation.number < later.generation.number
  accepted_closed : ∀ ticket ∈ accepted entries, ticket ∈ issued entries ∧ ¬ Open entries ticket
  accepted_once : (accepted entries).Nodup

theorem fresh_accounted : Accounted [] 0 {} where
  bounded key := by simp
  open_iff ticket := by simp [not_open_nil]
  issued_range := by simp [issued]
  increasing := by simp [issued]
  accepted_closed := by simp [accepted]
  accepted_once := by simp [accepted]

theorem issued_snoc (entries : List Entry) (entry : Entry) :
    issued (entries ++ [entry]) = issued entries ++ entry.issued?.toList := by
  cases given : entry.issued? <;> simp [issued, given]

theorem accepted_snoc (entries : List Entry) (entry : Entry) :
    accepted (entries ++ [entry]) = accepted entries ++ entry.accepted?.toList := by
  cases given : entry.accepted? <;> simp [accepted, given]

/-- An operation leaves a generation as it is or raises it by one step. -/
theorem Effect.generation {coordinator next : Coordinator} {operation : Operation}
    {entry : Entry} (effect : Effect coordinator operation entry next) (key : ViewKey) :
    (next.slot key).generation = (coordinator.slot key).generation ∨
      operation.advances ∧
        (next.slot key).generation = (coordinator.slot key).generation.next := by
  cases effect with
  | issues ticket counted _ _ _ fresh _ current frame =>
    by_cases same : key = ticket.key
    · rw [same]
      exact .inr ⟨counted, current.trans fresh⟩
    · exact .inl (by rw [frame key same])
  | ends ended _ _ _ _ raised frame =>
    by_cases same : key = ended
    · rw [same]
      exact raised
    · exact .inl (by rw [frame key same])
  | idle _ _ _ same => exact .inl (by rw [same])

/-- While the count lasts, a generation grows by at most one for an operation that counts. -/
theorem Effect.generation_bounds {coordinator next : Coordinator} {operation : Operation}
    {entry : Entry} (effect : Effect coordinator operation entry next) (key : ViewKey)
    (room : operation.advances → (coordinator.slot key).generation.number < Text.maxWord) :
    (coordinator.slot key).generation.number ≤ (next.slot key).generation.number ∧
      (next.slot key).generation.number ≤
        (coordinator.slot key).generation.number + operation.advances.toNat := by
  rcases effect.generation key with kept | ⟨counted, raised⟩
  · rw [kept]
    omega
  · rw [raised, Generation.next_number (room counted), counted]
    exact ⟨Nat.le_succ _, Nat.le_refl _⟩

theorem Effect.open_iff {coordinator next : Coordinator} {operation : Operation} {entry : Entry}
    {entries : List Entry} {count : Nat} (effect : Effect coordinator operation entry next)
    (accounted : Accounted entries count coordinator) (ticket : Ticket) :
    Open (entries ++ [entry]) ticket ↔ (next.slot ticket.key).status = .pending ∧
      (next.slot ticket.key).generation = ticket.generation := by
  rw [open_snoc, accounted.open_iff]
  cases effect with
  | issues given _ issued unended _ _ pending current frame =>
    rw [issued, unended]
    by_cases same : ticket.key = given.key
    · rw [same, pending, current]
      constructor
      · rintro (equal | ⟨-, apart, -⟩)
        · obtain rfl := Option.some.inj equal
          exact ⟨rfl, rfl⟩
        · exact (apart given rfl rfl).elim
      · rintro ⟨-, generation⟩
        exact .inl (congrArg some (Ticket.ext same.symm generation))
    · rw [frame _ same]
      constructor
      · rintro (equal | ⟨old, -, -⟩)
        · exact (same (congrArg Ticket.key (Option.some.inj equal)).symm).elim
        · exact old
      · intro old
        refine .inr ⟨old, ?_, by simp⟩
        intro other equal
        obtain rfl := Option.some.inj equal
        exact Ne.symm same
  | ends key unissued ended _ settled _ frame =>
    rw [unissued, ended]
    by_cases same : ticket.key = key
    · rw [same]
      simp [settled]
    · rw [frame _ same]
      simp [Ne.symm same]
  | idle unissued unended _ unchanged =>
    rw [unissued, unended, unchanged]
    simp

/-- A ticket that an operation gives out is one step newer than its slot was. -/
theorem Effect.fresh {coordinator next : Coordinator} {operation : Operation} {entry : Entry}
    {ticket : Ticket} (effect : Effect coordinator operation entry next)
    (given : entry.issued? = some ticket) :
    operation.advances ∧
      ticket.generation = (coordinator.slot ticket.key).generation.next ∧
      (next.slot ticket.key).generation = ticket.generation := by
  cases effect with
  | issues other counted issued _ _ fresh _ current _ =>
    obtain rfl : other = ticket := Option.some.inj (issued.symm.trans given)
    exact ⟨counted, fresh, current⟩
  | ends _ unissued => rw [unissued] at given; cases given
  | idle unissued => rw [unissued] at given; cases given

/-- A completion lands on an open ticket and closes it. -/
theorem Effect.landed {coordinator next : Coordinator} {operation : Operation} {entry : Entry}
    {entries : List Entry} {count : Nat} {ticket : Ticket}
    (effect : Effect coordinator operation entry next)
    (accounted : Accounted entries count coordinator) (landed : entry.accepted? = some ticket) :
    Open entries ticket ∧ entry.ended? = some ticket.key := by
  cases effect with
  | issues _ _ _ _ unaccepted => rw [unaccepted] at landed; cases landed
  | ends key _ ended answers =>
    obtain ⟨rfl, pending, current⟩ := answers ticket landed
    exact ⟨(accounted.open_iff ticket).mpr ⟨pending, current⟩, ended⟩
  | idle _ _ unaccepted => rw [unaccepted] at landed; cases landed

theorem Open.issued {entries : List Entry} {ticket : Ticket} (isOpen : Open entries ticket) :
    ticket ∈ Coordinator.issued entries := by
  obtain ⟨before, entry, after, rfl, given, -⟩ := isOpen
  exact List.mem_filterMap.mpr ⟨entry, by simp, given⟩

/-- One more operation keeps the account, if the count of generations still lasts. -/
theorem Accounted.step {entries : List Entry} {count : Nat} {coordinator next : Coordinator}
    {operation : Operation} {entry : Entry} (accounted : Accounted entries count coordinator)
    (effect : Effect coordinator operation entry next)
    (room : operation.advances → count < Text.maxWord) :
    Accounted (entries ++ [entry]) (count + operation.advances.toNat) next := by
  have lasts (key : ViewKey) (advances : operation.advances) :
      (coordinator.slot key).generation.number < Text.maxWord :=
    Nat.lt_of_le_of_lt (accounted.bounded key) (room advances)
  have bounds (key : ViewKey) := effect.generation_bounds key (lasts key)
  refine ⟨?_, effect.open_iff accounted, ?_, ?_, ?_, ?_⟩
  · intro key
    have before := accounted.bounded key
    have after := bounds key
    omega
  · intro ticket member
    rw [issued_snoc] at member
    rcases List.mem_append.mp member with old | new
    · have range := accounted.issued_range ticket old
      have grown := bounds ticket.key
      omega
    · obtain ⟨counted, fresh, current⟩ := effect.fresh (Option.mem_toList.mp new)
      rw [current, fresh, Generation.next_number (lasts _ counted)]
      omega
  · rw [issued_snoc, List.pairwise_append]
    refine ⟨accounted.increasing, by cases entry.issued? <;> simp, ?_⟩
    intro earlier old later new sameKey
    have range := accounted.issued_range earlier old
    obtain ⟨counted, fresh, -⟩ := effect.fresh (Option.mem_toList.mp new)
    rw [fresh, Generation.next_number (lasts _ counted), ← sameKey]
    omega
  · intro ticket member
    rw [accepted_snoc] at member
    rw [issued_snoc]
    have reopened : ∀ {later : Ticket}, later ∈ issued entries → entry.issued? ≠ some later := by
      intro later old again
      obtain ⟨counted, fresh, -⟩ := effect.fresh again
      have range := accounted.issued_range later old
      rw [fresh, Generation.next_number (lasts _ counted)] at range
      omega
    rcases List.mem_append.mp member with old | new
    · obtain ⟨given, closed⟩ := accounted.accepted_closed ticket old
      refine ⟨List.mem_append_left _ given, ?_⟩
      rw [open_snoc]
      rintro (again | ⟨still, -⟩)
      · exact reopened given again
      · exact closed still
    · obtain ⟨wasOpen, ended⟩ := effect.landed accounted (Option.mem_toList.mp new)
      refine ⟨List.mem_append_left _ wasOpen.issued, ?_⟩
      rw [open_snoc]
      rintro (again | ⟨-, -, unended⟩)
      · exact reopened wasOpen.issued again
      · exact unended ended
  · rw [accepted_snoc, List.nodup_append]
    refine ⟨accounted.accepted_once, by cases entry.accepted? <;> simp, ?_⟩
    rintro ticket old later new rfl
    exact (accounted.accepted_closed ticket old).2
      (effect.landed accounted (Option.mem_toList.mp new)).1

/-- A run keeps the account of what was asked before and of what it asks. -/
theorem Accounted.run {entries : List Entry} {count : Nat} {coordinator : Coordinator}
    (accounted : Accounted entries count coordinator) (operations : List Operation)
    (room : count + operations.countP Operation.advances ≤ Text.maxWord) :
    Accounted (entries ++ history operations coordinator)
      (count + operations.countP Operation.advances) (Coordinator.run operations coordinator) := by
  induction operations generalizing entries count coordinator with
  | nil => simpa [history, Coordinator.run] using accounted
  | cons operation rest ih =>
    rw [advances_cons] at room ⊢
    have lasts : operation.advances → count < Text.maxWord := by
      intro advances
      rw [advances, Bool.toNat_true] at room
      omega
    have first := accounted.step (coordinator.perform_effect operation) lasts
    have others := ih first (by omega)
    rw [← Nat.add_assoc]
    simpa [history, Coordinator.run] using others

theorem accounted_of_run (operations : List Operation)
    (room : operations.countP Operation.advances ≤ Text.maxWord) :
    Accounted (history operations {}) (operations.countP Operation.advances)
      (run operations {}) := by
  simpa using fresh_accounted.run operations (by omega)

/-- In every run from a fresh coordinator a completion lands exactly if its ticket is open and its
view is on show. So the tickets of one view are ever newer, and none lands twice. -/
theorem apply_isOk_iff_open (operations : List Operation)
    (few : operations.countP Operation.advances < Text.maxWord) :
    (∀ before event active now after, operations = before ++ .apply event active now :: after →
      (((run before {}).apply event active now).1.isOk ↔
        Open (history before {}) event.ticket ∧ active = some event.ticket.key)) ∧
    (∀ key, ((issued (history operations {})).filter fun ticket => ticket.key = key).Pairwise
      fun earlier later => earlier.generation.number < later.generation.number) ∧
    (∀ ticket ∈ issued (history operations {}), 1 ≤ ticket.generation.number) ∧
    (accepted (history operations {})).Nodup := by
  have accounted := accounted_of_run operations (Nat.le_of_lt few)
  refine ⟨?_, ?_, ?_, accounted.accepted_once⟩
  · intro before event active now after split
    have fewer : before.countP Operation.advances ≤ operations.countP Operation.advances := by
      rw [split, List.countP_append]
      exact Nat.le_add_right _ _
    have earlier := accounted_of_run before (by omega)
    rw [apply_isOk_iff, earlier.open_iff]
    constructor
    · intro lands
      exact ⟨⟨lands.pending, lands.current⟩, lands.shown⟩
    · rintro ⟨⟨pending, current⟩, shown⟩
      exact ⟨pending, current, shown⟩
  · intro key
    rw [List.pairwise_filter]
    refine accounted.increasing.imp ?_
    intro earlier later grows first second
    exact grows ((of_decide_eq_true first).trans (of_decide_eq_true second).symm)
  · intro ticket member
    exact (accounted.issued_range ticket member).1

/-- A completion that comes twice finds its ticket closed the second time. -/
theorem apply_repeated_closed :
    let event : FetchEvent := ⟨⟨.systemRps, ⟨1⟩⟩, .table []⟩
    let first : List Operation :=
      [.plan (Catalog.table .systemRps "System RPS") ⟨7⟩ none,
        .apply event (some .systemRps) ⟨0⟩]
    let operations := first ++ [.apply event (some .systemRps) ⟨0⟩]
    operations.countP Operation.advances < Text.maxWord ∧
      accepted (history operations {}) = [event.ticket] ∧
      ¬ Open (history first {}) event.ticket := by
  intro event first operations
  have few : operations.countP Operation.advances < Text.maxWord := by decide
  have discarded : ¬ ((run first {}).apply event (some .systemRps) ⟨0⟩).1.isOk := by decide
  refine ⟨few, rfl, ?_⟩
  intro stillOpen
  exact discarded (((apply_isOk_iff_open operations few).1 first event (some .systemRps) ⟨0⟩ []
    rfl).mpr ⟨stillOpen, rfl⟩)

end ScenarioResults.Coordinator
