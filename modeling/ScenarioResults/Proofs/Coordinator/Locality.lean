import ScenarioResults.Proofs.Coordinator.Turn

/-!
# One view at a time

Every operation of a coordinator is about one view. It leaves the slots of all other views alone, and
one that is refused leaves the whole coordinator as it was (`perform_local`). So the operations on one
view come to the same in a run whatever is done to other views between them (`run_of_same`).
-/

namespace ScenarioResults.Coordinator

/-- The view that an operation is about. -/
def Operation.key : Operation → ViewKey
  | .plan descriptor _ _ => descriptor.key
  | .abandon key => key
  | .markFailed key _ => key
  | .apply event _ _ => event.ticket.key

/-- What keeps an operation from being carried out: a plot has no form of its own, nothing is awaited,
or the completion is not the one that the view on show awaits. -/
def Operation.Barred (coordinator : Coordinator) : Operation → Prop
  | .plan descriptor _ form =>
    descriptor.kind = .plot ∧ ∀ given, form = some given → given.key ≠ descriptor.key
  | .abandon key => coordinator.status key ≠ .pending
  | .markFailed _ _ => False
  | .apply event active _ => ¬ coordinator.Lands event active

namespace Entry

def key : Entry → ViewKey
  | .planned descriptor _ _ _ => descriptor.key
  | .abandoned key _ => key
  | .markedFailed key _ => key
  | .applied event _ _ => event.ticket.key

/-- The answer is an error, no ticket, or that a completion was discarded. -/
def refused : Entry → Bool
  | .planned _ _ _ (.error _) => true
  | .abandoned _ none => true
  | .applied _ _ (.error _) => true
  | _ => false

end Entry

/-! ### Single slots -/

theorem slot?_putSlot (coordinator : Coordinator) (key other : ViewKey) (slot : ViewSlot) :
    (coordinator.putSlot key slot).slot? other =
      if other = key then some slot else coordinator.slot? other := by
  split
  next same => rw [same, slot?_putSlot_self]
  next different => exact slot?_putSlot_of_ne _ _ different

/-- A completion that lands writes the slot of its own view. -/
theorem slot?_land (coordinator : Coordinator) (slot : ViewSlot) (event : FetchEvent)
    (now : Instant) (key : ViewKey) :
    (coordinator.land slot event now).2.slot? key =
      if key = event.ticket.key then some (slot.receive now event.outcome)
      else coordinator.slot? key := by
  unfold land ViewSlot.receive
  cases event.outcome with
  | failed message => exact slot?_putSlot _ _ _ _
  | table rows => exact slot?_putSlot _ _ _ _
  | plot description =>
    cases slot.pendingSurface with
    | none => exact slot?_putSlot _ _ _ _
    | some surface => exact slot?_putSlot _ _ _ _

/-- What a completion is answered depends on the slot that it is for. -/
theorem land_answer (first second : Coordinator) (slot : ViewSlot) (event : FetchEvent)
    (now : Instant) : (first.land slot event now).1 = (second.land slot event now).1 := by
  unfold land
  cases event.outcome with
  | failed message => rfl
  | table rows => rfl
  | plot description => cases slot.pendingSurface <;> rfl

theorem slot_of_same {first second : Coordinator} {key : ViewKey}
    (same : first.slot? key = second.slot? key) : first.slot key = second.slot key := by
  rw [Coordinator.slot, Coordinator.slot, same]

theorem lands_iff_of_same {first second : Coordinator} {event : FetchEvent}
    {active : Option ViewKey} (same : first.slot? event.ticket.key = second.slot? event.ticket.key) :
    first.Lands event active ↔ second.Lands event active := by
  have slots := slot_of_same same
  constructor
  · rintro ⟨pending, current, shown⟩
    exact ⟨slots ▸ pending, slots ▸ current, shown⟩
  · rintro ⟨pending, current, shown⟩
    exact ⟨slots.symm ▸ pending, slots.symm ▸ current, shown⟩

/-- A completion that does not land is discarded for the same reason, if the slot is the same. -/
theorem apply_answer_of_same {first second : Coordinator} {event : FetchEvent}
    {active : Option ViewKey} {now : Instant}
    (same : first.slot? event.ticket.key = second.slot? event.ticket.key) :
    (first.apply event active now).1 = (second.apply event active now).1 := by
  unfold apply
  rw [same]
  cases second.slot? event.ticket.key with
  | none => rfl
  | some slot =>
    dsimp only
    split
    · rfl
    · split
      · rfl
      · exact congrArg Except.ok (land_answer first second slot event now)

/-! ### Single operations -/

theorem perform_key (coordinator : Coordinator) (operation : Operation) :
    (coordinator.perform operation).1.key = operation.key := by
  cases operation <;> rfl

theorem perform_frame (coordinator : Coordinator) (operation : Operation) {other : ViewKey}
    (different : other ≠ operation.key) :
    (coordinator.perform operation).2.slot? other = coordinator.slot? other := by
  have step := coordinator.perform_step operation
  generalize coordinator.perform operation = performed at step ⊢
  cases step with
  | planned => exact slot?_putSlot_of_ne _ _ different
  | abandoned => exact slot?_putSlot_of_ne _ _ different
  | marked => exact slot?_putSlot_of_ne _ _ different
  | landed =>
    rw [slot?_land]
    exact if_neg different
  | _ => rfl

theorem perform_of_refused {coordinator : Coordinator} {operation : Operation}
    (refused : (coordinator.perform operation).1.refused) :
    (coordinator.perform operation).2 = coordinator := by
  have step := coordinator.perform_step operation
  generalize coordinator.perform operation = performed at step refused ⊢
  cases step with
  | unplanned => rfl
  | settled => rfl
  | discarded => rfl
  | _ => cases refused

/-- A plan fails for a plot that is given no form of its own, and only then. -/
theorem plotPlan_isOk_iff (descriptor : ViewDescriptor) (form : Option ParameterForm) :
    (plotPlan descriptor form).isOk = false ↔
      descriptor.kind = .plot ∧ ∀ given, form = some given → given.key ≠ descriptor.key := by
  unfold plotPlan ViewDescriptor.kind
  cases descriptor.fetch with
  | table => simp [Except.isOk, Except.toBool]
  | plot spec =>
    dsimp only
    cases own : form.filter fun form => form.key == descriptor.key with
    | none =>
      have foreign := Option.filter_eq_none_iff.mp own
      simpa [Except.isOk, Except.toBool] using foreign
    | some given =>
      obtain ⟨supplied, fits⟩ := Option.filter_eq_some_iff.mp own
      simp only [Except.isOk, Except.toBool, true_and]
      constructor
      · intro failed
        cases failed
      · intro foreign
        exact (foreign given supplied (beq_iff_eq.mp fits)).elim

theorem refused_iff_barred (coordinator : Coordinator) (operation : Operation) :
    (coordinator.perform operation).1.refused ↔ operation.Barred coordinator := by
  have step := coordinator.perform_step operation
  generalize coordinator.perform operation = performed at step ⊢
  cases step with
  | @unplanned descriptor scenario form error plan =>
    have failed : (plotPlan descriptor form).isOk = false := by rw [plan]; rfl
    exact iff_of_true rfl ((plotPlan_isOk_iff descriptor form).mp failed)
  | @planned descriptor scenario form plot plan =>
    refine iff_of_false Bool.false_ne_true fun barred => ?_
    have failed := (plotPlan_isOk_iff descriptor form).mpr barred
    rw [plan] at failed
    cases failed
  | abandoned pending => exact iff_of_false Bool.false_ne_true fun settled => settled pending
  | settled settled => exact iff_of_true rfl settled
  | marked => exact iff_of_false Bool.false_ne_true id
  | landed lands => exact iff_of_false Bool.false_ne_true fun refused => refused lands
  | discarded refused => exact iff_of_true rfl refused

/-- An operation sees of a coordinator no more than the slot of its own view. -/
theorem perform_of_same {first second : Coordinator} (operation : Operation)
    (same : first.slot? operation.key = second.slot? operation.key) :
    (first.perform operation).1 = (second.perform operation).1 ∧
      (first.perform operation).2.slot? operation.key =
        (second.perform operation).2.slot? operation.key := by
  have slots := slot_of_same same
  cases operation with
  | plan descriptor scenario form =>
    simp only [Operation.key] at same slots ⊢
    simp only [perform]
    cases plan : plotPlan descriptor form with
    | error error => simp only [plan_of_error scenario plan, same, and_self]
    | ok plot => simp only [plan_of_ok scenario plan, slots, slot?_putSlot_self, and_self]
  | abandon key =>
    simp only [Operation.key] at same slots ⊢
    simp only [perform]
    by_cases pending : (second.slot key).status = .pending
    · simp only [abandon_of_pending pending, abandon_of_pending (slots.symm ▸ pending), slots,
        slot?_putSlot_self, and_self]
    · simp only [abandon_of_settled pending, abandon_of_settled (slots.symm ▸ pending), same,
        and_self]
  | markFailed key message =>
    simp only [Operation.key] at slots ⊢
    simp only [perform, markFailed, slots, slot?_putSlot_self, and_self]
  | apply event active now =>
    simp only [Operation.key] at same slots ⊢
    refine ⟨congrArg (Entry.applied event active) (apply_answer_of_same same), ?_⟩
    simp only [perform]
    by_cases lands : second.Lands event active
    · rw [apply_of_lands lands now, apply_of_lands ((lands_iff_of_same same).mpr lands) now, slots]
      simp only [slot?_land, if_true]
    · obtain ⟨_, stayed⟩ := apply_of_not_lands lands now
      obtain ⟨_, alsoStayed⟩ := apply_of_not_lands (mt (lands_iff_of_same same).mp lands) now
      rw [stayed, alsoStayed]
      exact same

/-- Only a table that lands is listed. -/
theorem listed_isSome_iff (coordinator : Coordinator) (operation : Operation) :
    (coordinator.perform operation).1.listed?.isSome ↔ ∃ ticket rows active now,
      operation = .apply ⟨ticket, .table rows⟩ active now ∧
        coordinator.Lands ⟨ticket, .table rows⟩ active := by
  have step := coordinator.perform_step operation
  generalize coordinator.perform operation = performed at step ⊢
  cases step with
  | @landed event active now lands =>
    obtain ⟨ticket, outcome⟩ := event
    cases outcome with
    | table rows => exact iff_of_true rfl ⟨ticket, rows, active, now, rfl, lands⟩
    | _ =>
      refine iff_of_false Bool.false_ne_true ?_
      rintro ⟨_, _, _, _, same, -⟩
      cases same
  | discarded refused =>
    rw [listed_of_discarded]
    refine iff_of_false Bool.false_ne_true ?_
    rintro ⟨_, _, _, _, same, lands⟩
    cases same
    exact refused lands
  | _ =>
    refine iff_of_false Bool.false_ne_true ?_
    rintro ⟨_, _, _, _, same, -⟩
    cases same

/-! ### Runs -/

/-- The slot of a view after a run, and the answers of the operations on that view, are what they are
without the operations on other views. -/
theorem run_of_same {first second : Coordinator} {key : ViewKey}
    (same : first.slot? key = second.slot? key) (operations : List Operation) :
    let own := operations.filter fun operation => operation.key = key
    (run operations first).slot? key = (run own second).slot? key ∧
      (history operations first).filter (fun entry => entry.key = key) = history own second := by
  induction operations generalizing first second with
  | nil => exact ⟨same, rfl⟩
  | cons operation rest ih =>
    by_cases about : operation.key = key
    · subst about
      obtain ⟨answer, next⟩ := perform_of_same operation same
      obtain ⟨slots, answers⟩ := ih next
      simp only [List.filter_cons, decide_true, if_true, run, history, perform_key]
      exact ⟨slots, by rw [answers, answer]⟩
    · have kept := first.perform_frame operation (Ne.symm about)
      obtain ⟨slots, answers⟩ := ih (kept.trans same)
      simp only [List.filter_cons, about, decide_false, Bool.false_eq_true, if_false, run, history,
        perform_key]
      exact ⟨slots, answers⟩

/-- In any state of a coordinator an operation is refused exactly if something bars it, and then the
coordinator stays as it was. Otherwise the slots of all views but its own stay, and the list of tables
grows by a table that lands and changes in no other way. So the operations on one view come to the same
in any run, whatever is done to other views between them. -/
theorem perform_local (coordinator : Coordinator) (operation : Operation) :
    let entry := (coordinator.perform operation).1
    let next := (coordinator.perform operation).2
    (entry.refused ↔ operation.Barred coordinator) ∧
      (entry.refused → next = coordinator) ∧
      (∀ other, other ≠ operation.key → next.slot? other = coordinator.slot? other) ∧
      next.fetched = coordinator.fetched ++ entry.listed?.toList ∧
      (next.fetched ≠ coordinator.fetched ↔ ∃ ticket rows active now,
        operation = .apply ⟨ticket, .table rows⟩ active now ∧
          coordinator.Lands ⟨ticket, .table rows⟩ active) ∧
      ∀ operations key,
        let own := operations.filter fun operation => operation.key = key
        (run operations coordinator).slot? key = (run own coordinator).slot? key ∧
          (history operations coordinator).filter (fun entry => entry.key = key) =
            history own coordinator := by
  intro entry next
  have fetched : next.fetched = coordinator.fetched ++ entry.listed?.toList :=
    perform_fetched coordinator operation
  refine ⟨refused_iff_barred coordinator operation, perform_of_refused,
    fun _ different => coordinator.perform_frame operation different, fetched, ?_,
    fun operations key => run_of_same rfl operations⟩
  rw [← listed_isSome_iff, fetched]
  cases entry.listed? <;> simp

/-- A plot that is given the form of another one is refused without a trace, and a table that lands is
listed and leaves the slot of the plot alone. -/
theorem perform_local_foreign :
    let plan : Operation := .plan (Catalog.table .systemRps "System RPS") ⟨7⟩ none
    let before := run [plan, .markFailed .costPlot "down"] {}
    let foreign : Operation := .plan (Catalog.plot .costPlot "Cost Plot" "costPlot" []) ⟨7⟩
      (some (.blank .energyPlot ⟨"energyPlot", []⟩))
    let answer : Operation := .apply ⟨⟨.systemRps, ⟨1⟩⟩, .table []⟩ (some .systemRps) ⟨0⟩
    (before.perform foreign).1.refused ∧ (before.perform foreign).2 = before ∧
      (before.perform answer).2.slot? .costPlot = before.slot? .costPlot ∧
      (before.perform answer).2.fetched ≠ before.fetched := by
  intro plan before foreign answer
  have refused : (before.perform foreign).1.refused := rfl
  obtain ⟨-, stays, -⟩ := perform_local before foreign
  obtain ⟨-, -, frame, -, listed, -⟩ := perform_local before answer
  exact ⟨refused, stays refused, frame .costPlot (by decide),
    listed.mpr ⟨_, _, _, _, rfl, ⟨rfl, rfl, rfl⟩⟩⟩

end ScenarioResults.Coordinator
