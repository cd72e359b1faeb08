import ScenarioResults.Proofs.Coordinator.Coherence

/-!
# What a failure leaves of a result

A view fails when it is marked so, when its fetch is answered by a failure, and when a plot comes in for
the activation of a table. The first two lose the result that the view had before. The third one leaves
it in place, so the view is failed and shows a result all the same (`failed_cleared_iff`).
-/

namespace ScenarioResults

def ViewStatus.isFailed : ViewStatus → Bool
  | .failed _ => true
  | _ => false

namespace ViewSlot

theorem abandon_not_failed (slot : ViewSlot) : slot.abandon.status.isFailed = false := by
  simp only [abandon, settledStatus]
  split
  · rfl
  · split <;> rfl

theorem settle_not_failed (slot : ViewSlot) (payload : ViewPayload) (now : Instant) :
    (slot.settle payload now).status.isFailed = false := by
  simp only [settle]
  split <;> rfl

end ViewSlot

namespace Coordinator

namespace Entry

/-- The view that is failed by an operation. -/
def failed? : Entry → Option ViewKey
  | .markedFailed key _ => some key
  | .applied _ _ (.ok (.failed key _)) => some key
  | _ => none

/-- A plot came in for the activation of a table. -/
def misplaced : Entry → Bool
  | .applied ⟨_, .plot _⟩ _ (.ok (.failed _ _)) => true
  | _ => false

end Entry

/-- Nothing is left of a result of the view. -/
structure Cleared (coordinator : Coordinator) (key : ViewKey) : Prop where
  payload : (coordinator.slot key).payload = none
  completed : (coordinator.slot key).completed = none
  table : coordinator.table? key = none
  plot : coordinator.plot? key = none

theorem cleared_of_payload {coordinator : Coordinator} {key : ViewKey}
    (coherent : (coordinator.slot key).Coherent) (lost : (coordinator.slot key).payload = none) :
    coordinator.Cleared key := by
  refine ⟨lost, ?_, by simp [table?, lost], by simp [plot?, lost]⟩
  have completed := coherent.completed
  rw [lost] at completed
  simpa using completed

/-- What an operation comes to for a view: it fails and its result is lost, it fails and its result is
kept, or the operation does not fail it. -/
inductive Outcome (coordinator : Coordinator) (key : ViewKey) (entry : Entry) (next : Coordinator) :
    Prop where
  | loses (message : String) (failed : entry.failed? = some key) (placed : entry.misplaced = false)
      (written : next.slot key = (coordinator.slot key).fail message)
  | keeps (failed : entry.failed? = some key) (misplaced : entry.misplaced = true)
      (written : next.slot key = (coordinator.slot key).reject misplacedPlot)
  | spares (other : entry.failed? ≠ some key)
      (unfailed : next.slot key = coordinator.slot key ∨ (next.slot key).status.isFailed = false)

theorem outcome_of_landed (coordinator : Coordinator) (event : FetchEvent)
    (active : Option ViewKey) (now : Instant) :
    let landed := coordinator.land (coordinator.slot event.ticket.key) event now
    coordinator.Outcome event.ticket.key (.applied event active (.ok landed.1)) landed.2 := by
  intro landed
  have written := coordinator.slots_land (coordinator.slot event.ticket.key) event now event.ticket.key
  rw [if_pos rfl] at written
  obtain ⟨ticket, outcome⟩ := event
  cases outcome with
  | failed message => exact .loses message rfl rfl written
  | table rows =>
    refine .spares ?_ (.inr ?_)
    · simp only [landed, land]
      split <;> simp [Entry.failed?]
    · rw [written]
      exact ViewSlot.settle_not_failed _ _ _
  | plot description =>
    simp only [ViewSlot.receive] at written
    cases surface : (coordinator.slot ticket.key).pendingSurface with
    | none =>
      rw [surface] at written
      refine .keeps ?_ ?_ written
      · simp [landed, land, surface, Entry.failed?]
      · simp [landed, land, surface, Entry.misplaced]
    | some surface =>
      rw [surface] at written
      refine .spares ?_ (.inr ?_)
      · simp only [landed, land, surface]
        split <;> simp [Entry.failed?]
      · rw [written]
        exact ViewSlot.settle_not_failed _ _ _

/-- A completion fails no view but its own. -/
theorem key_of_failed {coordinator : Coordinator} {slot : ViewSlot} {event : FetchEvent}
    {active : Option ViewKey} {now : Instant} {key : ViewKey}
    (failed : (Entry.applied event active (.ok (coordinator.land slot event now).1)).failed? =
      some key) : key = event.ticket.key := by
  unfold land at failed
  obtain ⟨ticket, outcome⟩ := event
  cases outcome with
  | failed message => exact (Option.some.inj failed).symm
  | table rows =>
    dsimp only at failed
    split at failed <;> cases failed
  | plot description =>
    cases surface : slot.pendingSurface with
    | none =>
      rw [surface] at failed
      exact (Option.some.inj failed).symm
    | some surface =>
      rw [surface] at failed
      dsimp only at failed
      split at failed <;> cases failed

theorem perform_outcome (coordinator : Coordinator) (operation : Operation) (key : ViewKey) :
    coordinator.Outcome key (coordinator.perform operation).1
      (coordinator.perform operation).2 := by
  have step := coordinator.perform_step operation
  generalize coordinator.perform operation = performed at step ⊢
  cases step with
  | unplanned => exact .spares (by simp [Entry.failed?]) (.inl rfl)
  | planned =>
    refine .spares (by simp [Entry.failed?]) ?_
    rw [slot_putSlot]
    split
    · exact .inr rfl
    · exact .inl rfl
  | abandoned =>
    refine .spares (by simp [Entry.failed?]) ?_
    rw [slot_putSlot]
    split
    · exact .inr (ViewSlot.abandon_not_failed _)
    · exact .inl rfl
  | settled => exact .spares (by simp [Entry.failed?]) (.inl rfl)
  | @marked given message =>
    by_cases same : key = given
    · subst same
      exact .loses message rfl rfl (slot_putSlot_self _ _ _)
    · refine .spares ?_ (.inl (slot_putSlot_of_ne _ _ same))
      simpa [Entry.failed?] using Ne.symm same
  | @landed event active now =>
    by_cases same : key = event.ticket.key
    · subst same
      exact coordinator.outcome_of_landed event active now
    · refine .spares (fun failed => same (key_of_failed failed)) (.inl ?_)
      rw [slots_land, if_neg same]
  | discarded => exact .spares (by simp [Entry.failed?]) (.inl rfl)

section

variable {coordinator next : Coordinator} {key : ViewKey} {entry : Entry}

theorem Outcome.isFailed_iff (outcome : coordinator.Outcome key entry next) :
    (next.status key).isFailed ↔ entry.failed? = some key ∨
      (coordinator.status key).isFailed ∧ next.slot key = coordinator.slot key := by
  unfold status
  cases outcome with
  | loses message failed _ written => simp [written, failed, ViewSlot.fail, ViewStatus.isFailed]
  | keeps failed _ written => simp [written, failed, ViewSlot.reject, ViewStatus.isFailed]
  | spares other unfailed =>
    rcases unfailed with same | settled
    · simp [same, other]
    · simp only [settled, other, false_or]
      constructor
      · intro failed
        cases failed
      · rintro ⟨failed, same⟩
        rw [← same, settled] at failed
        cases failed

/-- A misplaced plot leaves what the view had. -/
theorem Outcome.kept (outcome : coordinator.Outcome key entry next)
    (failed : entry.failed? = some key) (misplaced : entry.misplaced = true) :
    (next.slot key).payload = (coordinator.slot key).payload ∧
      (next.slot key).completed = (coordinator.slot key).completed := by
  cases outcome with
  | loses _ _ placed => simp [placed] at misplaced
  | keeps _ _ written =>
    rw [written]
    exact ⟨rfl, rfl⟩
  | spares other => exact (other failed).elim

theorem Outcome.payload_of_placed (outcome : coordinator.Outcome key entry next)
    (failed : entry.failed? = some key) (placed : entry.misplaced = false) :
    (next.slot key).payload = none := by
  cases outcome with
  | loses message _ _ written =>
    rw [written]
    rfl
  | keeps _ misplaced => simp [placed] at misplaced
  | spares other => exact (other failed).elim

theorem Outcome.cleared_iff (outcome : coordinator.Outcome key entry next)
    (coherent : (next.slot key).Coherent) (failed : entry.failed? = some key) :
    next.Cleared key ↔ ¬ (entry.misplaced ∧ (coordinator.slot key).payload.isSome) := by
  cases misplaced : entry.misplaced with
  | false =>
    have cleared := cleared_of_payload coherent (outcome.payload_of_placed failed misplaced)
    simp [cleared]
  | true =>
    obtain ⟨payload, -⟩ := outcome.kept failed misplaced
    rw [← payload]
    constructor
    · rintro cleared ⟨-, held⟩
      simp [cleared.payload] at held
    · intro unheld
      exact cleared_of_payload coherent (by simpa using unheld)

end

/-- Along a run without misplaced plots nothing is left of a result of any view that is failed. -/
theorem run_cleared {coordinator : Coordinator} (coherent : ∀ key, (coordinator.slot key).Coherent)
    (cleared : ∀ key, (coordinator.status key).isFailed → coordinator.Cleared key)
    {operations : List Operation}
    (placed : ∀ entry ∈ history operations coordinator, entry.misplaced = false) (key : ViewKey)
    (failed : ((run operations coordinator).status key).isFailed) :
    (run operations coordinator).Cleared key := by
  induction operations generalizing coordinator with
  | nil => exact cleared key failed
  | cons operation rest ih =>
    have after (other : ViewKey) : ((coordinator.perform operation).2.slot other).Coherent :=
      (coordinator.perform_turn operation other).coherent (coherent other)
    refine ih after ?_ (fun entry later => placed entry (List.mem_cons_of_mem _ later)) failed
    intro other fails
    have outcome := coordinator.perform_outcome operation other
    rcases outcome.isFailed_iff.mp fails with now | ⟨before, same⟩
    · refine cleared_of_payload (after other) (outcome.payload_of_placed now ?_)
      exact placed _ List.mem_cons_self
    · refine cleared_of_payload (after other) ?_
      rw [same]
      exact (cleared other before).payload

/-- Whatever went before, a view is failed after an operation if the operation fails it, or if it was
failed before and is left alone. Nothing is left of its result then, unless a plot was misplaced in a
view that had one: that one it keeps. As long as no plot is misplaced, no failed view has a result. -/
theorem failed_cleared_iff (operations : List Operation) (operation : Operation) (key : ViewKey) :
    let before := run operations {}
    let after := (before.perform operation).2
    let entry := (before.perform operation).1
    ((after.status key).isFailed ↔ entry.failed? = some key ∨
        (before.status key).isFailed ∧ after.slot key = before.slot key) ∧
      (entry.failed? = some key →
        (after.Cleared key ↔ ¬ (entry.misplaced ∧ (before.slot key).payload.isSome)) ∧
        (entry.misplaced → (after.slot key).payload = (before.slot key).payload ∧
          (after.slot key).completed = (before.slot key).completed)) ∧
      ((∀ earlier ∈ history operations {}, earlier.misplaced = false) →
        (before.status key).isFailed → before.Cleared key) := by
  intro before after entry
  have fresh (other : ViewKey) : (({} : Coordinator).slot other).Coherent :=
    ViewSlot.fresh_coherent
  have unfailed (other : ViewKey) (failed : (({} : Coordinator).status other).isFailed) :
      ({} : Coordinator).Cleared other := by
    cases failed
  have coherent : (after.slot key).Coherent :=
    (before.perform_turn operation key).coherent (run_coherent fresh operations key)
  have outcome : before.Outcome key entry after := before.perform_outcome operation key
  refine ⟨outcome.isFailed_iff, ?_, fun placed => run_cleared fresh unfailed placed key⟩
  intro failed
  exact ⟨outcome.cleared_iff coherent failed, outcome.kept failed⟩

/-- An answer that is no plot and no table takes the rows away that were there before. -/
theorem failed_cleared_iff_answered :
    let plan : Operation := .plan (Catalog.table .systemRps "System RPS") ⟨7⟩ none
    let answer (generation : Generation) (outcome : FetchOutcome) : Operation :=
      .apply ⟨⟨.systemRps, generation⟩, outcome⟩ (some .systemRps) ⟨0⟩
    let before := run [plan, answer ⟨1⟩ (.table [[("period", .null)]]), plan] {}
    let after := (before.perform (answer ⟨2⟩ (.failed "down"))).2
    (before.table? .systemRps).isSome ∧ after.status .systemRps = .failed "down" ∧
      after.Cleared .systemRps := by
  intro plan answer before after
  have failed : (before.perform (answer ⟨2⟩ (.failed "down"))).1.failed? = some .systemRps := rfl
  obtain ⟨-, cleared, -⟩ := failed_cleared_iff
    [plan, answer ⟨1⟩ (.table [[("period", .null)]]), plan] (answer ⟨2⟩ (.failed "down")) .systemRps
  refine ⟨rfl, rfl, (cleared failed).1.mpr ?_⟩
  rintro ⟨misplaced, -⟩
  cases misplaced

/-- A plot that comes in for a table fails the view, which shows its rows all the same. -/
theorem failed_not_cleared :
    let plan : Operation := .plan (Catalog.table .systemRps "System RPS") ⟨7⟩ none
    let answer (generation : Generation) (outcome : FetchOutcome) : Operation :=
      .apply ⟨⟨.systemRps, generation⟩, outcome⟩ (some .systemRps) ⟨0⟩
    let after := run [plan, answer ⟨1⟩ (.table [[("period", .null)]]), plan,
      answer ⟨2⟩ (.plot ⟨.null⟩)] {}
    after.status .systemRps = .failed misplacedPlot ∧ ¬ after.Cleared .systemRps ∧
      after.table? .systemRps = some ⟨[[("period", .null)]]⟩ := by
  intro plan answer after
  refine ⟨rfl, ?_, rfl⟩
  intro cleared
  have kept : (after.slot .systemRps).payload = some (.table ⟨[[("period", .null)]]⟩) := rfl
  rw [cleared.payload] at kept
  cases kept

end Coordinator

end ScenarioResults
