import ScenarioResults.Backend.Scripted
import ScenarioResults.Embedder.Recorder
import ScenarioResults.Proofs.Page.Arrival
import ScenarioResults.Proofs.Page.Conservation

/-!
# Leaving the page

Leaving gives up the one fetch that can be under way, and only then takes what is in the queue, so that
nothing of it lands. After that the page is away: nothing is on show and nothing is awaited. Whatever
comes in and whatever is tried, it stays away until a view is selected (`departure_final`).
-/

namespace ScenarioResults

/-- What is said of a completion, or of a fetch that was not started. -/
def PageEvent.isOutcome : PageEvent → Bool
  | .tableReady _ _ | .plotBound _ _ | .resultEmpty _ | .fetchFailed _ _ | .embedFailed _ _
  | .completionDiscarded _ => true
  | _ => false

/-- A slot that awaits nothing any more. -/
def ViewSlot.released (slot : ViewSlot) : ViewSlot :=
  if slot.status = .pending then slot.abandon else slot

theorem ViewSlot.released_payload (slot : ViewSlot) : slot.released.payload = slot.payload := by
  unfold released
  split <;> rfl

theorem ViewSlot.released_completed (slot : ViewSlot) :
    slot.released.completed = slot.completed := by
  unfold released
  split <;> rfl

/-- No form has a value once all are cleared. -/
theorem ParameterForms.value?_of_cleared {forms : ParameterForms} {key : ViewKey}
    {form : ParameterForm} (found : forms.clearValues.form key = .ok form) (filter : Filter) :
    form.value? filter = none := by
  obtain ⟨old, -, rfl⟩ := Option.map_eq_some_iff.mp (form_ok found)
  rfl

namespace Page

variable {σ ε : Type}

/-- Nothing is on show, and nothing is awaited. -/
structure Away (page : Page σ ε) : Prop where
  hidden : page.selection.current = none
  idle : page.Idle

/-! ### Completions that are awaited by nobody -/

section

variable [Embedder ε] {page : Page σ ε}

/-- Nothing lands on a page that waits for nothing. -/
theorem process_of_idle (idle : page.Idle) (now : Instant) : page.process now =
    (page.queue.map fun event => .completionDiscarded event.ticket,
      { page with queue := [] }) := by
  have stale : ∀ event ∈ page.queue, ¬ ({ page with queue := [] } : Page σ ε).coordinator.Lands
      event ({ page with queue := [] } : Page σ ε).selection.current := by
    intro event _ lands
    exact idle event.ticket.key lands.pending
  unfold process
  exact applyEvents_stale stale

end

variable [Backend σ]

theorem depart_apart (page : Page σ ε) : page.depart = { page with
    selection := page.selection.reset
    forms := page.forms.clearValues
    coordinator := page.letGo.coordinator
    backend := page.letGo.backend } := by
  rw [depart_eq, letGo_apart]

theorem depart_idle {page : Page σ ε} (sound : page.Sound) : page.depart.Idle := by
  rw [depart_eq]
  exact letGo_idle sound

theorem letGo_fetched (page : Page σ ε) :
    page.letGo.coordinator.fetched = page.coordinator.fetched := by
  cases shown : page.selection.current with
  | none => rw [letGo_of_none shown]
  | some key =>
    by_cases pending : page.status key = .pending
    · rw [letGo_of_pending shown pending]
      rfl
    · rw [letGo_of_settled shown pending]

/-- Every slot is released, since none but that of the view on show can await anything. -/
theorem letGo_slots {page : Page σ ε} (sound : page.Sound) (key : ViewKey) :
    page.letGo.coordinator.slot? key = (page.coordinator.slot? key).map ViewSlot.released := by
  have settled {other : ViewKey} (settled : page.status other ≠ .pending) :
      (page.coordinator.slot? other).map ViewSlot.released = page.coordinator.slot? other := by
    cases found : page.coordinator.slot? other with
    | none => rfl
    | some slot =>
      have same := Coordinator.slot_of_slot? found
      have kept : slot.status ≠ .pending := by
        rw [← same]
        exact settled
      simp [ViewSlot.released, kept]
  cases shown : page.selection.current with
  | none =>
    rw [letGo_of_none shown, settled]
    intro pending
    have still := sound.pending_shown key pending
    rw [shown] at still
    cases still
  | some current =>
    by_cases pending : page.status current = .pending
    · rw [letGo_of_pending shown pending]
      by_cases same : key = current
      · subst same
        have released : (page.coordinator.slot key).released = (page.coordinator.slot key).abandon :=
          if_pos pending
        rw [Coordinator.slot?_putSlot_self, Coordinator.slot?_of_pending pending, Option.map_some,
          released]
      · rw [Coordinator.slot?_putSlot_of_ne _ _ same, settled]
        intro also
        have still := sound.pending_shown key also
        rw [shown] at still
        exact same (Option.some.inj still).symm
    · rw [letGo_of_settled shown pending, settled]
      intro also
      have still := sound.pending_shown key also
      rw [shown] at still
      obtain rfl := Option.some.inj still
      exact pending also

/-- Of all fetches the one that is awaited is cancelled. -/
theorem letGo_cancels (page : Page (ObservedBackend σ) ε) :
    ∃ done, page.letGo.backend.calls =
      page.backend.calls ++ page.waiting.map fun ticket => .cancel ticket done := by
  cases shown : page.selection.current with
  | none => exact ⟨true, by simp [letGo_of_none shown, waiting, shown]⟩
  | some key =>
    by_cases pending : page.status key = .pending
    · obtain ⟨done, calls⟩ := letGo_calls shown pending
      exact ⟨done, by rw [calls, waiting_of_pending shown pending]; rfl⟩
    · exact ⟨true, by simp [letGo_of_settled shown pending, waiting_of_settled shown pending]⟩

/-! ### The page that was left -/

/-- What leaving a page comes to: the page that is left awaits nothing and has no filter set, and of
what there was before it has lost nothing but the fetch that was awaited. -/
structure Departed (page left : Page (ObservedBackend σ) ε) : Prop where
  away : left.Away
  shape : left.forms.shape = page.forms.shape
  unset : ∀ key form, left.forms.form key = .ok form → ∀ filter, form.value? filter = none
  slots : ∀ key, left.coordinator.slot? key = (page.coordinator.slot? key).map ViewSlot.released
  results : ∀ key, (left.coordinator.slot key).payload = (page.coordinator.slot key).payload ∧
    (left.coordinator.slot key).completed = (page.coordinator.slot key).completed
  fetched : left.coordinator.fetched = page.coordinator.fetched
  options : left.forms.options = page.forms.options ∧ left.optionsError = page.optionsError
  embedder : left.embedder = page.embedder
  calls : ∃ done, left.backend.calls =
    page.backend.calls ++ page.waiting.map fun ticket => .cancel ticket done

variable [Embedder ε]

theorem leave_eq {page : Page σ ε} (sound : page.Sound) (now : Instant) : page.leave now =
    (.selectionCleared :: page.queue.map fun event => .completionDiscarded event.ticket,
      { page.depart with queue := [] }) := by
  have queue : page.depart.queue = page.queue := by rw [depart_apart]
  simp only [leave, process_of_idle (depart_idle sound), queue]

theorem leave_departed {page : Page (ObservedBackend σ) ε} (sound : page.Sound)
    (now : Instant) : page.Departed (page.leave now).2 := by
  have idle := depart_idle sound
  have slots := letGo_slots sound
  rw [leave_eq sound]
  rw [depart_apart] at idle ⊢
  refine ⟨⟨rfl, idle⟩, ParameterForms.shape_clearValues _, ?_, slots, ?_, page.letGo_fetched,
    ⟨rfl, rfl⟩, rfl, page.letGo_cancels⟩
  · intro key form found
    exact ParameterForms.value?_of_cleared found
  · intro key
    have released := slots key
    simp only [Coordinator.slot, released]
    cases page.coordinator.slot? key with
    | none => exact ⟨rfl, rfl⟩
    | some slot => exact ⟨slot.released_payload, slot.released_completed⟩

/-! ### While the page is away -/

/-- A view is selected, by its key or by its slug, and is not refused. -/
def selects (page : Page σ ε) (action : PageAction) : Bool :=
  match action with
  | .select _ | .selectSlug _ => (page.perform action).1.isOk
  | _ => false

/-- No view is selected all along a run. -/
def staysAway (page : Page σ ε) : List PageAction → Bool
  | [] => true
  | action :: rest => !page.selects action && (page.perform action).2.staysAway rest

/-- What an action says of completions, and of fetches that were not started. -/
def outcomesBy (page : Page σ ε) (action : PageAction) : List PageEvent :=
  match (page.perform action).1 with
  | .ok events => events.filter PageEvent.isOutcome
  | .error _ => []

section

variable {page : Page σ ε} {action : PageAction}

/-- A page that is away activates nothing but a view that is selected. -/
theorem inactive_of_away (sound : page.Sound) (away : page.Away)
    (unselected : page.selects action = false) : page.activation? action = none := by
  have hidden := away.hidden
  have still : ¬ page.Restarts action := by
    unfold Restarts
    unfold selects at unselected
    cases action with
    | select key => simpa using unselected
    | selectSlug raw => simpa using unselected
    | _ => simp [hidden]
  rw [restarts_iff sound, Option.not_isSome_iff_eq_none] at still
  exact still

theorem intake_away (away : page.Away) {found : Page σ ε}
    (taken : page.intake? action = some found) : page.Alike found ∧ found.Away := by
  cases page.course action with
  | activates _ _ _ _ untaken => simp [untaken] at taken
  | takes _ _ _ intake _ before =>
    rw [taken] at intake
    cases intake
    rw [letGo_of_none away.hidden] at before
    rcases before with ⟨alike, shown⟩ | ⟨alike, hidden⟩
    · exact ⟨alike, shown.trans away.hidden, alike.idle away.idle⟩
    · exact ⟨alike, hidden, alike.idle away.idle⟩
  | rests _ untaken => simp [untaken] at taken

omit [Backend σ] [Embedder ε] in
theorem filter_discards (events : List FetchEvent) :
    (events.map fun event => PageEvent.completionDiscarded event.ticket).filter
        PageEvent.isOutcome = events.map fun event => .completionDiscarded event.ticket := by
  refine List.filter_eq_self.mpr ?_
  intro answer member
  obtain ⟨event, -, rfl⟩ := List.mem_map.mp member
  rfl

/-- All that is said of completions is that they are discarded, each of those that are taken. -/
theorem outcomesBy_away (away : page.Away) (unselected : page.selects action = false) :
    page.outcomesBy action =
      (page.takenBy action).map fun event => .completionDiscarded event.ticket := by
  have hidden := away.hidden
  have taken {found : Page σ ε} (now : Instant) (intake : page.intake? action = some found) :
      (found.process now).1.filter PageEvent.isOutcome =
        (page.takenBy action).map fun event => .completionDiscarded event.ticket := by
    rw [process_of_idle (intake_away away intake).2.idle, filter_discards, takenBy, intake]
    rfl
  have refused (failed : (page.perform action).1.isOk = false) : page.outcomesBy action = [] := by
    unfold outcomesBy
    cases answered : (page.perform action).1 with
    | error error => rfl
    | ok events =>
      rw [answered] at failed
      cases failed
  have untold (key : ViewKey) (filter : Filter) (value : Option FilterValue) :
      page.outcomesBy (.setFilter key filter value) = [] := by
    unfold outcomesBy
    simp only [perform, setFilter]
    cases page.forms.setFilter key filter value with
    | error error => rfl
    | ok forms =>
      simp only [hidden, reduceCtorEq, if_false]
      rfl
  cases action with
  | select key => exact refused unselected
  | selectSlug raw => exact refused unselected
  | setFilter key filter value => exact untold key filter value
  | setFilterRaw key filter raw =>
    unfold outcomesBy
    simp only [perform, setFilterRaw]
    cases filter.read raw with
    | error error => rfl
    | ok value => exact untold key filter value
  | refresh =>
    unfold outcomesBy
    simp only [perform, refresh, hidden]
    rfl
  | process now => exact taken now rfl
  | wait now => exact taken now rfl
  | leave now => exact taken now rfl
  | loadOptions => rfl
  | subscribe => rfl
  | unsubscribe id => rfl
  | deliver events => rfl

end

/-- The slots and tables stay, nothing is drawn, and no fetch is started or cancelled. -/
structure Rests (page next : Page (ObservedBackend σ) ε) : Prop where
  coordinator : next.coordinator = page.coordinator
  embedder : next.embedder = page.embedder
  calls : next.backend.calls = page.backend.calls

section

variable {page : Page (ObservedBackend σ) ε} {action : PageAction}

theorem perform_away (sound : page.Sound) (away : page.Away)
    (unselected : page.selects action = false) :
    (page.perform action).2.Away ∧ page.Rests (page.perform action).2 := by
  have inactive := inactive_of_away sound away unselected
  cases page.course action with
  | activates _ _ _ active => simp [inactive] at active
  | takes found _ _ intake _ _ performed =>
    obtain ⟨alike, gone⟩ := intake_away away intake
    rw [performed, process_of_idle gone.idle]
    exact ⟨⟨gone.hidden, gone.idle⟩, alike.coordinator, alike.embedder, alike.calls⟩
  | rests _ _ _ alike shown =>
    exact ⟨⟨shown.trans away.hidden, alike.idle away.idle⟩, alike.coordinator, alike.embedder,
      alike.calls⟩

theorem run_away (sound : page.Sound) (away : page.Away) {later : List PageAction}
    (unselected : page.staysAway later) :
    page.along issuedBy later = [] ∧
      page.along outcomesBy later =
        (page.along takenBy later).map (fun event => .completionDiscarded event.ticket) ∧
      page.Rests (page.run later) := by
  induction later generalizing page with
  | nil => exact ⟨rfl, rfl, rfl, rfl, rfl⟩
  | cons action rest ih =>
    obtain ⟨first, onward⟩ := Bool.and_eq_true_iff.mp unselected
    have still : page.selects action = false := by simpa using first
    obtain ⟨gone, rests⟩ := perform_away sound away still
    obtain ⟨issued, outcomes, last⟩ := ih (perform_sound page action sound) gone onward
    refine ⟨?_, ?_, last.coordinator.trans rests.coordinator, last.embedder.trans rests.embedder,
      last.calls.trans rests.calls⟩
    · simp only [along, issuedBy_of_inactive (inactive_of_away sound away still), issued,
        List.nil_append]
    · simp only [along, outcomesBy_away away still, outcomes, List.map_append]

end

/-- Leaving clears the selection and discards each completion that waits, in order. Nothing is on show
then, no filter is set and nothing is awaited. All results are kept with the times at which they came
in, and so are the tables and the options. Nothing is drawn, and no fetch is cancelled but the one that
was awaited, if any. Until a view is selected again, whatever comes in is discarded, no fetch is started
or cancelled, and every slot stays as it is. -/
theorem departure_final (scenario : ScenarioId) (catalog : Catalog) (backend : σ) (embedder : ε)
    (actions : List PageAction) (now : Instant) :
    let page := (enter scenario catalog backend embedder).observe.run actions
    let left := (page.leave now).2
    page.plain = (enter scenario catalog backend embedder).run actions ∧
      (page.leave now).1 = .selectionCleared ::
        page.queue.map (fun event => .completionDiscarded event.ticket) ∧
      page.Departed left ∧ page.waiting.length ≤ 1 ∧
      (∀ ticket, ticket ∈ page.waiting ↔ page.Awaits ticket) ∧
      ∀ later, left.staysAway later →
        left.along issuedBy later = [] ∧
          left.along outcomesBy later =
            (left.along takenBy later).map (fun event => .completionDiscarded event.ticket) ∧
          left.Rests (left.run later) := by
  intro page left
  have sound : page.Sound := run_observed_sound scenario catalog backend embedder actions
  have departed : page.Departed left := leave_departed sound now
  have few : page.waiting.length ≤ 1 := by
    unfold waiting
    split
    next key _ => split <;> simp
    next => simp
  refine ⟨run_plain _ actions, by rw [leave_eq sound], departed, few, mem_waiting sound, ?_⟩
  intro later unselected
  have leftSound : left.Sound := perform_sound page (.leave now) sound
  exact run_away leftSound departed.away unselected

/-- The completion of the fetch that was given up is discarded by the departure, and so is another one
that comes in later. A table that came in before keeps its time. -/
theorem departure_final_late :
    let early : FetchEvent := ⟨⟨.systemRps, ⟨1⟩⟩, .table [[]]⟩
    let late : FetchEvent := ⟨⟨.dispatchPlot, ⟨1⟩⟩, .plot ⟨.bool true⟩⟩
    let actions : List PageAction :=
      [.select .systemRps, .deliver [early], .process ⟨5⟩, .select .dispatchPlot, .deliver [late]]
    let later : List PageAction := [.setFilterRaw .dispatchPlot .loadZone "North", .refresh,
      .deliver [late], .selectSlug "results", .process ⟨7⟩, .leave ⟨8⟩]
    let page := (enter ⟨7⟩ .standard ({ deferred := true } : ScriptedBackend)
      ({} : Recorder)).observe.run actions
    let left := (page.leave ⟨6⟩).2
    page.waiting = [late.ticket] ∧ left.staysAway later ∧
      (left.coordinator.slot .systemRps).completed = some ⟨5⟩ ∧
      left.along outcomesBy later = [.completionDiscarded late.ticket] ∧
      (left.run later).backend.cancelled = [late.ticket] := by
  intro early late actions later page left
  have unselected : left.staysAway later := by decide +kernel
  obtain ⟨-, -, departed, -, -, silent⟩ := departure_final ⟨7⟩ .standard
    ({ deferred := true } : ScriptedBackend) ({} : Recorder) actions ⟨6⟩
  obtain ⟨-, outcomes, rests⟩ := silent later unselected
  refine ⟨by decide +kernel, unselected, ?_, ?_, ?_⟩
  · exact (departed.results .systemRps).2.trans (by decide +kernel)
  · rw [outcomes]
    decide +kernel
  · rw [ObservedBackend.cancelled, rests.calls]
    decide +kernel

end Page

end ScenarioResults
