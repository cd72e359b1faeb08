import ScenarioResults.Backend.Scripted
import ScenarioResults.Embedder.Recorder
import ScenarioResults.Proofs.Page.Observed
import ScenarioResults.Proofs.Page.Pending

/-!
# Every fetch is accounted for

A ticket that is issued is pending, landed, cancelled or refused, and never two of these. `Balanced`
is the account that a run keeps: the tickets issued so far are as many, ticket by ticket, as the one
the page waits for and those that landed, were cancelled and were refused.
-/

namespace ScenarioResults.Page

variable {σ ε : Type}

/-- The view of the ticket is pending, and it is this ticket that it waits for. -/
def Awaits (page : Page σ ε) (ticket : Ticket) : Prop :=
  page.status ticket.key = .pending ∧
    (page.coordinator.slot ticket.key).generation = ticket.generation

/-- The ticket that the view on show waits for. -/
def waiting (page : Page σ ε) : List Ticket :=
  match page.selection.current with
  | some key =>
    if page.status key = .pending then [⟨key, (page.coordinator.slot key).generation⟩] else []
  | none => []

theorem waiting_of_pending {page : Page σ ε} {key : ViewKey}
    (shown : page.selection.current = some key) (pending : page.status key = .pending) :
    page.waiting = [⟨key, (page.coordinator.slot key).generation⟩] := by
  simp [waiting, shown, pending]

theorem waiting_of_settled {page : Page σ ε} {key : ViewKey}
    (shown : page.selection.current = some key) (settled : page.status key ≠ .pending) :
    page.waiting = [] := by
  simp [waiting, shown, settled]

theorem waiting_of_idle {page : Page σ ε} (idle : page.Idle) : page.waiting = [] := by
  unfold waiting
  split
  next key _ => exact if_neg (idle key)
  next => rfl

theorem mem_waiting {page : Page σ ε} (sound : page.Sound) (ticket : Ticket) :
    ticket ∈ page.waiting ↔ page.Awaits ticket := by
  constructor
  · intro member
    unfold waiting at member
    split at member
    next key _ =>
      split at member
      next pending =>
        obtain rfl := List.mem_singleton.mp member
        exact ⟨pending, rfl⟩
      next => cases member
    next => cases member
  · rintro ⟨pending, current⟩
    rw [waiting_of_pending (sound.pending_shown _ pending) pending, current]
    exact List.mem_singleton.mpr rfl

/-- No ticket is newer than the slot of its view, and a slot is at most as new as there were calls. -/
structure Counted (issued : List Ticket) (page : Page (ObservedBackend σ) ε) : Prop where
  covered : ∀ ticket ∈ issued,
    ticket.generation.number ≤ (page.coordinator.slot ticket.key).generation.number
  bounded : ∀ key,
    (page.coordinator.slot key).generation.number ≤ page.backend.calls.length

/-- Where the tickets issued so far have gone. -/
structure Balanced (issued landed : List Ticket) (page : Page (ObservedBackend σ) ε) : Prop where
  sound : page.Sound
  counted : Counted issued page
  spawned : page.backend.spawned = issued
  accounted : ∀ ticket, issued.count ticket = page.waiting.count ticket + landed.count ticket +
    page.backend.cancelled.count ticket + page.backend.refused.count ticket
  distinct : issued.Nodup
  newest : ∀ ticket ∈ page.waiting, issued.getLast? = some ticket

variable {issued landed : List Ticket}

/-- A ticket that landed, was cancelled or was refused was issued, and only once. -/
theorem Balanced.counts {page : Page (ObservedBackend σ) ε}
    (balanced : Balanced issued landed page) (ticket : Ticket) :
    landed.count ticket + page.backend.cancelled.count ticket +
        page.backend.refused.count ticket ≤ issued.count ticket ∧ issued.count ticket ≤ 1 := by
  have total := balanced.accounted ticket
  exact ⟨by omega, List.nodup_iff_count.mp balanced.distinct ticket⟩

/-! ### Giving up and starting -/

section

variable [Backend σ] {page other : Page (ObservedBackend σ) ε}

theorem Alike.calls (alike : page.Alike other) : other.backend.calls = page.backend.calls :=
  ObservedBackend.calls_of_quiet alike.backend

theorem Alike.balanced (alike : page.Alike other) (sound : other.Sound)
    (waits : other.waiting = page.waiting) (balanced : Balanced issued landed page) :
    Balanced issued landed other := by
  refine ⟨sound, ⟨?_, ?_⟩, ?_, ?_, balanced.distinct, ?_⟩
  · rw [alike.coordinator]
    exact balanced.counted.covered
  · rw [alike.coordinator, alike.calls]
    exact balanced.counted.bounded
  · rw [ObservedBackend.spawned, alike.calls]
    exact balanced.spawned
  · rw [waits, ObservedBackend.cancelled, ObservedBackend.refused, alike.calls]
    exact balanced.accounted
  · rw [waits]
    exact balanced.newest

theorem letGo_calls {key : ViewKey} (shown : page.selection.current = some key)
    (pending : page.status key = .pending) :
    ∃ done, page.letGo.backend.calls =
      page.backend.calls ++ [.cancel ⟨key, (page.coordinator.slot key).generation⟩ done] := by
  rw [letGo_of_pending shown pending]
  exact ⟨_, rfl⟩

theorem Counted.letGo {key : ViewKey} (counted : Counted issued page)
    (shown : page.selection.current = some key) (pending : page.status key = .pending)
    (room : page.backend.calls.length < Text.maxWord) : Counted issued page.letGo := by
  obtain ⟨done, calls⟩ := letGo_calls shown pending
  have slots (other : ViewKey) : page.letGo.coordinator.slot other =
      if other = key then (page.coordinator.slot key).abandon else page.coordinator.slot other := by
    rw [letGo_of_pending shown pending]
    exact Coordinator.slot_putSlot _ _ _ _
  have bounded := counted.bounded key
  refine ⟨?_, ?_⟩
  · intro ticket member
    have covered := counted.covered ticket member
    rw [slots]
    split
    next same =>
      rw [same] at covered
      exact Nat.le_trans covered (Generation.le_next (by omega))
    next => exact covered
  · intro other
    rw [slots, calls, List.length_append, List.length_singleton]
    split
    next =>
      have raised := (page.coordinator.slot key).generation.next_le
      simp only [ViewSlot.abandon]
      omega
    next => exact Nat.le_succ_of_le (counted.bounded other)

/-- The ticket that the page waits for is cancelled. -/
theorem Balanced.letGo (balanced : Balanced issued landed page)
    (room : page.letGo.backend.calls.length ≤ Text.maxWord) :
    Balanced issued landed page.letGo := by
  cases shown : page.selection.current with
  | none =>
    rw [letGo_of_none shown]
    exact balanced
  | some key =>
    by_cases pending : page.status key = .pending
    · obtain ⟨done, calls⟩ := letGo_calls shown pending
      have idle := waiting_of_idle (letGo_idle balanced.sound)
      rw [calls, List.length_append, List.length_singleton] at room
      refine ⟨letGo_sound balanced.sound, balanced.counted.letGo shown pending room, ?_, ?_,
        balanced.distinct, ?_⟩
      · rw [ObservedBackend.spawned_of_cancel calls]
        exact balanced.spawned
      · intro ticket
        have before := balanced.accounted ticket
        rw [waiting_of_pending shown pending] at before
        rw [idle, ObservedBackend.cancelled_of_cancel calls,
          ObservedBackend.refused_of_cancel calls, List.count_append, List.count_nil]
        omega
      · rw [idle]
        simp
    · rw [letGo_of_settled shown pending]
      exact balanced

/-- What an activation that is planned leaves behind, by whether the backend started its fetch. -/
structure Activated (page : Page (ObservedBackend σ) ε) (descriptor : ViewDescriptor)
    (request : FetchRequest) (started : Bool) : Prop where
  ticket : request.ticket = page.nextTicket descriptor
  calls : (page.activate descriptor).2.backend.calls =
    page.backend.calls ++ [.spawn request started]
  generation : ((page.activate descriptor).2.coordinator.slot descriptor.key).generation =
    (page.coordinator.slot descriptor.key).generation.next
  pending_iff : (page.activate descriptor).2.status descriptor.key = .pending ↔ started = true

/-- Planning never fails on a page that is ready. -/
theorem exists_activated {descriptor : ViewDescriptor} (ready : page.Ready descriptor) :
    ∃ request started, page.Activated descriptor request started := by
  obtain ⟨plot, plan⟩ := exists_plan ready.shape ready.resolved
  rcases answer : Backend.spawn (page.planned descriptor plot) page.backend with
    ⟨fault | events, backend⟩
  · have activated := activate_refused plan answer
    refine ⟨page.planned descriptor plot, false, page.planned_ticket descriptor plot, ?_, ?_, ?_⟩
    · rw [activated]
      exact ObservedBackend.calls_of_refused answer
    · rw [activated]
      simp [Coordinator.slot_markFailed, ViewSlot.fail, ViewSlot.activate]
    · rw [activated]
      simp [status, Coordinator.status, Coordinator.slot_markFailed, ViewSlot.fail]
  · have activated := activate_started plan answer
    refine ⟨page.planned descriptor plot, true, page.planned_ticket descriptor plot, ?_, ?_, ?_⟩
    · rw [activated]
      exact ObservedBackend.calls_of_started answer
    · rw [activated]
      simp [ViewSlot.activate]
    · rw [activated]
      simp [status, Coordinator.status, ViewSlot.activate]

section

variable {descriptor : ViewDescriptor} {request : FetchRequest} {started : Bool}

theorem Activated.waiting (activated : page.Activated descriptor request started)
    (ready : page.Ready descriptor) : (page.activate descriptor).2.waiting =
      if started then [page.nextTicket descriptor] else [] := by
  have shown : (page.activate descriptor).2.selection.current = some descriptor.key := by
    rw [(page.activate_touched descriptor).selection, ready.shown]
  cases started with
  | true =>
    rw [waiting_of_pending shown (activated.pending_iff.mpr rfl), activated.generation]
    rfl
  | false =>
    refine waiting_of_settled shown ?_
    simp [activated.pending_iff]

omit [Backend σ] in
theorem Counted.raised (counted : Counted issued page)
    (room : page.backend.calls.length < Text.maxWord) (descriptor : ViewDescriptor) :
    (page.nextTicket descriptor).generation.number =
      (page.coordinator.slot descriptor.key).generation.number + 1 :=
  Generation.next_number (Nat.lt_of_le_of_lt (counted.bounded descriptor.key) room)

omit [Backend σ] in
theorem Counted.fresh (counted : Counted issued page)
    (room : page.backend.calls.length < Text.maxWord) (descriptor : ViewDescriptor) :
    page.nextTicket descriptor ∉ issued := by
  intro member
  have covered := counted.covered _ member
  rw [counted.raised room] at covered
  exact Nat.not_succ_le_self _ covered

theorem Counted.activate (counted : Counted issued page)
    (room : page.backend.calls.length < Text.maxWord)
    (activated : page.Activated descriptor request started) :
    Counted (issued ++ [page.nextTicket descriptor]) (page.activate descriptor).2 := by
  have touched := page.activate_touched descriptor
  have raised := counted.raised room descriptor
  have newest : ((page.activate descriptor).2.coordinator.slot descriptor.key).generation.number =
      (page.coordinator.slot descriptor.key).generation.number + 1 := by
    rw [activated.generation]
    exact raised
  refine ⟨?_, ?_⟩
  · intro ticket member
    rcases List.mem_append.mp member with old | new
    · have covered := counted.covered ticket old
      by_cases same : ticket.key = descriptor.key
      · rw [same] at covered ⊢
        omega
      · rw [touched.frame _ same]
        exact covered
    · rw [List.mem_singleton.mp new, raised]
      exact Nat.le_of_eq newest.symm
  · intro key
    have bounded := counted.bounded key
    rw [activated.calls, List.length_append, List.length_singleton]
    by_cases same : key = descriptor.key
    · rw [same] at bounded ⊢
      omega
    · rw [touched.frame _ same]
      omega

/-- The ticket of an activation is new, and it is pending or refused. -/
theorem Balanced.activate (balanced : Balanced issued landed page)
    (ready : page.Ready descriptor)
    (room : (page.activate descriptor).2.backend.calls.length ≤ Text.maxWord) :
    Balanced (issued ++ [page.nextTicket descriptor]) landed (page.activate descriptor).2 := by
  obtain ⟨request, started, activated⟩ := exists_activated ready
  rw [activated.calls, List.length_append, List.length_singleton] at room
  have waits := activated.waiting ready
  have fresh := balanced.counted.fresh room descriptor
  refine ⟨activate_sound ready, balanced.counted.activate room activated, ?_, ?_, ?_, ?_⟩
  · rw [ObservedBackend.spawned_of_spawn activated.calls, activated.ticket, balanced.spawned]
  · intro ticket
    have before := balanced.accounted ticket
    rw [waiting_of_idle ready.idle] at before
    rw [waits, ObservedBackend.cancelled_of_spawn activated.calls,
      ObservedBackend.refused_of_spawn activated.calls, activated.ticket, List.count_append,
      List.count_append]
    -- A fetch that was started is waited for, one that was refused is on record as refused.
    cases started with
    | true =>
      simp only [if_true, List.count_nil] at before ⊢
      omega
    | false =>
      simp only [Bool.false_eq_true, if_false, List.count_nil] at before ⊢
      omega
  · rw [List.nodup_append]
    refine ⟨balanced.distinct, by simp, ?_⟩
    intro first old second new same
    obtain rfl := List.mem_singleton.mp new
    exact fresh (same ▸ old)
  · intro ticket member
    rw [waits] at member
    cases started with
    | true =>
      rw [List.mem_singleton.mp member]
      simp
    | false => cases member

end

end

/-! ### Completions -/

section

variable [Embedder ε] {page : Page (ObservedBackend σ) ε}

/-- A completion that lands takes its ticket off the ones that are waited for. -/
theorem Balanced.applyEvent (balanced : Balanced issued landed page) (event : FetchEvent)
    (now : Instant) :
    Balanced issued
      (landed ++ (landed? (event.ticket,
        (page.coordinator.apply event page.selection.current now).1)).toList)
      (page.applyEvent event now).2 := by
  by_cases lands : page.coordinator.Lands event page.selection.current
  · have next := applyEvent_of_lands lands now
    have taken : landed? (event.ticket,
        (page.coordinator.apply event page.selection.current now).1) = some event.ticket :=
      if_pos (Coordinator.apply_isOk_iff.mpr lands)
    have shown : (page.applyEvent event now).2.selection.current = some event.ticket.key := by
      rw [next.selection, lands.shown]
    have waited : page.waiting = [event.ticket] := by
      rw [waiting_of_pending lands.shown lands.pending, lands.current]
    have waits := waiting_of_settled shown next.settled
    have generations (key : ViewKey) :
        ((page.applyEvent event now).2.coordinator.slot key).generation =
          (page.coordinator.slot key).generation := by
      by_cases same : key = event.ticket.key
      · rw [same, next.generation]
      · rw [next.frame key same]
    rw [taken]
    refine ⟨applyEvent_sound page event balanced.sound, ⟨?_, ?_⟩, ?_, ?_, balanced.distinct, ?_⟩
    · intro ticket member
      rw [generations]
      exact balanced.counted.covered ticket member
    · intro key
      rw [generations, next.backend]
      exact balanced.counted.bounded key
    · rw [next.backend]
      exact balanced.spawned
    · intro ticket
      have before := balanced.accounted ticket
      rw [waited] at before
      rw [waits, next.backend, List.count_append, before]
      simp only [Option.toList_some, List.count_nil]
      omega
    · rw [waits]
      simp
  · have untaken : landed? (event.ticket,
        (page.coordinator.apply event page.selection.current now).1) = none := by
      refine if_neg ?_
      rw [Coordinator.apply_isOk_iff]
      exact lands
    rw [applyEvent_of_not_lands lands, untaken]
    simpa using balanced

theorem Balanced.applyEvents (balanced : Balanced issued landed page) (events : List FetchEvent)
    (now : Instant) :
    Balanced issued (landed ++ (verdicts now events page).filterMap landed?)
      (applyEvents now events page).2 := by
  induction events generalizing page landed with
  | nil => simpa [verdicts, Page.applyEvents] using balanced
  | cons event rest ih =>
    have others := ih (balanced.applyEvent event now)
    simp only [verdicts, List.filterMap_cons, Page.applyEvents]
    rw [List.append_assoc] at others
    cases taken : landed? (event.ticket,
      (page.coordinator.apply event page.selection.current now).1) <;> simpa [taken] using others

end

/-! ### Actions and runs -/

section

variable [Backend σ] [Embedder ε] {page : Page (ObservedBackend σ) ε}

omit [Embedder ε] in
theorem calls_le_letGo (page : Page (ObservedBackend σ) ε) :
    page.backend.calls.length ≤ page.letGo.backend.calls.length := by
  cases shown : page.selection.current with
  | none => exact Nat.le_of_eq (by rw [letGo_of_none shown])
  | some key =>
    by_cases pending : page.status key = .pending
    · obtain ⟨done, calls⟩ := letGo_calls shown pending
      rw [calls, List.length_append]
      exact Nat.le_add_right _ _
    · exact Nat.le_of_eq (by rw [letGo_of_settled shown pending])

/-- No call is ever struck off the record. -/
theorem calls_le_perform (sound : page.Sound) (action : PageAction) :
    page.backend.calls.length ≤ (page.perform action).2.backend.calls.length := by
  cases page.course action with
  | activates descriptor found _ activation _ _ alike _ _ performed =>
    obtain ⟨request, started, activated⟩ := exists_activated (activation_ready sound activation).1
    rw [performed, activated.calls, alike.calls, List.length_append]
    exact Nat.le_trans (calls_le_letGo page) (Nat.le_add_right _ _)
  | takes found _ _ _ _ before performed =>
    rw [performed, (found.process_kept action.time).backend]
    rcases before with ⟨alike, _⟩ | ⟨alike, _⟩
    · exact Nat.le_of_eq (by rw [alike.calls])
    · rw [alike.calls]
      exact calls_le_letGo page
  | rests _ _ _ alike _ => exact Nat.le_of_eq (by rw [alike.calls])

theorem calls_le_run (sound : page.Sound) (actions : List PageAction) :
    page.backend.calls.length ≤ (page.run actions).backend.calls.length := by
  induction actions generalizing page with
  | nil => exact Nat.le_refl _
  | cons action rest ih =>
    exact Nat.le_trans (calls_le_perform sound action) (ih (perform_sound page action sound))

/-- The account that one action keeps. -/
theorem Balanced.perform (balanced : Balanced issued landed page) (action : PageAction)
    (room : (page.perform action).2.backend.calls.length ≤ Text.maxWord) :
    Balanced (issued ++ page.issuedBy action) (landed ++ page.landedBy action)
      (page.perform action).2 := by
  have idle := letGo_idle balanced.sound
  cases page.course action with
  | activates descriptor found _ activation untaken _ alike _ _ performed =>
    obtain ⟨ready, -⟩ := activation_ready balanced.sound activation
    obtain ⟨request, started, activated⟩ := exists_activated ready
    have unlanded : page.landedBy action = [] := by simp [landedBy, verdictsOn, untaken]
    rw [issuedBy_of_activation balanced.sound activation, unlanded, List.append_nil]
    rw [performed] at room ⊢
    have calls := activated.calls
    rw [alike.calls] at calls
    have small : page.letGo.backend.calls.length ≤ Text.maxWord := by
      rw [calls, List.length_append] at room
      omega
    have given := balanced.letGo small
    refine (alike.balanced ?_ ?_ given).activate ready room
    · refine ⟨fun key pending => (ready.idle key pending).elim, ?_, ready.shape⟩
      intro key shown
      rw [ready.shown] at shown
      obtain rfl := Option.some.inj shown
      exact ⟨descriptor, ready.resolved⟩
    · rw [waiting_of_idle ready.idle, waiting_of_idle idle]
  | takes found _ inactive intake _ before performed =>
    have landings : page.landedBy action =
        (verdicts action.time found.queue { found with queue := [] }).filterMap landed? := by
      simp [landedBy, verdictsOn, intake]
    have sound := intake_sound balanced.sound intake
    rw [issuedBy_of_inactive inactive, List.append_nil, landings]
    rw [performed] at room ⊢
    rw [(found.process_kept action.time).backend] at room
    have taken : Balanced issued landed found := by
      rcases before with ⟨alike, shown⟩ | ⟨alike, hidden⟩
      · refine alike.balanced sound ?_ balanced
        simp only [waiting, shown, alike.status, alike.coordinator]
      · rw [alike.calls] at room
        refine alike.balanced sound ?_ (balanced.letGo room)
        rw [waiting_of_idle (alike.idle idle), waiting_of_idle idle]
    have dequeued : Balanced issued landed { found with queue := [] } :=
      ⟨sound.dequeued, ⟨taken.counted.covered, taken.counted.bounded⟩, taken.spawned,
        taken.accounted, taken.distinct, taken.newest⟩
    exact dequeued.applyEvents found.queue action.time
  | rests inactive untaken _ alike shown =>
    have unlanded : page.landedBy action = [] := by simp [landedBy, verdictsOn, untaken]
    rw [issuedBy_of_inactive inactive, unlanded, List.append_nil, List.append_nil]
    refine alike.balanced (alike.sound shown balanced.sound) ?_ balanced
    simp only [waiting, shown, alike.status, alike.coordinator]

/-- The account that a whole run keeps. -/
theorem Balanced.run (balanced : Balanced issued landed page) (actions : List PageAction)
    (room : (page.run actions).backend.calls.length ≤ Text.maxWord) :
    Balanced (issued ++ page.along issuedBy actions) (landed ++ page.along landedBy actions)
      (page.run actions) := by
  induction actions generalizing page issued landed with
  | nil => simpa [along, Page.run] using balanced
  | cons action rest ih =>
    have sound := perform_sound page action balanced.sound
    have first := balanced.perform action (Nat.le_trans (calls_le_run sound rest) room)
    have others := ih first room
    rw [List.append_assoc, List.append_assoc] at others
    exact others

end

/-! ### Which actions start a fetch -/

section

variable [Backend σ] [Embedder ε]

/-- A view that was selected, a filter of the view on show that was set, or a refresh of it. -/
def Restarts (page : Page σ ε) (action : PageAction) : Prop :=
  match action with
  | .select _ | .selectSlug _ => (page.perform action).1.isOk
  | .setFilter key _ _ | .setFilterRaw key _ _ =>
    (page.perform action).1.isOk ∧ page.selection.current = some key
  | .refresh => page.selection.current.isSome
  | _ => False

theorem restarts_setFilter (page : Page σ ε) (key : ViewKey) (filter : Filter)
    (value : Option FilterValue) :
    page.Restarts (.setFilter key filter value) ↔ (page.refilter? key filter value).isSome := by
  simp only [Restarts, perform, setFilter, refilter?]
  cases page.forms.setFilter key filter value with
  | error error => simp [Except.isOk, Except.toBool]
  | ok forms =>
    by_cases shown : page.selection.current = some key
    · simp only [shown, if_true]
      cases page.catalog.resolve key <;> simp [Except.isOk, Except.toBool, Except.toOption]
    · simp [shown]

theorem restarts_iff {page : Page σ ε} (sound : page.Sound) (action : PageAction) :
    page.Restarts action ↔ (page.activation? action).isSome := by
  cases action with
  | select key =>
    simp only [Restarts, perform, select, activation?]
    cases page.catalog.resolve key <;> simp [Except.isOk, Except.toBool, Except.toOption]
  | selectSlug raw =>
    simp only [Restarts, perform, selectSlug, activation?]
    cases named : page.catalog.resolveSlug raw with
    | error error => simp [Except.isOk, Except.toBool, Except.toOption]
    | ok descriptor =>
      have resolved := Catalog.resolve_of_resolveSlug named
      simp [select, resolved, Except.isOk, Except.toBool, Except.toOption]
  | setFilter key filter value => exact page.restarts_setFilter key filter value
  | setFilterRaw key filter raw =>
    cases read : filter.read raw with
    | error error =>
      simp [Restarts, perform, setFilterRaw, activation?, read, Except.isOk, Except.toBool,
        Except.toOption]
    | ok value =>
      have same := page.restarts_setFilter key filter value
      simp only [Restarts, perform] at same
      simp only [Restarts, perform, setFilterRaw, activation?, read, same]
      simp [Except.toOption]
  | refresh =>
    simp only [Restarts, activation?]
    cases shown : page.selection.current with
    | none => simp
    | some key =>
      obtain ⟨descriptor, resolved⟩ := sound.shown_listed key shown
      simp [resolved, Except.toOption]
  | process now => simp [Restarts, activation?]
  | wait now => simp [Restarts, activation?]
  | leave now => simp [Restarts, activation?]
  | loadOptions => simp [Restarts, activation?]
  | subscribe => simp [Restarts, activation?]
  | unsubscribe id => simp [Restarts, activation?]
  | deliver events => simp [Restarts, activation?]

/-- A new ticket for an action that starts a fetch, none for any other. -/
theorem Balanced.restarts {page : Page (ObservedBackend σ) ε}
    (balanced : Balanced issued landed page) (action : PageAction)
    (room : (page.perform action).2.backend.calls.length ≤ Text.maxWord) :
    (page.Restarts action → ∃ ticket, ticket ∉ issued ∧ page.issuedBy action = [ticket] ∧
      (page.perform action).2.backend.spawned = page.backend.spawned ++ [ticket]) ∧
    (¬ page.Restarts action → page.issuedBy action = [] ∧
      (page.perform action).2.backend.spawned = page.backend.spawned) := by
  have after := balanced.perform action room
  have spawned := after.spawned
  rw [← balanced.spawned] at spawned
  rw [restarts_iff balanced.sound]
  cases active : page.activation? action with
  | some activation =>
    obtain ⟨descriptor, found⟩ := activation
    have issues := issuedBy_of_activation balanced.sound active
    have distinct := after.distinct
    rw [issues, List.nodup_append] at distinct
    refine ⟨fun _ => ⟨found.nextTicket descriptor, ?_, issues, ?_⟩, by simp⟩
    · intro member
      exact distinct.2.2 _ member _ (List.mem_singleton.mpr rfl) rfl
    · rw [spawned, issues]
  | none =>
    have issues := issuedBy_of_inactive active
    refine ⟨by simp, fun _ => ⟨issues, ?_⟩⟩
    rw [spawned, issues, List.append_nil]

end

/-! ### What becomes of a ticket -/

inductive Fate where
  | pending
  | landed
  | cancelled
  | refused

section

variable [Backend σ] [Embedder ε]

/-- What has become of a ticket by the end of a run. -/
def Meets (start : Page (ObservedBackend σ) ε) (actions : List PageAction) (ticket : Ticket) :
    Fate → Prop
  | .pending => (start.run actions).Awaits ticket
  | .landed => ticket ∈ start.along landedBy actions
  | .cancelled => ticket ∈ (start.run actions).backend.cancelled
  | .refused => ticket ∈ (start.run actions).backend.refused

def whereabouts (start : Page (ObservedBackend σ) ε) (actions : List PageAction) :
    Fate → List Ticket
  | .pending => (start.run actions).waiting
  | .landed => start.along landedBy actions
  | .cancelled => (start.run actions).backend.cancelled
  | .refused => (start.run actions).backend.refused

theorem meets_iff {start : Page (ObservedBackend σ) ε} {actions : List PageAction}
    (sound : (start.run actions).Sound) (ticket : Ticket) (fate : Fate) :
    start.Meets actions ticket fate ↔ 0 < (start.whereabouts actions fate).count ticket := by
  rw [List.count_pos_iff]
  cases fate with
  | pending => exact (mem_waiting sound ticket).symm
  | landed => exact Iff.rfl
  | cancelled => exact Iff.rfl
  | refused => exact Iff.rfl

omit [Backend σ] [Embedder ε] in
theorem only_fate {tally : Fate → Nat}
    (total : tally .pending + tally .landed + tally .cancelled + tally .refused = 1) :
    ∃ fate, 0 < tally fate ∧ ∀ other, 0 < tally other → other = fate := by
  have somewhere : 0 < tally .pending ∨ 0 < tally .landed ∨ 0 < tally .cancelled ∨
      0 < tally .refused := by omega
  rcases somewhere with positive | positive | positive | positive
  all_goals
    refine ⟨_, positive, ?_⟩
    intro other also
    cases other <;> first | rfl | omega

/-- Of four fates a ticket that was issued meets exactly one. -/
theorem exists_fate {start : Page (ObservedBackend σ) ε} {actions : List PageAction}
    (balanced : Balanced issued (start.along landedBy actions) (start.run actions))
    {ticket : Ticket} (given : ticket ∈ issued) :
    ∃ fate, start.Meets actions ticket fate ∧
      ∀ other, start.Meets actions ticket other → other = fate := by
  have once : issued.count ticket = 1 := by
    have most := List.nodup_iff_count.mp balanced.distinct ticket
    have least := List.count_pos_iff.mpr given
    omega
  have total := balanced.accounted ticket
  rw [once] at total
  simp only [meets_iff balanced.sound]
  exact only_fate total.symm

theorem observe_balanced (scenario : ScenarioId) (catalog : Catalog) (backend : σ)
    (embedder : ε) : Balanced [] [] (enter scenario catalog backend embedder).observe := by
  have sound := enter_sound scenario catalog backend embedder
  have empty : (enter scenario catalog backend embedder).observe.coordinator = {} :=
    (enter_alike scenario catalog backend embedder).coordinator
  have idle : (enter scenario catalog backend embedder).observe.Idle := by
    intro key
    simp [status, Coordinator.status, empty]
  refine ⟨⟨sound.pending_shown, sound.shown_listed, sound.shape⟩, ⟨?_, ?_⟩, rfl, ?_,
    List.nodup_nil, ?_⟩
  · simp
  · intro key
    simp [empty]
  · intro ticket
    rw [waiting_of_idle idle]
    rfl
  · rw [waiting_of_idle idle]
    simp

theorem run_observed_sound (scenario : ScenarioId) (catalog : Catalog) (backend : σ)
    (embedder : ε) (actions : List PageAction) :
    ((enter scenario catalog backend embedder).observe.run actions).Sound :=
  run_keeps perform_sound (observe_balanced scenario catalog backend embedder).sound actions

/-- The account is kept at every moment of a run. -/
theorem balanced_before {start : Page (ObservedBackend σ) ε} (initial : Balanced [] [] start)
    (before after : List PageAction)
    (room : (start.run (before ++ after)).backend.calls.length ≤ Text.maxWord) :
    Balanced (start.along issuedBy before) (start.along landedBy before) (start.run before) := by
  rw [run_append] at room
  have later := calls_le_run (run_keeps perform_sound initial.sound before) after
  simpa using initial.run before (Nat.le_trans later room)

/-- The tickets of any run are all different, each was given to the backend once when a view was
activated, and each has met one fate: it is pending and the newest, it landed, it was cancelled
once, or it was refused. This holds for as long as the count of generations lasts. -/
theorem fetches_conserved (scenario : ScenarioId) (catalog : Catalog) (backend : σ) (embedder : ε)
    (actions : List PageAction)
    (few : ((enter scenario catalog backend embedder).observe.run actions).backend.calls.length
      < Text.maxWord) :
    let start := (enter scenario catalog backend embedder).observe
    let page := start.run actions
    let issued := start.along issuedBy actions
    page.plain = (enter scenario catalog backend embedder).run actions ∧
      issued.Nodup ∧ page.backend.spawned = issued ∧
      (∀ before action after, actions = before ++ action :: after →
        ((start.run before).Restarts action → ∃ ticket, ticket ∉ start.along issuedBy before ∧
          (start.run before).issuedBy action = [ticket] ∧
          ((start.run before).perform action).2.backend.spawned =
            (start.run before).backend.spawned ++ [ticket]) ∧
        (¬ (start.run before).Restarts action → (start.run before).issuedBy action = [] ∧
          ((start.run before).perform action).2.backend.spawned =
            (start.run before).backend.spawned)) ∧
      (∀ ticket ∈ issued, ∃ fate, start.Meets actions ticket fate ∧
        ∀ other, start.Meets actions ticket other → other = fate) ∧
      (∀ ticket, start.Meets actions ticket .pending →
        page.selection.current = some ticket.key ∧ issued.getLast? = some ticket) ∧
      page.backend.cancelled.Nodup ∧ (∀ ticket ∈ page.backend.cancelled, ticket ∈ issued) ∧
      ∀ ticket ∈ start.along landedBy actions, ticket ∈ issued ∧
        ticket ∉ page.backend.cancelled ∧ ticket ∉ page.backend.refused := by
  intro start page issued
  have initial := observe_balanced scenario catalog backend embedder
  have whole : Balanced issued (start.along landedBy actions) page := by
    refine balanced_before initial actions [] ?_
    rw [List.append_nil]
    exact Nat.le_of_lt few
  have counts := whole.counts
  refine ⟨run_plain _ actions, whole.distinct, whole.spawned, ?_, fun ticket given =>
    exists_fate whole given, ?_, ?_, ?_, ?_⟩
  · intro before action after split
    have room : (start.run (before ++ action :: after)).backend.calls.length ≤ Text.maxWord := by
      rw [← split]
      exact Nat.le_of_lt few
    have sound := run_keeps perform_sound initial.sound before
    have later := calls_le_run (perform_sound _ action sound) after
    refine (balanced_before initial before _ room).restarts action (Nat.le_trans later ?_)
    rw [run_append] at room
    exact room
  · intro ticket awaits
    have member := (mem_waiting whole.sound ticket).mpr awaits
    exact ⟨whole.sound.pending_shown _ awaits.1, whole.newest ticket member⟩
  · rw [List.nodup_iff_count]
    intro ticket
    have bounds := counts ticket
    omega
  · intro ticket member
    have bounds := counts ticket
    have positive := List.count_pos_iff.mpr member
    exact List.count_pos_iff.mp (by omega)
  · intro ticket member
    have bounds := counts ticket
    have positive := List.count_pos_iff.mpr member
    refine ⟨List.count_pos_iff.mp (by omega), ?_, ?_⟩
    · intro also
      have twice := List.count_pos_iff.mpr also
      omega
    · intro also
      have twice := List.count_pos_iff.mpr also
      omega

/-- A completion lands for the view selected last, whose ticket is then not cancelled. -/
theorem fetches_conserved_landed :
    let ticket : Ticket := ⟨.systemRps, ⟨1⟩⟩
    let start := (enter ⟨7⟩ .standard ({ deferred := true } : ScriptedBackend)
      ({} : Recorder)).observe
    let actions : List PageAction := [.select .dispatchPlot, .select .systemRps,
      .deliver [⟨ticket, .table []⟩], .process ⟨5⟩]
    (start.run actions).backend.calls.length < Text.maxWord ∧
      ticket ∈ start.along landedBy actions ∧
      (start.run actions).backend.cancelled = [⟨.dispatchPlot, ⟨1⟩⟩] ∧
      ticket ∉ (start.run actions).backend.refused := by
  intro ticket start actions
  have few : (start.run actions).backend.calls.length < Text.maxWord := by decide +kernel
  have landed : ticket ∈ start.along landedBy actions := by decide +kernel
  have cancelled : (start.run actions).backend.cancelled = [⟨.dispatchPlot, ⟨1⟩⟩] := by
    decide +kernel
  obtain ⟨-, -, -, -, -, -, -, -, applied⟩ := fetches_conserved ⟨7⟩ .standard
    ({ deferred := true } : ScriptedBackend) ({} : Recorder) actions few
  exact ⟨few, landed, cancelled, (applied ticket landed).2.2⟩

end

end ScenarioResults.Page
