import ScenarioResults.Embedder.Recorder
import ScenarioResults.Proofs.Backend.Sampled
import ScenarioResults.Proofs.Page.Departure
import ScenarioResults.Proofs.Page.Paired
import ScenarioResults.Proofs.Page.Undated

/-!
# Fetches held back come to the same

A backend that answers at once fills the queue of its page, one that holds fetches back leaves it
empty. While the page is steered and takes no completions, the two pages differ in nothing else. What
the first queue has lost by then, when the page was left, are answers to tickets that were cancelled,
so they do no harm when they come with all the others at the end (`deferred_comes_to_same`).
-/

namespace ScenarioResults

/-- All calls on record are starts and cancellations. -/
theorem ObservedBackend.length_calls {σ : Type} (backend : ObservedBackend σ) :
    backend.calls.length = backend.spawned.length + backend.cancelled.length := by
  unfold spawned cancelled
  induction backend.calls with
  | nil => rfl
  | cons call rest ih =>
    cases call with
    | spawn request started =>
      simp only [List.length_cons, List.filterMap_cons, FetchCall.spawned?, FetchCall.cancelled?]
      omega
    | cancel ticket done =>
      simp only [List.length_cons, List.filterMap_cons, FetchCall.spawned?, FetchCall.cancelled?]
      omega

theorem ObservedBackend.spawn_started {σ : Type} [Backend σ] {backend : ObservedBackend σ}
    {request : FetchRequest} {events : List FetchEvent} {inner : σ}
    (started : Backend.spawn request backend.inner = (.ok events, inner)) :
    Backend.spawn request backend =
      (.ok events, ⟨inner, backend.calls ++ [.spawn request true]⟩) := by
  have observed : Backend.spawn request backend =
      ((Backend.spawn request backend.inner).1, ⟨(Backend.spawn request backend.inner).2,
        backend.calls ++ [.spawn request (Backend.spawn request backend.inner).1.isOk]⟩) := rfl
  rw [observed, started]
  rfl

/-! ### What every call of a backend keeps -/

structure Backend.Keeps {σ : Type} [Backend σ] (kept : σ → Prop) : Prop where
  options : ∀ {state}, kept state → ∀ scenario, kept (Backend.options scenario state).2
  spawn : ∀ {state}, kept state → ∀ request, kept (Backend.spawn request state).2
  cancel : ∀ {state}, kept state → ∀ ticket, kept (Backend.cancel ticket state).2
  arrivals : ∀ {state}, kept state → kept (Backend.arrivals state).2

namespace Page

section

variable {σ ε : Type} [Backend σ] {kept : σ → Prop} (keeps : Backend.Keeps kept)

include keeps

theorem letGo_backend {page : Page σ ε} (before : kept page.backend) :
    kept page.letGo.backend := by
  cases shown : page.selection.current with
  | none =>
    rw [letGo_of_none shown]
    exact before
  | some key =>
    by_cases pending : page.status key = .pending
    · rw [letGo_of_pending shown pending]
      exact keeps.cancel before _
    · rw [letGo_of_settled shown pending]
      exact before

theorem alike_backend {page other : Page σ ε} (alike : page.Alike other)
    (before : kept page.backend) : kept other.backend := by
  have quiet := alike.backend
  generalize other.backend = next at quiet ⊢
  cases quiet with
  | same => exact before
  | options scenario => exact keeps.options before scenario
  | arrivals => exact keeps.arrivals before

theorem activate_backend {page : Page σ ε} (before : kept page.backend)
    (descriptor : ViewDescriptor) : kept (page.activate descriptor).2.backend := by
  cases plan : Coordinator.plotPlan descriptor (page.formFor descriptor) with
  | error error =>
    rw [activate_unplanned plan]
    exact before
  | ok plot =>
    have after := keeps.spawn before (page.planned descriptor plot)
    rcases answer : Backend.spawn (page.planned descriptor plot) page.backend with
      ⟨fault | events, backend⟩
    · rw [answer] at after
      rw [activate_refused plan answer]
      exact after
    · rw [answer] at after
      rw [activate_started plan answer]
      exact after

variable [Embedder ε]

theorem perform_backend {page : Page σ ε} (before : kept page.backend) (action : PageAction) :
    kept (page.perform action).2.backend := by
  have released := letGo_backend keeps before
  cases page.course action with
  | activates descriptor found _ _ _ _ alike _ _ performed =>
    rw [performed]
    exact activate_backend keeps (alike_backend keeps alike released) descriptor
  | takes found _ _ _ _ course performed =>
    rw [performed, (found.process_kept action.time).backend]
    rcases course with ⟨alike, -⟩ | ⟨alike, -⟩
    · exact alike_backend keeps alike before
    · exact alike_backend keeps alike released
  | rests _ _ _ alike _ => exact alike_backend keeps alike before

theorem run_backend {page : Page σ ε} (before : kept page.backend) (actions : List PageAction) :
    kept (page.run actions).backend := by
  induction actions generalizing page with
  | nil => exact before
  | cons action rest ih => exact ih (perform_backend keeps before action)

end

end Page

/-! ### A backend that holds fetches back -/

namespace SampledBackend

/-- Every fetch that was started is held back, and every one that was cancelled is on the list. -/
structure Holds (backend : ObservedBackend SampledBackend) : Prop where
  deferred : backend.inner.deferred = true
  held : backend.inner.held.map FetchRequest.ticket = backend.spawned
  cancelled : backend.inner.cancelled = backend.cancelled
  started : backend.refused = []

theorem spawn_observed {backend : ObservedBackend SampledBackend}
    (deferred : backend.inner.deferred = true) (request : FetchRequest) :
    Backend.spawn request backend =
      (.ok [], ⟨{ backend.inner with held := backend.inner.held ++ [request] },
        backend.calls ++ [.spawn request true]⟩) :=
  ObservedBackend.spawn_started (spawn_deferred deferred request)

theorem holds_keeps : Backend.Keeps Holds := by
  constructor
  · rintro backend ⟨deferred, held, cancelled, started⟩ scenario
    exact ⟨deferred, held, cancelled, started⟩
  · rintro backend ⟨deferred, held, cancelled, started⟩ request
    rw [spawn_observed deferred]
    refine ⟨deferred, ?_, ?_, ?_⟩
    · rw [ObservedBackend.spawned_of_spawn rfl, List.map_append, held]
      rfl
    · rw [ObservedBackend.cancelled_of_spawn rfl]
      exact cancelled
    · rw [ObservedBackend.refused_of_spawn rfl, started]
      rfl
  · rintro backend ⟨deferred, held, cancelled, started⟩ ticket
    refine ⟨deferred, ?_, ?_, ?_⟩
    · rw [ObservedBackend.spawned_of_cancel rfl]
      exact held
    · rw [ObservedBackend.cancelled_of_cancel rfl, ← cancelled]
      rfl
    · rw [ObservedBackend.refused_of_cancel rfl]
      exact started
  · rintro backend ⟨deferred, held, cancelled, started⟩
    exact ⟨deferred, held, cancelled, started⟩

theorem Holds.length_calls {backend : ObservedBackend SampledBackend} (holds : Holds backend) :
    backend.calls.length = backend.inner.held.length + backend.inner.cancelled.length := by
  rw [backend.length_calls, ← holds.held, ← holds.cancelled, List.length_map]

/-- A backend that holds fetches back beside one that answers them at once. What the queue of the
second has lost are answers to tickets that were cancelled. -/
structure Defers (first : ObservedBackend SampledBackend) (queue : List FetchEvent)
    (second : ObservedBackend SampledBackend) (other : List FetchEvent) : Prop where
  holds : Holds first
  prompt : second.inner.deferred = false
  akin : first.inner.Akin second.inner
  unanswered : queue = []
  lost : ∃ early, first.inner.held.map first.inner.eventOf = early ++ other ∧
    ∀ event ∈ early, event.ticket ∈ first.cancelled

theorem defers_pairs : Backend.Pairs Defers := by
  constructor
  · rintro first _ second other ⟨holds, prompt, akin, rfl, early, split, stale⟩ request
    have after := holds_keeps.spawn holds request
    have akinHeld : first.inner.Akin
        { first.inner with held := first.inner.held ++ [request] } := ⟨rfl, rfl, rfl⟩
    rw [spawn_observed holds.deferred] at after
    rw [spawn_observed holds.deferred,
      ObservedBackend.spawn_started (spawn_prompt prompt request)]
    refine .started ⟨after, prompt, ⟨akin.seed, akin.failures, akin.voids⟩, rfl, early, ?_, ?_⟩
    · rw [akinHeld.events, akin.eventOf, List.map_append, split, List.append_assoc]
      rfl
    · rw [ObservedBackend.cancelled_of_spawn rfl]
      exact stale
  · rintro first _ second other ⟨holds, prompt, akin, rfl, early, split, stale⟩ ticket
    have akinCancelled : first.inner.Akin (Backend.cancel ticket first).2.inner := ⟨rfl, rfl, rfl⟩
    refine ⟨holds_keeps.cancel holds ticket, prompt, ⟨akin.seed, akin.failures, akin.voids⟩, rfl,
      early, ?_, ?_⟩
    · rw [akinCancelled.events]
      exact split
    · rw [ObservedBackend.cancelled_of_cancel rfl]
      intro event member
      exact List.mem_append_left _ (stale event member)

theorem defers_apart : Backend.Apart Defers := by
  constructor
  · rintro first _ second other ⟨holds, prompt, akin, rfl, early, split, stale⟩ scenario
    have akinAsked : first.inner.Akin (Backend.options scenario first).2.inner := ⟨rfl, rfl, rfl⟩
    refine ⟨holds_keeps.options holds scenario, prompt, ⟨akin.seed, akin.failures, akin.voids⟩, rfl,
      early, ?_, stale⟩
    rw [akinAsked.events]
    exact split
  · rintro first _ second other ⟨holds, prompt, akin, rfl, lost⟩ scenario
    exact ⟨holds, prompt, ⟨akin.seed, akin.failures, akin.voids⟩, rfl, lost⟩

end SampledBackend

/-- An action that takes no completions, unless it leaves the page. -/
def PageAction.Steers : PageAction → Prop
  | .process _ | .wait _ | .deliver _ => False
  | _ => True

namespace Page

variable {σ ε : Type}

/-! ### Pages that are left -/

section

variable {issued landed : List Ticket} {page : Page (ObservedBackend σ) ε}

/-- A ticket that is waited for is not cancelled. -/
theorem Balanced.not_cancelled (balanced : Balanced issued landed page) {ticket : Ticket}
    (awaits : page.Awaits ticket) : ticket ∉ page.backend.cancelled := by
  intro member
  have waits := List.count_pos_iff.mpr ((mem_waiting balanced.sound ticket).mpr awaits)
  have given := List.count_pos_iff.mpr member
  have total := balanced.accounted ticket
  have once := (balanced.counts ticket).2
  omega

/-- Where nothing is waited for, nothing has landed and nothing was refused, all is cancelled. -/
theorem Balanced.all_cancelled (balanced : Balanced issued [] page) (idle : page.Idle)
    (started : page.backend.refused = []) :
    ∀ ticket ∈ page.backend.spawned, ticket ∈ page.backend.cancelled := by
  intro ticket member
  rw [balanced.spawned] at member
  have given := List.count_pos_iff.mpr member
  have total := balanced.accounted ticket
  rw [waiting_of_idle idle, started] at total
  simp only [List.count_nil] at total
  exact List.count_pos_iff.mp (by omega)

end

/-! ### Steering both pages -/

section

variable [Embedder ε] {issued : List Ticket}
  {page twin : Page (ObservedBackend SampledBackend) ε}

/-- No completion lands on the page whose fetches are held back. -/
theorem landedBy_deferred (empty : page.queue = []) {action : PageAction}
    (steers : action.Steers) : page.landedBy action = [] := by
  cases action with
  | leave now =>
    have left : page.depart.queue = [] := by
      rw [depart_eq]
      unfold letGo
      split
      · rw [release_eq]
        exact empty
      · exact empty
    simp [landedBy, verdictsOn, intake?, left, verdicts]
  | process now => exact steers.elim
  | wait now => exact steers.elim
  | deliver events => exact steers.elim
  | _ => rfl

/-- The page that is left loses what waits in its queue, all of it answers to cancelled tickets. -/
theorem leave_deferred (pair : Paired SampledBackend.Defers page twin) {now : Instant}
    (after : Balanced issued [] (page.perform (.leave now)).2) (sound : page.Sound) :
    Paired SampledBackend.Defers (page.perform (.leave now)).2 (twin.perform (.leave now)).2 := by
  have departed := pair.depart SampledBackend.defers_pairs
  have idle := depart_idle sound
  have twinIdle : twin.depart.Idle := by
    intro key
    rw [Page.status, departed.coordinator]
    exact idle key
  have left : (page.perform (.leave now)).2 = page.depart := by
    have nothing := process_of_empty departed.backends.unanswered now
    simp only [perform, leave, nothing]
  have twinLeft : (twin.perform (.leave now)).2 = { twin.depart with queue := [] } :=
    congrArg Prod.snd (process_of_idle twinIdle now)
  rw [left] at after ⊢
  rw [twinLeft]
  obtain ⟨holds, prompt, akin, unanswered, -⟩ := departed.backends
  have all := after.all_cancelled idle holds.started
  refine ⟨departed.scenario, departed.catalog, departed.selection, departed.forms,
    departed.coordinator, departed.embedder, holds, prompt, akin, unanswered, _,
    (List.append_nil _).symm, ?_⟩
  intro event member
  obtain ⟨request, waits, rfl⟩ := List.mem_map.mp member
  rw [SampledBackend.eventOf_ticket]
  refine all _ ?_
  rw [← holds.held]
  exact List.mem_map_of_mem waits

theorem perform_deferred (pair : Paired SampledBackend.Defers page twin)
    (balanced : Balanced issued [] page) {action : PageAction} (steers : action.Steers)
    (room : (page.perform action).2.backend.calls.length ≤ Text.maxWord) :
    Balanced (issued ++ page.issuedBy action) [] (page.perform action).2 ∧
      Paired SampledBackend.Defers (page.perform action).2 (twin.perform action).2 := by
  have after := balanced.perform action room
  rw [landedBy_deferred pair.backends.unanswered steers, List.append_nil] at after
  have pairs := SampledBackend.defers_pairs
  refine ⟨after, ?_⟩
  cases action with
  | select key => exact (pair.select pairs key).paired
  | selectSlug raw => exact (pair.selectSlug pairs raw).paired
  | setFilter key filter value => exact (pair.setFilter pairs key filter value).paired
  | setFilterRaw key filter raw => exact (pair.setFilterRaw pairs key filter raw).paired
  | refresh => exact (pair.refresh pairs).paired
  | leave now => exact leave_deferred pair after balanced.sound
  | loadOptions => exact pair.loadOptions SampledBackend.defers_apart
  | subscribe =>
    simp only [Page.perform, Page.subscribe, pair.selection]
    exact pair.selected _
  | unsubscribe id =>
    simp only [Page.perform, Page.unsubscribe, pair.selection]
    exact pair.selected _
  | process now => exact steers.elim
  | wait now => exact steers.elim
  | deliver events => exact steers.elim

theorem run_deferred (pair : Paired SampledBackend.Defers page twin)
    (balanced : Balanced issued [] page) {actions : List PageAction}
    (steered : ∀ action ∈ actions, action.Steers)
    (room : (page.run actions).backend.calls.length ≤ Text.maxWord) :
    Balanced (issued ++ page.along issuedBy actions) [] (page.run actions) ∧
      Paired SampledBackend.Defers (page.run actions) (twin.run actions) := by
  induction actions generalizing page twin issued with
  | nil => exact ⟨by simpa [along, Page.run] using balanced, pair⟩
  | cons action rest ih =>
    obtain ⟨steers, others⟩ := List.forall_mem_cons.mp steered
    have soundNext := perform_sound page action balanced.sound
    obtain ⟨after, next⟩ := perform_deferred pair balanced steers
      (Nat.le_trans (calls_le_run soundNext rest) room)
    have final := ih next after others room
    rw [List.append_assoc] at final
    exact final

end

/-! ### Catching up -/

section

variable [Embedder ε]

theorem applyEvents_append (first second : List FetchEvent) (page : Page σ ε) (now : Instant) :
    (applyEvents now (first ++ second) page).2 =
      (applyEvents now second (applyEvents now first page).2).2 := by
  induction first generalizing page with
  | nil => rfl
  | cons event rest ih => exact ih _

theorem issued_plain [Backend σ]
    (page : Page (ObservedBackend σ) (ObservedEmbedder ε)) (actions : List PageAction) :
    page.plain.along issuedBy actions = page.along issuedBy actions := by
  induction actions generalizing page with
  | nil => rfl
  | cons action rest ih =>
    have carried : page.plain.perform action = (page.perform action).map id plain :=
      carry_perform ObservedBackend.inner_carries ObservedEmbedder.inner_carries page action
    have issued : page.plain.issuedBy action = page.issuedBy action := by
      unfold issuedBy
      rw [carried]
      rfl
    unfold along
    rw [issued, carried, Prod.map_snd, ih]

/-- What comes at the end to the page whose fetches were held back is what the other page has lost,
which is stale, and then what still waits in its queue. -/
theorem caught_up {issued : List Ticket}
    {page twin : Page (ObservedBackend SampledBackend) (ObservedEmbedder ε)}
    (pair : Paired SampledBackend.Defers page twin) (balanced : Balanced issued [] page)
    (now : Instant) :
    Paired (fun _ _ _ _ => True)
      ((({ page.plain with backend := page.plain.backend.completeAll.2 } :
        Page SampledBackend ε).deliver page.plain.backend.completeAll.1).process now).2
      (twin.plain.process now).2 := by
  obtain ⟨-, -, -, unanswered, early, split, cancelled⟩ := pair.backends
  let base : Page SampledBackend ε :=
    { page.plain with backend := page.plain.backend.completeAll.2, queue := [] }
  have stale : ∀ event ∈ early, ¬ base.coordinator.Lands event base.selection.current := by
    intro event member lands
    exact balanced.not_cancelled ⟨lands.pending, lands.current⟩ (cancelled event member)
  have events : page.plain.backend.completeAll.1 = early ++ twin.queue := by
    rw [SampledBackend.completeAll_eq]
    exact split
  have dequeued : ({ page.plain with backend := page.plain.backend.completeAll.2 } :
      Page SampledBackend ε).deliver page.plain.backend.completeAll.1 =
        { base with queue := early ++ twin.queue } := by
    have queue : page.plain.queue = [] := unanswered
    simp only [deliver, queue, events, List.nil_append]
    rfl
  have settled :
      (({ base with queue := early ++ twin.queue } : Page SampledBackend ε).process now).2 =
        (applyEvents now twin.queue base).2 := by
    have taken :
        (({ base with queue := early ++ twin.queue } : Page SampledBackend ε).process now).2 =
          (applyEvents now (early ++ twin.queue) base).2 := rfl
    rw [taken, applyEvents_append, applyEvents_stale stale]
  have before : Paired (fun _ _ _ _ => True) base { twin.plain with queue := [] } :=
    ⟨pair.scenario, pair.catalog, pair.selection, pair.forms, pair.coordinator,
      congrArg ObservedEmbedder.inner pair.embedder, trivial⟩
  rw [dequeued, settled]
  exact (before.applyEvents now twin.queue).paired

end

/-- A backend that was not asked for a fetch yet, beside one like it that will not hold any back. -/
structure Untried (first : SampledBackend) (queue : List FetchEvent) (second : SampledBackend)
    (other : List FetchEvent) : Prop where
  deferred : first.deferred = true
  prompt : second.deferred = false
  akin : first.Akin second
  held : first.held = []
  cancelled : first.cancelled = []
  unanswered : queue = []
  empty : other = []

theorem untried_apart : Backend.Apart Untried := by
  constructor
  · rintro first queue second other ⟨deferred, prompt, akin, held, cancelled, unanswered, empty⟩ scenario
    exact ⟨deferred, prompt, ⟨akin.seed, akin.failures, akin.voids⟩, held, cancelled, unanswered,
      empty⟩
  · rintro first queue second other ⟨deferred, prompt, akin, held, cancelled, unanswered, empty⟩ scenario
    exact ⟨deferred, prompt, ⟨akin.seed, akin.failures, akin.voids⟩, held, cancelled, unanswered,
      empty⟩

theorem untried_observed {page twin : Page SampledBackend ε} (pair : Paired Untried page twin) :
    Paired SampledBackend.Defers page.observe twin.observe := by
  obtain ⟨deferred, prompt, akin, held, cancelled, unanswered, empty⟩ := pair.backends
  have holds : SampledBackend.Holds page.observe.backend := by
    refine ⟨deferred, ?_, cancelled, rfl⟩
    have none_held : page.observe.backend.inner.held = [] := held
    rw [none_held]
    rfl
  refine ⟨pair.scenario, pair.catalog, pair.selection, pair.forms, pair.coordinator,
    congrArg (fun inner => ({ inner } : ObservedEmbedder ε)) pair.embedder, holds, prompt, akin,
    unanswered, [], ?_, by simp⟩
  have none_held : page.observe.backend.inner.held = [] := held
  have none_queued : twin.observe.queue = [] := empty
  rw [none_held, none_queued]
  rfl

/-- Whatever a page is steered through, it makes no difference whether the backend answered at once or
held its fetches back and completed them at the end. All that is held is completed, once and in the
order of issue, whether in one go or ticket by ticket, and nothing stays held. The slots differ at most
in the times, if the two pages process what came at different times. The lists of the backend only have
to be shorter than the count of generations, which no list in memory outgrows. -/
theorem deferred_comes_to_same [Embedder ε] (scenario : ScenarioId) (catalog : Catalog)
    (seed : UInt64) (offered : Except String ResultsOptions) (failures : ViewMap String)
    (voids : List ViewKey) (embedder : ε) (actions : List PageAction)
    (steered : ∀ action ∈ actions, action.Steers)
    (few : let late := (enter scenario catalog
        ({ seed, offered, failures, voids, deferred := true } : SampledBackend) embedder).run actions
      late.backend.held.length + late.backend.cancelled.length < Text.maxWord)
    (now later : Instant) :
    let start := enter scenario catalog
      ({ seed, offered, failures, voids, deferred := true } : SampledBackend) embedder
    let late := start.run actions
    let prompt := (enter scenario catalog
      ({ seed, offered, failures, voids } : SampledBackend) embedder).run actions
    let completed := late.backend.completeAll
    let caughtUp :=
      ((({ late with backend := completed.2 } : Page _ ε).deliver completed.1).process now).2
    completed.1 = late.backend.held.map (fun request => (request.execute late.backend).1) ∧
      late.backend.held.map FetchRequest.ticket = start.along issuedBy actions ∧
      completed.2.held = [] ∧
      SampledBackend.completeEach (late.backend.held.map FetchRequest.ticket) late.backend =
        (.ok completed.1, completed.2) ∧
      caughtUp.selection = (prompt.process later).2.selection ∧
      caughtUp.forms.forms = (prompt.process later).2.forms.forms ∧
      caughtUp.coordinator.undated = (prompt.process later).2.coordinator.undated ∧
      (now = later → caughtUp.coordinator = (prompt.process later).2.coordinator) ∧
      caughtUp.embedder = (prompt.process later).2.embedder := by
  intro start late prompt completed caughtUp
  have untried : Untried
      { seed, offered, failures, voids, deferred := true } [] { seed, offered, failures, voids } [] :=
    ⟨rfl, rfl, ⟨rfl, rfl, rfl⟩, rfl, rfl, rfl, rfl⟩
  have entered := enter_paired untried_apart untried scenario catalog embedder
  have watched := untried_observed entered
  have plain : (start.observe.run actions).plain = late := run_plain start actions
  have holds := run_backend SampledBackend.holds_keeps watched.backends.holds actions
  have room : (start.observe.run actions).backend.calls.length ≤ Text.maxWord := by
    have inner : (start.observe.run actions).backend.inner = late.backend := by
      rw [← plain]
      rfl
    rw [holds.length_calls, inner]
    exact Nat.le_of_lt few
  obtain ⟨balanced, pair⟩ :=
    run_deferred watched (observe_balanced scenario catalog _ embedder) steered room
  have same := caught_up pair balanced now
  rw [plain, run_plain] at same
  obtain ⟨options, forms⟩ := same.forms
  have redated : (prompt.process now).2.undated = (prompt.process later).2.undated :=
    congrArg Prod.snd (process_undated prompt now later)
  refine ⟨?_, ?_, ?_, SampledBackend.completeEach_held late.backend, ?_, ?_, ?_, ?_, ?_⟩
  · exact congrArg Prod.fst late.backend.completeAll_eq
  · rw [← plain]
    refine holds.held.trans ?_
    rw [balanced.spawned, List.nil_append]
    exact (issued_plain start.observe actions).symm
  · exact congrArg (fun result => result.2.held) late.backend.completeAll_eq
  · have shown := congrArg Page.selection redated
    exact same.selection.symm.trans shown
  · have values := congrArg (fun page => page.forms.forms) redated
    exact (congrArg ParameterForms.forms forms).symm.trans values
  · have slots := congrArg Page.coordinator redated
    exact (congrArg Coordinator.undated same.coordinator).symm.trans slots
  · rintro rfl
    exact same.coordinator.symm
  · have drawn := congrArg Page.embedder redated
    exact same.embedder.symm.trans drawn

/-- A plot is fetched four times and a table once, two of them before the page was left. All but the last
are cancelled, and one plot is drawn. -/
theorem deferred_comes_to_same_left :
    let actions : List PageAction := [.select .dispatchPlot, .select .systemRps, .leave ⟨3⟩,
      .select .dispatchPlot, .setFilter .dispatchPlot .loadZone (some (.text "North")), .refresh]
    let late := (enter ⟨7⟩ .standard
      ({ seed := 1, offered := .ok {}, deferred := true } : SampledBackend) ({} : Recorder)).run actions
    let prompt := (enter ⟨7⟩ .standard
      ({ seed := 1, offered := .ok {} } : SampledBackend) ({} : Recorder)).run actions
    let completed := late.backend.completeAll
    let caughtUp :=
      ((({ late with backend := completed.2 } : Page _ Recorder).deliver completed.1).process ⟨9⟩).2
    late.backend.held.length = 5 ∧ late.backend.cancelled.length = 4 ∧ prompt.queue.length = 3 ∧
      caughtUp.coordinator.undated = (prompt.process ⟨5⟩).2.coordinator.undated ∧
      caughtUp.embedder = (prompt.process ⟨5⟩).2.embedder ∧
      caughtUp.embedder.embedded.length = 1 := by
  intro actions late prompt completed caughtUp
  have steered : ∀ action ∈ actions, action.Steers := by simp [actions, PageAction.Steers]
  have held : late.backend.held.length = 5 := by decide +kernel
  have cancelled : late.backend.cancelled.length = 4 := by decide +kernel
  have few : late.backend.held.length + late.backend.cancelled.length < Text.maxWord := by
    rw [held, cancelled]
    decide
  obtain ⟨-, -, -, -, -, -, coordinator, -, embedder⟩ := deferred_comes_to_same ⟨7⟩ .standard 1
    (.ok {}) .empty [] ({} : Recorder) actions steered few ⟨9⟩ ⟨5⟩
  have drawn : (prompt.process ⟨5⟩).2.embedder.embedded.length = 1 := by decide +kernel
  refine ⟨held, cancelled, by decide +kernel, coordinator, embedder, ?_⟩
  exact (congrArg (fun recorder => recorder.embedded.length) embedder).trans drawn

end Page

end ScenarioResults
