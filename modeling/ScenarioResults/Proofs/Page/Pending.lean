import ScenarioResults.Backend.Scripted
import ScenarioResults.Embedder.Recorder
import ScenarioResults.Proofs.Page.Parts

/-!
# Only the view on show has a fetch under way

`Sound` is kept by every action, whatever the backend answers and whatever completions come in: a
pending slot is that of the view on show. The fetch of the view that goes is given up before another
one starts, so an activation always finds a page on which nothing is pending.
-/

namespace ScenarioResults.Page

variable {σ ε : Type}

/-- What holds of a page after any actions. -/
structure Sound (page : Page σ ε) : Prop where
  pending_shown : ∀ key, page.status key = .pending → page.selection.current = some key
  shown_listed : ∀ key, page.selection.current = some key →
    ∃ descriptor, page.catalog.resolve key = .ok descriptor
  shape : page.forms.shape = (ParameterForms.ofCatalog page.catalog).shape

/-- Nothing is under way. -/
def Idle (page : Page σ ε) : Prop := ∀ key, page.status key ≠ .pending

/-- A page that is about to activate the view it has just put on show. -/
structure Ready (page : Page σ ε) (descriptor : ViewDescriptor) : Prop where
  idle : page.Idle
  resolved : page.catalog.resolve descriptor.key = .ok descriptor
  shown : page.selection.current = some descriptor.key
  shape : page.forms.shape = (ParameterForms.ofCatalog page.catalog).shape

theorem Idle.sound {page : Page σ ε} (idle : page.Idle) (hidden : page.selection.current = none)
    (shape : page.forms.shape = (ParameterForms.ofCatalog page.catalog).shape) : page.Sound := by
  refine ⟨?_, ?_, shape⟩
  · intro key pending
    exact (idle key pending).elim
  · intro key shown
    rw [hidden] at shown
    cases shown

theorem Sound.dequeued {page : Page σ ε} (sound : page.Sound) :
    ({ page with queue := [] } : Page σ ε).Sound :=
  ⟨sound.pending_shown, sound.shown_listed, sound.shape⟩

theorem Fixed.shape {page next : Page σ ε} (fixed : page.Fixed next)
    (shape : page.forms.shape = (ParameterForms.ofCatalog page.catalog).shape) :
    next.forms.shape = (ParameterForms.ofCatalog next.catalog).shape := by
  rw [fixed.forms, fixed.catalog]
  exact shape

/-! ### Fetches given up and started -/

section

variable [Backend σ] {page other : Page σ ε}

theorem Alike.status (alike : page.Alike other) (key : ViewKey) :
    other.status key = page.status key := by
  simp only [Page.status, alike.coordinator]

theorem Alike.formed (alike : page.Alike other)
    (shape : page.forms.shape = (ParameterForms.ofCatalog page.catalog).shape) :
    other.forms.shape = (ParameterForms.ofCatalog other.catalog).shape := by
  rw [alike.shape, alike.catalog]
  exact shape

theorem Alike.idle (alike : page.Alike other) (idle : page.Idle) : other.Idle := by
  intro key
  rw [alike.status]
  exact idle key

theorem Alike.sound (alike : page.Alike other)
    (shown : other.selection.current = page.selection.current) (sound : page.Sound) :
    other.Sound := by
  refine ⟨?_, ?_, alike.formed sound.shape⟩
  · intro key pending
    rw [alike.status] at pending
    rw [shown]
    exact sound.pending_shown key pending
  · rw [shown, alike.catalog]
    exact sound.shown_listed

/-- Only the view on show can have a fetch to be given up, so none is left. -/
theorem letGo_idle (sound : page.Sound) : page.letGo.Idle := by
  intro key pending
  cases shown : page.selection.current with
  | none =>
    rw [letGo_of_none shown] at pending
    have stillShown := sound.pending_shown key pending
    rw [shown] at stillShown
    cases stillShown
  | some current =>
    -- Whatever is pending is pending for the view on show, and that is the one that is given up.
    by_cases waiting : page.status current = .pending
    · rw [letGo_of_pending shown waiting] at pending
      simp only [Page.status, Coordinator.status, Coordinator.slot_putSlot] at pending
      split at pending
      next => exact ViewSlot.abandon_not_pending _ pending
      next different =>
        have stillShown := sound.pending_shown key pending
        rw [shown] at stillShown
        exact different (Option.some.inj stillShown).symm
    · rw [letGo_of_settled shown waiting] at pending
      have stillShown := sound.pending_shown key pending
      rw [shown] at stillShown
      obtain rfl := Option.some.inj stillShown
      exact waiting pending

theorem letGo_shape (sound : page.Sound) :
    page.letGo.forms.shape = (ParameterForms.ofCatalog page.letGo.catalog).shape := by
  rw [letGo_forms, letGo_catalog]
  exact sound.shape

theorem letGo_sound (sound : page.Sound) : page.letGo.Sound := by
  refine ⟨?_, ?_, letGo_shape sound⟩
  · intro key pending
    exact (letGo_idle sound key pending).elim
  · rw [letGo_selection, letGo_catalog]
    exact sound.shown_listed

theorem activate_sound {descriptor : ViewDescriptor} (ready : page.Ready descriptor) :
    (page.activate descriptor).2.Sound := by
  have touched := page.activate_touched descriptor
  refine ⟨?_, ?_, touched.toFixed.shape ready.shape⟩
  · intro key pending
    rw [touched.selection, ready.shown]
    by_cases same : key = descriptor.key
    · rw [same]
    · simp only [Page.status, Coordinator.status, touched.frame key same] at pending
      exact (ready.idle key pending).elim
  · intro key shown
    rw [touched.selection, ready.shown] at shown
    obtain rfl := Option.some.inj shown
    exact ⟨descriptor, by rw [touched.catalog, ready.resolved]⟩

/-- An activation of a page that is ready gives out one ticket, started or not. -/
theorem activate_issues {descriptor : ViewDescriptor} (ready : page.Ready descriptor) :
    (page.activate descriptor).1.filterMap PageEvent.issued? = [page.nextTicket descriptor] := by
  obtain ⟨plot, plan⟩ := exists_plan ready.shape ready.resolved
  rcases answer : Backend.spawn (page.planned descriptor plot) page.backend with
    ⟨fault | events, backend⟩
  · rw [activate_refused plan answer]
    simp [PageEvent.issued?]
  · rw [activate_started plan answer]
    simp [PageEvent.issued?]

end

/-! ### Completions -/

section

variable [Embedder ε] {page : Page σ ε} {now : Instant}

theorem applyEvent_sound (page : Page σ ε) (event : FetchEvent) (sound : page.Sound) :
    (page.applyEvent event now).2.Sound := by
  by_cases lands : page.coordinator.Lands event page.selection.current
  · have landed := applyEvent_of_lands lands now
    refine ⟨?_, ?_, landed.toFixed.shape sound.shape⟩
    · intro key pending
      rw [landed.selection]
      by_cases same : key = event.ticket.key
      · rw [same] at pending
        exact (landed.settled pending).elim
      · simp only [Page.status, Coordinator.status, landed.frame key same] at pending
        exact sound.pending_shown key pending
    · rw [landed.selection, landed.catalog]
      exact sound.shown_listed
  · rw [applyEvent_of_not_lands lands]
    exact sound

theorem process_sound (sound : page.Sound) : (page.process now).2.Sound :=
  applyEvents_keeps applyEvent_sound sound.dequeued _

theorem applyEvent_silent (page : Page σ ε) (event : FetchEvent) :
    (page.applyEvent event now).1.issued? = none := by
  unfold applyEvent
  split
  next => rfl
  next =>
    unfold bindPlot
    split
    split <;> rfl
  next => rfl
  next => rfl
  next => rfl

theorem applyEvents_silent (events : List FetchEvent) (page : Page σ ε) :
    (applyEvents now events page).1.filterMap PageEvent.issued? = [] := by
  induction events generalizing page with
  | nil => rfl
  | cons event rest ih =>
    simp only [applyEvents, List.filterMap_cons, applyEvent_silent]
    exact ih _

/-- No completion finds its view pending and not on show. -/
theorem verdicts_not_inactive (events : List FetchEvent) (sound : page.Sound) :
    ∀ verdict ∈ verdicts now events page, verdict.2 ≠ .error .inactive := by
  induction events generalizing page with
  | nil => simp [verdicts]
  | cons event rest ih =>
    intro verdict member
    rcases List.mem_cons.mp member with rfl | later
    · intro inactive
      obtain ⟨pending, hidden⟩ := Coordinator.pending_of_inactive inactive
      exact hidden (sound.pending_shown _ pending)
    · exact ih (applyEvent_sound page event sound) verdict later

end

/-! ### Actions and runs -/

variable [Backend σ] [Embedder ε] {page : Page σ ε}

/-- An action gives up the fetch under way before it activates a view. -/
theorem activation_ready {action : PageAction} {descriptor : ViewDescriptor} {found : Page σ ε}
    (sound : page.Sound) (active : page.activation? action = some (descriptor, found)) :
    found.Ready descriptor ∧ page.letGo.Alike found := by
  cases page.course action with
  | activates _ _ _ activation _ _ alike resolved shown =>
    rw [active] at activation
    cases activation
    have listed : found.catalog = page.catalog := by rw [alike.catalog, letGo_catalog]
    exact ⟨⟨alike.idle (letGo_idle sound), by rw [listed, resolved], shown,
      alike.formed (letGo_shape sound)⟩, alike⟩
  | takes _ _ inactive => simp [inactive] at active
  | rests inactive => simp [inactive] at active

theorem intake_sound {action : PageAction} {found : Page σ ε} (sound : page.Sound)
    (taken : page.intake? action = some found) : found.Sound := by
  cases page.course action with
  | activates _ _ _ _ untaken => simp [untaken] at taken
  | takes _ _ _ intake _ before =>
    rw [taken] at intake
    cases intake
    rcases before with ⟨alike, shown⟩ | ⟨alike, hidden⟩
    · exact alike.sound shown sound
    · exact (alike.idle (letGo_idle sound)).sound hidden (alike.formed (letGo_shape sound))
  | rests _ untaken => simp [untaken] at taken

theorem perform_sound (page : Page σ ε) (action : PageAction) (sound : page.Sound) :
    (page.perform action).2.Sound := by
  cases page.course action with
  | activates _ _ _ activation _ _ _ _ _ performed =>
    rw [performed]
    exact activate_sound (activation_ready sound activation).1
  | takes _ _ _ intake _ _ performed =>
    rw [performed]
    exact process_sound (intake_sound sound intake)
  | rests _ _ _ alike shown => exact alike.sound shown sound

theorem enter_sound (scenario : ScenarioId) (catalog : Catalog) (backend : σ) (embedder : ε) :
    (enter scenario catalog backend embedder).Sound := by
  have fresh : ({ scenario, catalog, forms := .ofCatalog catalog, embedder, backend } :
      Page σ ε).Sound := by
    refine Idle.sound ?_ rfl rfl
    intro key
    simp [Page.status, Coordinator.status]
  exact perform_sound _ .loadOptions fresh

theorem run_sound (scenario : ScenarioId) (catalog : Catalog) (backend : σ) (embedder : ε)
    (actions : List PageAction) : ((enter scenario catalog backend embedder).run actions).Sound :=
  run_keeps perform_sound (enter_sound scenario catalog backend embedder) actions

theorem issuedBy_of_activation {action : PageAction} {descriptor : ViewDescriptor}
    {found : Page σ ε} (sound : page.Sound)
    (active : page.activation? action = some (descriptor, found)) :
    page.issuedBy action = [found.nextTicket descriptor] := by
  cases page.course action with
  | activates _ _ announced activation _ silent _ _ _ performed =>
    rw [active] at activation
    cases activation
    rw [issuedBy, performed]
    simp only [List.filterMap_append, silent, activate_issues (activation_ready sound active).1,
      List.nil_append]
  | takes _ _ inactive => simp [inactive] at active
  | rests inactive => simp [inactive] at active

theorem issuedBy_of_inactive {action : PageAction}
    (inactive : page.activation? action = none) : page.issuedBy action = [] := by
  cases page.course action with
  | activates _ _ _ activation => simp [inactive] at activation
  | takes found announced _ _ silent _ performed =>
    simp [issuedBy, performed, silent, process, applyEvents_silent]
  | rests _ _ silent => exact silent

/-- A view that is on show after an action that issues no ticket for it was on show before. -/
theorem shown_before (sound : page.Sound) {action : PageAction} {key : ViewKey}
    (shown : (page.perform action).2.selection.current = some key)
    (unissued : ∀ ticket ∈ page.issuedBy action, ticket.key ≠ key) :
    page.selection.current = some key := by
  cases page.course action with
  | activates descriptor found _ activation _ _ _ _ onShow performed =>
    rw [performed, (found.activate_touched descriptor).selection, onShow] at shown
    rw [issuedBy_of_activation sound activation] at unissued
    exact (unissued _ (List.mem_singleton.mpr rfl) (Option.some.inj shown)).elim
  | takes found _ _ _ _ before performed =>
    rw [performed, (found.process_kept _).selection] at shown
    rcases before with ⟨-, same⟩ | ⟨-, hidden⟩
    · rw [← same, shown]
    · rw [hidden] at shown
      cases shown
  | rests _ _ _ _ same => rw [← same, shown]

/-- At most the view on show is pending. So no completion is ever discarded as inactive, and every
activation, which is what issues tickets, finds its view settled. -/
theorem pending_only_shown (scenario : ScenarioId) (catalog : Catalog) (backend : σ)
    (embedder : ε) (actions : List PageAction) :
    let page := (enter scenario catalog backend embedder).run actions
    (∀ key, page.status key = .pending → page.selection.current = some key) ∧
      (∀ first second, page.status first = .pending → page.status second = .pending →
        first = second) ∧
      (∀ action, ∀ verdict ∈ page.verdictsOn action, verdict.2 ≠ .error .inactive) ∧
      (∀ action descriptor found, page.activation? action = some (descriptor, found) →
        found.status descriptor.key ≠ .pending ∧
          (page.perform action).2 = (found.activate descriptor).2) ∧
      ∀ action, page.activation? action = none → page.issuedBy action = [] := by
  intro page
  have sound : page.Sound := run_sound scenario catalog backend embedder actions
  refine ⟨sound.pending_shown, ?_, ?_, ?_, ?_⟩
  · intro first second firstPending secondPending
    have firstShown := sound.pending_shown first firstPending
    have secondShown := sound.pending_shown second secondPending
    exact Option.some.inj (firstShown.symm.trans secondShown)
  · intro action verdict member
    unfold verdictsOn at member
    cases taken : page.intake? action with
    | none => simp [taken] at member
    | some found =>
      rw [taken] at member
      exact verdicts_not_inactive found.queue (intake_sound sound taken).dequeued verdict member
  · intro action descriptor found active
    refine ⟨(activation_ready sound active).1.idle descriptor.key, ?_⟩
    cases page.course action with
    | activates _ _ _ activation _ _ _ _ _ performed =>
      rw [active] at activation
      cases activation
      rw [performed]
    | takes _ _ inactive => simp [inactive] at active
    | rests inactive => simp [inactive] at active
  · intro action inactive
    exact issuedBy_of_inactive inactive

/-- A fetch that is under way is that of the view selected last. -/
theorem pending_only_shown_deferred :
    let page := (enter ⟨7⟩ .standard ({ deferred := true } : ScriptedBackend)
      ({} : Recorder)).run [.select .dispatchPlot, .select .systemRps]
    page.status .systemRps = .pending ∧ page.selection.current = some .systemRps := by
  intro page
  have pending : page.status .systemRps = .pending := by decide +kernel
  obtain ⟨shown, -⟩ := pending_only_shown ⟨7⟩ .standard ({ deferred := true } : ScriptedBackend)
    ({} : Recorder) [.select .dispatchPlot, .select .systemRps]
  exact ⟨pending, shown .systemRps pending⟩

end ScenarioResults.Page
