import ScenarioResults.Backend.Scripted
import ScenarioResults.Embedder.Recorder
import ScenarioResults.Proofs.Page.Fetching
import ScenarioResults.Proofs.Page.Observed
import ScenarioResults.Proofs.Page.Undated

/-!
# The order of arrival does not matter

Of the completions in a queue at most one lands, the one with the ticket that the view on show waits
for, and once it has landed nothing is waited for any more. So it makes no difference what comes
before it and what comes after it: in every order a completion gets the same answer, and the same
page is left (`process_perm`).
-/

namespace ScenarioResults

def PageEvent.isDiscard : PageEvent → Bool
  | .completionDiscarded _ => true
  | _ => false

/-- A page waits for one ticket at a time. -/
theorem Coordinator.Lands.same_ticket {coordinator : Coordinator} {first second : FetchEvent}
    {active : Option ViewKey} (lands : coordinator.Lands first active)
    (also : coordinator.Lands second active) : first.ticket = second.ticket := by
  have key : first.ticket.key = second.ticket.key :=
    Option.some.inj (lands.shown.symm.trans also.shown)
  have generation := lands.current
  rw [key, also.current] at generation
  exact Ticket.ext key generation.symm

namespace Page

variable {σ ε : Type} [Embedder ε] {page : Page σ ε} {events : List FetchEvent} {event : FetchEvent}
  {now : Instant}

/-- Once a completion has landed, no other one does. -/
theorem none_lands_after (lands : page.coordinator.Lands event page.selection.current)
    (other : FetchEvent) : ¬ (page.applyEvent event now).2.coordinator.Lands other
      (page.applyEvent event now).2.selection.current := by
  intro again
  have landed := applyEvent_of_lands lands now
  have shown := again.shown
  rw [landed.selection, lands.shown] at shown
  have pending := again.pending
  rw [← Option.some.inj shown] at pending
  exact landed.settled pending

theorem applyEvents_stale
    (stale : ∀ event ∈ events, ¬ page.coordinator.Lands event page.selection.current) :
    applyEvents now events page =
      (events.map fun event => .completionDiscarded event.ticket, page) := by
  induction events with
  | nil => rfl
  | cons head rest ih =>
    obtain ⟨refused, others⟩ := List.forall_mem_cons.mp stale
    simp only [applyEvents, applyEvent_of_not_lands refused, ih others, List.map_cons]

/-- Each completion is answered as if it had come alone, and the one that lands leaves its page. -/
theorem applyEvents_landing (distinct : (events.map FetchEvent.ticket).Nodup)
    (member : event ∈ events) (lands : page.coordinator.Lands event page.selection.current) :
    applyEvents now events page =
      (events.map fun other => (page.applyEvent other now).1, (page.applyEvent event now).2) := by
  induction events with
  | nil => cases member
  | cons head rest ih =>
    obtain ⟨fresh, others⟩ := List.nodup_cons.mp distinct
    rcases List.mem_cons.mp member with rfl | later
    · have alone : ∀ other ∈ rest, ¬ page.coordinator.Lands other page.selection.current := by
        intro other came also
        refine fresh (List.mem_map.mpr ⟨other, came, ?_⟩)
        exact also.same_ticket lands
      have answers : (rest.map fun other => (page.applyEvent other now).1) =
          rest.map fun other => .completionDiscarded other.ticket := by
        refine List.map_congr_left fun other came => ?_
        rw [applyEvent_of_not_lands (alone other came)]
      have after : applyEvents now rest (page.applyEvent event now).2 =
          (_, (page.applyEvent event now).2) :=
        applyEvents_stale fun other _ => none_lands_after lands other
      simp only [applyEvents, after, List.map_cons, answers]
    · have refused : ¬ page.coordinator.Lands head page.selection.current := by
        intro also
        refine fresh (List.mem_map.mpr ⟨event, later, ?_⟩)
        exact lands.same_ticket also
      simp only [applyEvents, applyEvent_of_not_lands refused, ih others later, List.map_cons]

theorem answers_alone (page : Page σ ε) (distinct : (events.map FetchEvent.ticket).Nodup) :
    (applyEvents now events page).1 = events.map fun event => (page.applyEvent event now).1 := by
  by_cases landing : ∃ event ∈ events, page.coordinator.Lands event page.selection.current
  · obtain ⟨event, member, lands⟩ := landing
    rw [applyEvents_landing distinct member lands]
  · have stale : ∀ event ∈ events, ¬ page.coordinator.Lands event page.selection.current :=
      fun event member lands => landing ⟨event, member, lands⟩
    rw [applyEvents_stale stale]
    refine List.map_congr_left fun event member => ?_
    rw [applyEvent_of_not_lands (stale event member)]

theorem left_alike {others : List FetchEvent} (distinct : (events.map FetchEvent.ticket).Nodup)
    (permuted : events.Perm others) :
    (applyEvents now events page).2 = (applyEvents now others page).2 := by
  by_cases landing : ∃ event ∈ events, page.coordinator.Lands event page.selection.current
  · obtain ⟨event, member, lands⟩ := landing
    have apart : (others.map FetchEvent.ticket).Nodup :=
      (permuted.map FetchEvent.ticket).nodup_iff.mp distinct
    rw [applyEvents_landing distinct member lands,
      applyEvents_landing apart (permuted.mem_iff.mp member) lands]
  · have stale : ∀ event ∈ events, ¬ page.coordinator.Lands event page.selection.current :=
      fun event member lands => landing ⟨event, member, lands⟩
    rw [applyEvents_stale stale,
      applyEvents_stale fun event member => stale event (permuted.mem_iff.mpr member)]

/-- At most one completion is answered with anything but that it was discarded. -/
theorem answers_once (distinct : (events.map FetchEvent.ticket).Nodup) :
    (applyEvents now events page).1.countP (fun answer => !answer.isDiscard) ≤ 1 := by
  have lands_of_taken (event : FetchEvent) (taken : !(page.applyEvent event now).1.isDiscard) :
      page.coordinator.Lands event page.selection.current := by
    by_cases lands : page.coordinator.Lands event page.selection.current
    · exact lands
    · simp [applyEvent_of_not_lands lands, PageEvent.isDiscard] at taken
  rw [answers_alone page distinct, List.countP_map]
  by_cases landing : ∃ event, page.coordinator.Lands event page.selection.current
  · -- Whatever is taken has the ticket of the completion that lands, and each ticket comes once.
    obtain ⟨event, lands⟩ := landing
    have once : (events.map FetchEvent.ticket).count event.ticket ≤ 1 :=
      List.nodup_iff_count.mp distinct event.ticket
    rw [List.count, List.countP_map] at once
    refine Nat.le_trans (List.countP_mono_left fun other _ taken => ?_) once
    exact beq_iff_eq.mpr ((lands_of_taken other taken).same_ticket lands)
  · have untaken : events.countP
        ((fun answer => !answer.isDiscard) ∘ fun event => (page.applyEvent event now).1) = 0 := by
      refine List.countP_eq_zero.mpr fun event _ taken => landing ⟨event, ?_⟩
      exact lands_of_taken event taken
    omega

/-- Completions with distinct tickets that wait in the queue can be processed in any order. The page
that is left is the same to the last slot, but for the times if it is processed later, and so are the
plots that the embedder is asked to draw, which the observed page records. The answers come in another
order, and at most one of them says anything but that its completion was discarded. -/
theorem process_perm (page : Page σ ε) {queue others : List FetchEvent} (now later : Instant)
    (distinct : (queue.map FetchEvent.ticket).Nodup) (permuted : queue.Perm others) :
    let first := ({ page with queue } : Page σ ε).observe.process now
    let second := ({ page with queue := others } : Page σ ε).observe.process later
    (first.map id plain = ({ page with queue } : Page σ ε).process now ∧
        second.map id plain = ({ page with queue := others } : Page σ ε).process later) ∧
      first.2.undated = second.2.undated ∧ (now = later → first.2 = second.2) ∧
      first.1.Perm second.1 ∧ first.1.countP (fun answer => !answer.isDiscard) ≤ 1 := by
  have apart : (others.map FetchEvent.ticket).Nodup :=
    (permuted.map FetchEvent.ticket).nodup_iff.mp distinct
  have unobserved (page : Page σ ε) (now : Instant) :
      (page.observe.process now).map id plain = page.process now :=
    (carry_process ObservedEmbedder.inner_carries ObservedBackend.inner page.observe now).symm
  intro first second
  have same : first.2 = (({ page with queue := others } : Page σ ε).observe.process now).2 :=
    left_alike distinct permuted
  have redated := process_undated ({ page with queue := others } : Page σ ε).observe now later
  refine ⟨⟨unobserved _ now, unobserved _ later⟩, ?_, ?_, ?_, answers_once distinct⟩
  · rw [same]
    exact congrArg Prod.snd redated
  · rintro rfl
    exact same
  let emptied : Page _ _ := ({ page with queue := [] } : Page σ ε).observe
  have answers : first.1 = queue.map fun event => (emptied.applyEvent event now).1 :=
    answers_alone emptied distinct
  have again : second.1 = others.map fun event => (emptied.applyEvent event now).1 :=
    (congrArg Prod.fst redated).symm.trans (answers_alone emptied apart)
  rw [answers, again]
  exact permuted.map _

/-- The plot that the page waits for is drawn, whether a stale table comes before it or after it. -/
theorem process_perm_stale :
    let page := (enter ⟨7⟩ .standard ({ deferred := true } : ScriptedBackend)
      ({} : Recorder)).run [.select .systemRps, .select .dispatchPlot]
    let stale : FetchEvent := ⟨⟨.systemRps, ⟨1⟩⟩, .table []⟩
    let awaited : FetchEvent := ⟨⟨.dispatchPlot, ⟨1⟩⟩, .plot ⟨.bool true⟩⟩
    let first := (({ page with queue := [stale, awaited] } : Page _ _).observe.process ⟨5⟩).2
    let second := (({ page with queue := [awaited, stale] } : Page _ _).observe.process ⟨6⟩).2
    [stale, awaited].Perm [awaited, stale] ∧ second.status .dispatchPlot = .ready ∧
      first.embedder.drawn = second.embedder.drawn ∧ first.embedder.drawn.length = 1 := by
  intro page stale awaited first second
  have distinct : ([stale, awaited].map FetchEvent.ticket).Nodup := by decide
  have permuted : [stale, awaited].Perm [awaited, stale] := .swap _ _ _
  obtain ⟨-, same, -⟩ := process_perm page ⟨5⟩ ⟨6⟩ distinct permuted
  have ready : first.status .dispatchPlot = .ready := by decide +kernel
  refine ⟨permuted, ?_, congrArg (fun left => left.embedder.drawn) same, rfl⟩
  rw [← ready, ← status_undated first, ← status_undated second]
  exact congrArg (fun left : Page _ _ => left.status .dispatchPlot) same.symm

end Page

end ScenarioResults
