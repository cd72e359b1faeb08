import ScenarioResults.Proofs.Page.Departure
import ScenarioResults.Proofs.Page.Parts

/-!
# Whom a page tells, and when

A page writes to its selection channel when a view is selected and when it is left, and at no other
time. All that holds of a channel and its history therefore holds of a page (`selection_delivered`).
-/

namespace ScenarioResults

def PageAction.Leaves : PageAction → Prop
  | .leave _ => True
  | _ => False

namespace Page

variable {σ ε : Type} [Backend σ] [Embedder ε]

/-- Whom an action tells what: all that are subscribed, when a view is selected and when the page is
left, one that subscribes, and otherwise nobody. -/
structure Tells (page : Page σ ε) (action : PageAction) : Prop where
  written : page.selects action ∨ action.Leaves →
    (page.perform action).2.selection.notices = page.selection.notices ++
      page.selection.subscribers.map fun id => ⟨id, (page.perform action).2.selection.current⟩
  joined : action = .subscribe → (page.perform action).2.selection.notices =
    page.selection.notices ++ [⟨page.subscribe.1, page.selection.current⟩]
  silent : page.selects action = false → ¬ action.Leaves → action ≠ .subscribe →
    (page.perform action).2.selection.notices = page.selection.notices

theorem channelled_of_selects {page : Page σ ε} {action : PageAction}
    (selected : page.selects action) : ∃ key, page.channelled action = [.setActive key] := by
  cases action with
  | select key =>
    cases resolved : page.catalog.resolve key with
    | error error =>
      simp [selects, perform, select, resolved, Except.isOk, Except.toBool] at selected
    | ok descriptor => exact ⟨descriptor.key, by simp [channelled, resolved, Except.toOption]⟩
  | selectSlug raw =>
    cases named : page.catalog.resolveSlug raw with
    | error error =>
      simp [selects, perform, selectSlug, named, Except.isOk, Except.toBool] at selected
    | ok descriptor => exact ⟨descriptor.key, by simp [channelled, named, Except.toOption]⟩
  | _ => cases selected

theorem channelled_of_unselected {page : Page σ ε} {action : PageAction}
    (unselected : page.selects action = false) (stays : ¬ action.Leaves)
    (others : action ≠ .subscribe) :
    page.channelled action = [] ∨ ∃ id, page.channelled action = [.unsubscribe id] := by
  cases action with
  | select key =>
    cases resolved : page.catalog.resolve key with
    | error error => exact .inl (by simp [channelled, resolved, Except.toOption])
    | ok descriptor =>
      simp [selects, perform, select, resolved, Except.isOk, Except.toBool] at unselected
  | selectSlug raw =>
    cases named : page.catalog.resolveSlug raw with
    | error error => exact .inl (by simp [channelled, named, Except.toOption])
    | ok descriptor =>
      have resolved := Catalog.resolve_of_resolveSlug named
      simp [selects, perform, selectSlug, named, select, resolved, Except.isOk,
        Except.toBool] at unselected
  | leave now => exact (stays trivial).elim
  | subscribe => exact (others rfl).elim
  | unsubscribe id => exact .inr ⟨id, rfl⟩
  | _ => exact .inl rfl

theorem tells (page : Page σ ε) (action : PageAction) : page.Tells action := by
  have after := (page.perform_parts action).selection
  refine ⟨?_, ?_, ?_⟩
  · rintro (selected | leaves)
    · obtain ⟨key, written⟩ := channelled_of_selects selected
      rw [after, written]
      rfl
    · cases action with
      | leave now =>
        rw [after]
        rfl
      | _ => exact leaves.elim
  · rintro rfl
    rfl
  · intro unselected stays others
    rcases channelled_of_unselected unselected stays others with still | ⟨id, dropped⟩
    · rw [after, still]
      rfl
    · rw [after, dropped]
      rfl

/-- Along any history of a channel with no more subscribers than there are ids, each subscriber gets an id
of its own and receives the value that it finds and all that is written after that, in order, until it is
taken off, which can be done once. What a page does to its channel is such a history: after any actions,
each subscriber of the page was last told of the view on show, and a page tells its subscribers nothing
but that a view was selected or that it was left. -/
theorem selection_delivered (backend : σ) (embedder : ε) :
    (∀ history : List SelectionAction, history.count .subscribe ≤ Text.maxWord →
      Selection.Delivered history) ∧
    ∀ (scenario : ScenarioId) (catalog : Catalog) (actions : List PageAction),
      let start := enter scenario catalog backend embedder
      let page := start.run actions
      page.selection = ({} : Selection).run (start.along channelled actions) ∧
        (∀ id ∈ page.selection.subscribers,
          (page.selection.received id).getLast? = some page.selection.current) ∧
        ∀ action, page.Tells action := by
  refine ⟨fun history few => Selection.run_delivered few, ?_⟩
  intro scenario catalog actions start page
  have fresh : start.selection = {} := (loadOptions_parts _).selection
  have history : page.selection = ({} : Selection).run (start.along channelled actions) := by
    rw [run_selection, fresh]
  refine ⟨history, ?_, page.tells⟩
  have none : ({} : Selection).Informed := by
    intro id listed
    cases listed
  rw [history]
  exact Selection.run_informed none _

/-- A subscriber that comes late is told of the view on show first, then also of one that was on show
already. One that went away is told nothing more, and cannot go away again. -/
theorem selection_delivered_twice :
    let history : List SelectionAction := [.subscribe, .setActive .systemRps, .subscribe,
      .setActive .systemRps, .unsubscribe ⟨1⟩, .reset]
    let after := ({} : Selection).run history
    history.count .subscribe ≤ Text.maxWord ∧
      after.received ⟨1⟩ = [none, some .systemRps, some .systemRps] ∧
      after.received ⟨2⟩ = [some .systemRps, some .systemRps, none] ∧
      (after.unsubscribe ⟨1⟩).1 = false ∧ (after.unsubscribe ⟨2⟩).1 = true := by
  intro history after
  have few : history.count .subscribe ≤ Text.maxWord := by decide
  have delivered := (selection_delivered ({} : ScriptedBackend) ({} : Recorder)).1 history few
  have early := delivered.found_iff [] _ rfl
  have late := delivered.found_iff [.subscribe, .setActive .systemRps] _ rfl
  refine ⟨few, delivered.received [] _ rfl,
    delivered.received [.subscribe, .setActive .systemRps] _ rfl, ?_, ?_⟩
  · rw [← Bool.not_eq_true]
    exact fun found => early.mp found (by decide)
  · exact late.mpr (by decide)

end Page

end ScenarioResults
