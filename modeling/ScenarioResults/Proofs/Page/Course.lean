import ScenarioResults.Proofs.Coordinator.Slots
import ScenarioResults.Proofs.Form.Shape
import ScenarioResults.Proofs.Page.Action

/-!
# What one action comes to

An action does one of three things. It gives up the fetch under way and activates the view on show,
it takes all that is in the queue, or it leaves the coordinator and the view on show alone. `course`
states this once for all actions; whatever a run keeps is proved from it.
-/

namespace ScenarioResults

/-- A backend that was at most asked for options or arrivals. -/
inductive Backend.Quiet {σ : Type} [Backend σ] (state : σ) : σ → Prop where
  | same : Quiet state state
  | options (scenario : ScenarioId) : Quiet state (Backend.options scenario state).2
  | arrivals : Quiet state (Backend.arrivals state).2

namespace Page

variable {σ ε : Type} [Backend σ]

/-- The fetch under way for the view on show given up. -/
def letGo (page : Page σ ε) : Page σ ε :=
  match page.selection.current with
  | some key => page.release key
  | none => page

/-- Two pages that differ at most in the view on show, in values of filters and options, in what
waits in the queue and in what the backend was quietly asked. -/
structure Alike (page other : Page σ ε) : Prop where
  scenario : other.scenario = page.scenario
  catalog : other.catalog = page.catalog
  coordinator : other.coordinator = page.coordinator
  embedder : other.embedder = page.embedder
  shape : other.forms.shape = page.forms.shape
  backend : Backend.Quiet page.backend other.backend

theorem alike_refl (page : Page σ ε) : page.Alike page := ⟨rfl, rfl, rfl, rfl, rfl, .same⟩

/-! ### Giving up the fetch under way -/

/-- Nothing but the coordinator and the backend takes note of a release. -/
theorem release_eq (page : Page σ ε) (key : ViewKey) :
    page.release key = { page with
      coordinator := (page.coordinator.abandon key).2
      backend := match (page.coordinator.abandon key).1 with
        | some ticket => (Backend.cancel ticket page.backend).2
        | none => page.backend } := by
  unfold release
  rcases page.coordinator.abandon key with ⟨none | ticket, coordinator⟩ <;> rfl

theorem letGo_of_shown {page : Page σ ε} {key : ViewKey}
    (shown : page.selection.current = some key) : page.letGo = page.release key := by
  simp [letGo, shown]

theorem letGo_of_none {page : Page σ ε} (hidden : page.selection.current = none) :
    page.letGo = page := by
  simp [letGo, hidden]

/-- The fetch that is pending for the view on show is given up and cancelled. -/
theorem letGo_of_pending {page : Page σ ε} {key : ViewKey}
    (shown : page.selection.current = some key) (pending : page.status key = .pending) :
    page.letGo = { page with
      coordinator := page.coordinator.putSlot key (page.coordinator.slot key).abandon
      backend :=
        (Backend.cancel ⟨key, (page.coordinator.slot key).generation⟩ page.backend).2 } := by
  rw [letGo_of_shown shown, release_eq, Coordinator.abandon_of_pending pending]

theorem letGo_of_settled {page : Page σ ε} {key : ViewKey}
    (shown : page.selection.current = some key) (settled : page.status key ≠ .pending) :
    page.letGo = page := by
  rw [letGo_of_shown shown, release_eq, Coordinator.abandon_of_settled settled]

/-- Turning to a view gives up the fetch of the one before it. -/
theorem turnTo_eq (page : Page σ ε) (key : ViewKey) :
    page.turnTo key = { page.letGo with selection := page.selection.setActive key } := by
  unfold turnTo
  cases shown : page.selection.current with
  | none => rw [letGo_of_none shown]
  | some previous => simp only [letGo_of_shown shown, release_eq]

theorem depart_eq (page : Page σ ε) :
    page.depart = { page.letGo with
      selection := page.selection.reset, forms := page.forms.clearValues } := by
  unfold depart
  cases shown : page.selection.current with
  | none => rw [letGo_of_none shown]
  | some previous => simp only [letGo_of_shown shown, release_eq]

theorem release_shown {page : Page σ ε} {key : ViewKey} (forms : ParameterForms)
    (shown : page.selection.current = some key) :
    ({ page with forms } : Page σ ε).release key = { page.letGo with forms } := by
  rw [letGo_of_shown shown, release_eq, release_eq]

/-- Only the coordinator and the backend know of a fetch that is given up. -/
theorem letGo_apart (page : Page σ ε) : page.letGo = { page with
    coordinator := page.letGo.coordinator, backend := page.letGo.backend } := by
  unfold letGo
  split
  · rw [release_eq]
  · rfl

@[simp] theorem letGo_selection (page : Page σ ε) : page.letGo.selection = page.selection := by
  rw [letGo_apart]

@[simp] theorem letGo_forms (page : Page σ ε) : page.letGo.forms = page.forms := by
  rw [letGo_apart]

@[simp] theorem letGo_catalog (page : Page σ ε) : page.letGo.catalog = page.catalog := by
  rw [letGo_apart]

/-! ### The course of an action -/

variable [Embedder ε]

/-- What an action does: what it announces first, and then what it activates, takes or lets be. -/
inductive Course (page : Page σ ε) (action : PageAction) : Prop where
  | activates (descriptor : ViewDescriptor) (found : Page σ ε) (announced : List PageEvent)
      (activation : page.activation? action = some (descriptor, found))
      (untaken : page.intake? action = none)
      (silent : announced.filterMap PageEvent.issued? = [])
      (alike : page.letGo.Alike found)
      (resolved : page.catalog.resolve descriptor.key = .ok descriptor)
      (shown : found.selection.current = some descriptor.key)
      (performed : page.perform action =
        (.ok (announced ++ (found.activate descriptor).1), (found.activate descriptor).2))
  | takes (found : Page σ ε) (announced : List PageEvent)
      (inactive : page.activation? action = none)
      (intake : page.intake? action = some found)
      (silent : announced.filterMap PageEvent.issued? = [])
      (before : page.Alike found ∧ found.selection.current = page.selection.current ∨
        page.letGo.Alike found ∧ found.selection.current = none)
      (performed : page.perform action =
        (.ok (announced ++ (found.process action.time).1), (found.process action.time).2))
  | rests (inactive : page.activation? action = none)
      (untaken : page.intake? action = none)
      (silent : page.issuedBy action = [])
      (alike : page.Alike (page.perform action).2)
      (shown : (page.perform action).2.selection.current = page.selection.current)

omit [Embedder ε] in
theorem gather_alike (page : Page σ ε) : page.Alike page.gather :=
  ⟨rfl, rfl, rfl, rfl, rfl, .arrivals⟩

theorem rests_of_unchanged {page : Page σ ε} {action : PageAction}
    (inactive : page.activation? action = none) (untaken : page.intake? action = none)
    (silent : page.issuedBy action = []) (same : (page.perform action).2 = page) :
    page.Course action :=
  .rests inactive untaken silent (by rw [same]; exact page.alike_refl) (by rw [same])

theorem select_course (page : Page σ ε) (key : ViewKey) : page.Course (.select key) := by
  cases resolved : page.catalog.resolve key with
  | error error =>
    refine rests_of_unchanged ?_ rfl ?_ ?_
    · simp [activation?, resolved, Except.toOption]
    · simp [issuedBy, perform, select, resolved]
    · simp [perform, select, resolved]
  | ok descriptor =>
    obtain rfl := Catalog.key_of_resolve resolved
    refine .activates descriptor (page.turnTo descriptor.key)
      [.selectionChanged descriptor.key] ?_ rfl rfl ?_ resolved ?_ ?_
    · simp [activation?, resolved, Except.toOption]
    · rw [turnTo_eq]
      exact ⟨rfl, rfl, rfl, rfl, rfl, .same⟩
    · rw [turnTo_eq]
      rfl
    · simp [perform, select, resolved]

theorem selectSlug_course (page : Page σ ε) (raw : String) :
    page.Course (.selectSlug raw) := by
  cases named : page.catalog.resolveSlug raw with
  | error error =>
    refine rests_of_unchanged ?_ rfl ?_ ?_
    · simp [activation?, named, Except.toOption]
    · simp [issuedBy, perform, selectSlug, named]
    · simp [perform, selectSlug, named]
  | ok descriptor =>
    have resolved := Catalog.resolve_of_resolveSlug named
    refine .activates descriptor (page.turnTo descriptor.key)
      [.selectionChanged descriptor.key] ?_ rfl rfl ?_ resolved ?_ ?_
    · simp [activation?, named, Except.toOption]
    · rw [turnTo_eq]
      exact ⟨rfl, rfl, rfl, rfl, rfl, .same⟩
    · rw [turnTo_eq]
      rfl
    · simp [perform, selectSlug, named, select, resolved]

theorem setFilter_course (page : Page σ ε) (key : ViewKey) (filter : Filter)
    (value : Option FilterValue) : page.Course (.setFilter key filter value) := by
  cases set : page.forms.setFilter key filter value with
  | error error =>
    refine rests_of_unchanged ?_ rfl ?_ ?_
    · simp [activation?, refilter?, set]
    · simp [issuedBy, perform, setFilter, set]
    · simp [perform, setFilter, set]
  | ok forms =>
    have shape := ParameterForms.shape_setFilter set
    by_cases shown : page.selection.current = some key
    · cases resolved : page.catalog.resolve key with
      | error error =>
        refine .rests ?_ rfl ?_ ?_ ?_
        · simp [activation?, refilter?, set, shown, resolved, Except.toOption]
        · simp [issuedBy, perform, setFilter, set, shown, resolved]
        · simp only [perform, setFilter, set, shown, if_true, resolved]
          exact ⟨rfl, rfl, rfl, rfl, shape, .same⟩
        · simp [perform, setFilter, set, shown, resolved]
      | ok descriptor =>
        obtain rfl := Catalog.key_of_resolve resolved
        refine .activates descriptor (({ page with forms } : Page σ ε).release descriptor.key)
          [.filterChanged descriptor.key filter] ?_ rfl rfl ?_ resolved ?_ ?_
        · simp [activation?, refilter?, set, shown, resolved, Except.toOption]
        · rw [release_shown forms shown]
          exact ⟨rfl, rfl, rfl, rfl, by rw [letGo_forms]; exact shape, .same⟩
        · rw [release_shown forms shown]
          simpa using shown
        · simp [perform, setFilter, set, shown, resolved, restart]
    · refine .rests ?_ rfl ?_ ?_ ?_
      · simp [activation?, refilter?, set, shown]
      · simp [issuedBy, perform, setFilter, set, shown, PageEvent.issued?]
      · simp only [perform, setFilter, set, shown, if_false]
        exact ⟨rfl, rfl, rfl, rfl, shape, .same⟩
      · simp [perform, setFilter, set, shown]

theorem setFilterRaw_course (page : Page σ ε) (key : ViewKey) (filter : Filter) (raw : String) :
    page.Course (.setFilterRaw key filter raw) := by
  cases read : filter.read raw with
  | error error =>
    refine rests_of_unchanged ?_ rfl ?_ ?_
    · simp [activation?, read, Except.toOption]
    · simp [issuedBy, perform, setFilterRaw, read]
    · simp [perform, setFilterRaw, read]
  | ok value =>
    have performed : page.perform (.setFilterRaw key filter raw) =
        page.perform (.setFilter key filter value) := by
      simp [perform, setFilterRaw, read]
    have activation : page.activation? (.setFilterRaw key filter raw) =
        page.activation? (.setFilter key filter value) := by
      simp [activation?, read, Except.toOption]
    cases page.setFilter_course key filter value with
    | activates descriptor found announced active _ silent alike resolved shown same =>
      exact .activates descriptor found announced (activation.trans active) rfl silent alike
        resolved shown (performed.trans same)
    | takes _ _ _ intake => cases intake
    | rests inactive _ silent alike shown =>
      rw [issuedBy, ← performed] at silent
      rw [← performed] at alike shown
      exact .rests (activation.trans inactive) rfl silent alike shown

theorem refresh_course (page : Page σ ε) : page.Course .refresh := by
  cases shown : page.selection.current with
  | none =>
    refine rests_of_unchanged ?_ rfl ?_ ?_
    · simp [activation?, shown]
    · simp [issuedBy, perform, refresh, shown]
    · simp [perform, refresh, shown]
  | some key =>
    cases resolved : page.catalog.resolve key with
    | error error =>
      refine rests_of_unchanged ?_ rfl ?_ ?_
      · simp [activation?, shown, resolved, Except.toOption]
      · simp [issuedBy, perform, refresh, shown, resolved]
      · simp [perform, refresh, shown, resolved]
    | ok descriptor =>
      obtain rfl := Catalog.key_of_resolve resolved
      refine .activates descriptor (page.release descriptor.key) [] ?_ rfl rfl ?_ resolved ?_ ?_
      · simp [activation?, shown, resolved, Except.toOption]
      · rw [← letGo_of_shown shown]
        exact page.letGo.alike_refl
      · rw [← letGo_of_shown shown, letGo_selection, shown]
      · simp [perform, refresh, shown, resolved, restart]

theorem loadOptions_course (page : Page σ ε) : page.Course .loadOptions := by
  have alike : page.Alike page.loadOptions.2 := by
    unfold loadOptions
    split
    · exact page.alike_refl
    · split
      next options backend asked =>
        have quiet : Backend.Quiet page.backend (Backend.options page.scenario page.backend).2 :=
          .options _
        rw [asked] at quiet
        exact ⟨rfl, rfl, rfl, rfl, ParameterForms.shape_takeOptions _ _, quiet⟩
      next fault backend asked =>
        have quiet : Backend.Quiet page.backend (Backend.options page.scenario page.backend).2 :=
          .options _
        rw [asked] at quiet
        exact ⟨rfl, rfl, rfl, rfl, rfl, quiet⟩
  have shown : page.loadOptions.2.selection.current = page.selection.current := by
    unfold loadOptions
    split
    · rfl
    · split <;> rfl
  exact .rests rfl rfl rfl alike shown

theorem course (page : Page σ ε) (action : PageAction) : page.Course action := by
  cases action with
  | select key => exact page.select_course key
  | selectSlug raw => exact page.selectSlug_course raw
  | setFilter key filter value => exact page.setFilter_course key filter value
  | setFilterRaw key filter raw => exact page.setFilterRaw_course key filter raw
  | refresh => exact page.refresh_course
  | process now => exact .takes page [] rfl rfl rfl (.inl ⟨page.alike_refl, rfl⟩) rfl
  | wait now => exact .takes page.gather [] rfl rfl rfl (.inl ⟨page.gather_alike, rfl⟩) rfl
  | leave now =>
    refine .takes page.depart [.selectionCleared] rfl rfl rfl (.inr ?_) rfl
    rw [depart_eq]
    refine ⟨⟨rfl, rfl, rfl, rfl, ?_, .same⟩, rfl⟩
    rw [letGo_forms]
    exact ParameterForms.shape_clearValues _
  | loadOptions => exact page.loadOptions_course
  | subscribe => exact .rests rfl rfl rfl ⟨rfl, rfl, rfl, rfl, rfl, .same⟩ rfl
  | unsubscribe id => exact .rests rfl rfl rfl ⟨rfl, rfl, rfl, rfl, rfl, .same⟩ rfl
  | deliver events => exact .rests rfl rfl rfl ⟨rfl, rfl, rfl, rfl, rfl, .same⟩ rfl

/-- A page that was just entered has asked for its options and done no more. -/
theorem enter_alike (scenario : ScenarioId) (catalog : Catalog) (backend : σ) (embedder : ε) :
    Alike { scenario, catalog, forms := .ofCatalog catalog, embedder, backend }
      (enter scenario catalog backend embedder) := by
  have course := loadOptions_course
    ({ scenario, catalog, forms := .ofCatalog catalog, embedder, backend } : Page σ ε)
  cases course with
  | activates _ _ _ activation => cases activation
  | takes _ _ _ intake => cases intake
  | rests _ _ _ alike _ => exact alike

end Page

end ScenarioResults
