import ScenarioResults.Proofs.Form.Action
import ScenarioResults.Proofs.Page.Course
import ScenarioResults.Proofs.Page.Fetching
import ScenarioResults.Proofs.Selection.Delivery

/-!
# What a page does to its channel and its forms

Of its selection channel and of its forms a page asks only what any user of theirs could: an action comes
to some actions on the one and some on the other (`perform_parts`). So what is proved of all histories of
a channel or of forms holds of every page.
-/

namespace ScenarioResults.Page

variable {σ ε : Type} [Backend σ]

/-- What an action does to the selection channel. -/
def channelled (page : Page σ ε) : PageAction → List SelectionAction
  | .select key =>
    (page.catalog.resolve key).toOption.toList.map fun descriptor => .setActive descriptor.key
  | .selectSlug raw =>
    (page.catalog.resolveSlug raw).toOption.toList.map fun descriptor => .setActive descriptor.key
  | .leave _ => [.reset]
  | .subscribe => [.subscribe]
  | .unsubscribe id => [.unsubscribe id]
  | _ => []

/-- What an action does to the forms. -/
def formed (page : Page σ ε) : PageAction → List FormAction
  | .setFilter key filter value => [.set key filter value]
  | .setFilterRaw key filter raw => [.setRaw key filter raw]
  | .leave _ => [.clear]
  | .loadOptions =>
    if page.forms.options.isSome then []
    else (Backend.options page.scenario page.backend).1.toOption.toList.map .takeOptions
  | _ => []

/-- What has come of an action on the two parts, with all else that an action leaves alone. -/
def Parted (page : Page σ ε) (action : PageAction) (next : Page σ ε) : Prop :=
  ({ page with
    selection := page.selection.run (page.channelled action)
    forms := page.forms.run (page.formed action) } : Page σ ε).Fixed next

omit [Backend σ] in
theorem Fixed.trans {page next last : Page σ ε} (first : page.Fixed next) (second : next.Fixed last) :
    page.Fixed last :=
  ⟨second.scenario.trans first.scenario, second.catalog.trans first.catalog,
    second.selection.trans first.selection, second.forms.trans first.forms⟩

theorem release_fixed (page : Page σ ε) (key : ViewKey) : page.Fixed (page.release key) := by
  rw [release_eq]
  exact ⟨rfl, rfl, rfl, rfl⟩

theorem restart_fixed (page : Page σ ε) (descriptor : ViewDescriptor) (key : ViewKey) :
    page.Fixed (page.restart descriptor key).2 :=
  (page.release_fixed key).trans ((page.release key).activate_touched descriptor).toFixed

theorem select_fixed {page : Page σ ε} {descriptor : ViewDescriptor}
    (resolved : page.catalog.resolve descriptor.key = .ok descriptor) :
    ({ page with selection := page.selection.setActive descriptor.key } : Page σ ε).Fixed
      (page.select descriptor.key).2 := by
  simp only [select, resolved]
  refine Fixed.trans ?_ ((page.turnTo descriptor.key).activate_touched descriptor).toFixed
  rw [turnTo_eq, letGo_apart]
  exact ⟨rfl, rfl, rfl, rfl⟩

theorem setFilter_fixed (page : Page σ ε) (key : ViewKey) (filter : Filter)
    (value : Option FilterValue) :
    ({ page with forms := (page.forms.setFilter key filter value).toOption.getD page.forms
      } : Page σ ε).Fixed (page.setFilter key filter value).2 := by
  unfold setFilter
  cases page.forms.setFilter key filter value with
  | error error => exact ⟨rfl, rfl, rfl, rfl⟩
  | ok forms =>
    dsimp only
    split
    · split
      · exact ⟨rfl, rfl, rfl, rfl⟩
      next descriptor resolved => exact restart_fixed _ descriptor key
    · exact ⟨rfl, rfl, rfl, rfl⟩

theorem refresh_fixed (page : Page σ ε) : page.Fixed page.refresh.2 := by
  unfold refresh
  split
  · exact ⟨rfl, rfl, rfl, rfl⟩
  next key shown =>
    split
    · exact ⟨rfl, rfl, rfl, rfl⟩
    next descriptor resolved => exact page.restart_fixed descriptor key

theorem loadOptions_parts (page : Page σ ε) : page.Parted .loadOptions page.loadOptions.2 := by
  unfold Parted loadOptions
  by_cases known : page.forms.options.isSome
  · have formed : page.formed .loadOptions = [] := if_pos known
    rw [formed, if_pos known]
    exact ⟨rfl, rfl, rfl, rfl⟩
  · have formed : page.formed .loadOptions =
        (Backend.options page.scenario page.backend).1.toOption.toList.map .takeOptions :=
      if_neg known
    rw [formed, if_neg known]
    rcases Backend.options page.scenario page.backend with ⟨fault | options, backend⟩
    · exact ⟨rfl, rfl, rfl, rfl⟩
    · exact ⟨rfl, rfl, rfl, rfl⟩

variable [Embedder ε]

theorem leave_fixed (page : Page σ ε) (now : Instant) :
    ({ page with
      selection := page.selection.reset
      forms := page.forms.clearValues } : Page σ ε).Fixed (page.leave now).2 := by
  refine Fixed.trans ?_ (page.depart.process_kept now).toFixed
  rw [depart_eq, letGo_apart]
  exact ⟨rfl, rfl, rfl, rfl⟩

theorem perform_parts (page : Page σ ε) (action : PageAction) :
    page.Parted action (page.perform action).2 := by
  have same : page.Fixed page := ⟨rfl, rfl, rfl, rfl⟩
  have untouched {next : Page σ ε} (fixed : page.Fixed next) (channelled : page.channelled action = [])
      (formed : page.formed action = []) : page.Parted action next := by
    unfold Parted
    rw [channelled, formed]
    exact fixed
  cases action with
  | select key =>
    cases resolved : page.catalog.resolve key with
    | error error =>
      simp only [perform, select, resolved]
      exact untouched same (by simp [channelled, resolved, Except.toOption]) rfl
    | ok descriptor =>
      obtain rfl := Catalog.key_of_resolve resolved
      have channelled : page.channelled (.select descriptor.key) = [.setActive descriptor.key] := by
        simp [channelled, resolved, Except.toOption]
      unfold Parted
      rw [channelled]
      exact select_fixed resolved
  | selectSlug raw =>
    cases named : page.catalog.resolveSlug raw with
    | error error =>
      simp only [perform, selectSlug, named]
      exact untouched same (by simp [channelled, named, Except.toOption]) rfl
    | ok descriptor =>
      have channelled : page.channelled (.selectSlug raw) = [.setActive descriptor.key] := by
        simp [channelled, named, Except.toOption]
      unfold Parted
      simp only [perform, selectSlug, named]
      rw [channelled]
      exact select_fixed (Catalog.resolve_of_resolveSlug named)
  | setFilter key filter value => exact page.setFilter_fixed key filter value
  | setFilterRaw key filter raw =>
    unfold Parted formed
    simp only [perform, setFilterRaw, ParameterForms.run, ParameterForms.perform]
    cases filter.read raw with
    | error error => exact same
    | ok value => exact page.setFilter_fixed key filter value
  | refresh => exact page.refresh_fixed
  | process now => exact (page.process_kept now).toFixed
  | wait now =>
    have kept := page.gather.process_kept now
    exact ⟨kept.scenario, kept.catalog, kept.selection, kept.forms⟩
  | leave now => exact page.leave_fixed now
  | loadOptions => exact page.loadOptions_parts
  | subscribe => exact ⟨rfl, rfl, rfl, rfl⟩
  | unsubscribe id => exact ⟨rfl, rfl, rfl, rfl⟩
  | deliver events => exact ⟨rfl, rfl, rfl, rfl⟩

theorem perform_catalog (page : Page σ ε) (action : PageAction) :
    (page.perform action).2.catalog = page.catalog :=
  (page.perform_parts action).catalog

theorem run_catalog (page : Page σ ε) (actions : List PageAction) :
    (page.run actions).catalog = page.catalog := by
  induction actions generalizing page with
  | nil => rfl
  | cons action rest ih => exact (ih _).trans (perform_catalog page action)

theorem run_scenario (page : Page σ ε) (actions : List PageAction) :
    (page.run actions).scenario = page.scenario := by
  induction actions generalizing page with
  | nil => rfl
  | cons action rest ih => exact (ih _).trans (page.perform_parts action).scenario

theorem run_selection (page : Page σ ε) (actions : List PageAction) :
    (page.run actions).selection = page.selection.run (page.along channelled actions) := by
  induction actions generalizing page with
  | nil => rfl
  | cons action rest ih =>
    have first := (page.perform_parts action).selection
    simp only [run, along, Selection.run_append, ih, first]

theorem run_forms (page : Page σ ε) (actions : List PageAction) :
    (page.run actions).forms = page.forms.run (page.along formed actions) := by
  induction actions generalizing page with
  | nil => rfl
  | cons action rest ih =>
    have first := (page.perform_parts action).forms
    simp only [run, along, ParameterForms.run_append, ih, first]

end ScenarioResults.Page
