import ScenarioResults.Backend.Scripted
import ScenarioResults.Proofs.Page.Course
import ScenarioResults.Proofs.Page.Fetching
import ScenarioResults.Proofs.PlotPage.File
import ScenarioResults.Proofs.Surface.Name

/-!
# Every plot on a page is on file

A page that draws into a folder keeps both in step: whatever plot a slot holds, the folder has its page
as it was drawn (`plots_on_file`). The invariant is `Filed`, slot by slot. A slot is only ever drawn on
surfaces of its own view, and no other view of the standard catalog has these, so what is written for
one slot leaves the pages of all others alone.
-/

namespace ScenarioResults

/-- A surface that some values of its filters give a plot of the standard catalog. -/
def ViewKey.Owns (key : ViewKey) (surface : Surface) : Prop :=
  ∃ plot ∈ Catalog.standard.plots, plot.1.key = key ∧
    ∃ values, surface = Surface.ofValues plot.2 values

theorem ViewKey.owner_unique {key other : ViewKey} {surface : Surface} (owned : key.Owns surface)
    (alsoOwned : other.Owns surface) : key = other := by
  obtain ⟨plot, listed, rfl, values, rfl⟩ := owned
  obtain ⟨rival, alsoListed, rfl, others, same⟩ := alsoOwned
  rw [Surface.plot_eq_of_ofValues_eq listed alsoListed same]

/-- The slot of a view is drawn on surfaces of this view, and the plot that it holds is on file. -/
structure ViewSlot.Filed (slot : ViewSlot) (key : ViewKey) (plots : PlotFolder) : Prop where
  pending : ∀ surface, slot.pendingSurface = some surface → key.Owns surface
  owned : ∀ plot, slot.payload = some (.plot plot) → key.Owns plot.surface
  written : ∀ plot, slot.payload = some (.plot plot) → ¬ plot.description.isEmpty →
    plots.pageAt? (plots.path plot.surface) = some (PlotPage.render plot plots.script)

namespace ViewSlot

variable {slot : ViewSlot} {key : ViewKey} {plots : PlotFolder} {now : Instant}

theorem fresh_filed (key : ViewKey) (plots : PlotFolder) : ({} : ViewSlot).Filed key plots := by
  constructor <;> simp

theorem Filed.activate {surface : Option Surface} (filed : slot.Filed key plots)
    (owned : ∀ place, surface = some place → key.Owns place) :
    (slot.activate surface).Filed key plots := ⟨owned, filed.owned, filed.written⟩

theorem Filed.abandon (filed : slot.Filed key plots) : slot.abandon.Filed key plots :=
  ⟨by simp [ViewSlot.abandon], filed.owned, filed.written⟩

theorem fail_filed (slot : ViewSlot) (message : String) (key : ViewKey) (plots : PlotFolder) :
    (slot.fail message).Filed key plots := by
  constructor <;> simp [fail]

theorem settle_table_filed (slot : ViewSlot) (table : TableResult) (now : Instant) (key : ViewKey)
    (plots : PlotFolder) : (slot.settle (.table table) now).Filed key plots := by
  constructor <;> simp [settle]

theorem settle_plot_filed (slot : ViewSlot) {plot : PlotResult} (owned : key.Owns plot.surface)
    (written : ¬ plot.description.isEmpty →
      plots.pageAt? (plots.path plot.surface) = some (PlotPage.render plot plots.script)) :
    (slot.settle (.plot plot) now).Filed key plots := by
  refine ⟨by simp [settle], ?_, ?_⟩
  · intro other held
    cases held
    exact owned
  · intro other held
    cases held
    exact written

/-- An outcome with nothing to draw needs no page that is not there yet. -/
theorem Filed.receive {outcome : FetchOutcome} (filed : slot.Filed key plots)
    (undrawn : slot.draws? outcome = none) : (slot.receive now outcome).Filed key plots := by
  unfold ViewSlot.receive
  cases outcome with
  | failed message => exact slot.fail_filed message key plots
  | table rows => exact slot.settle_table_filed ⟨rows⟩ now key plots
  | plot description =>
    cases pending : slot.pendingSurface with
    | none => exact ⟨by simp [reject], filed.owned, filed.written⟩
    | some surface =>
      refine slot.settle_plot_filed (filed.pending surface pending) ?_
      intro visible
      simp [draws?, pending, visible] at undrawn

/-- A page written for another view is none that the slot refers to. -/
theorem Filed.of_write {next : PlotFolder} {plot : PlotResult} {writer : ViewKey}
    (filed : slot.Filed key plots) (written : plots.write plot = (.ok (), next))
    (owned : writer.Owns plot.surface) (different : key ≠ writer) : slot.Filed key next := by
  refine ⟨filed.pending, filed.owned, ?_⟩
  intro held payload visible
  have apart : held.surface ≠ plot.surface := by
    intro same
    have holder := filed.owned held payload
    rw [same] at holder
    exact different (ViewKey.owner_unique holder owned)
  obtain ⟨folder, script⟩ := PlotFolder.write_fixed written
  have place : next.path held.surface = plots.path held.surface := by
    simp only [PlotFolder.path, folder]
  rw [place, script, PlotFolder.write_page written, if_neg apart]
  exact filed.written held payload visible

end ViewSlot

namespace Coordinator

variable {coordinator : Coordinator} {plots : PlotFolder}

/-- Every slot is filed under its own view. -/
def Filed (coordinator : Coordinator) (plots : PlotFolder) : Prop :=
  ∀ key, (coordinator.slot key).Filed key plots

theorem filed_putSlot {key : ViewKey} {slot : ViewSlot} (own : slot.Filed key plots)
    (others : ∀ other, other ≠ key → (coordinator.slot other).Filed other plots) :
    (coordinator.putSlot key slot).Filed plots := by
  intro other
  rw [slot_putSlot]
  split
  next same =>
    rw [same]
    exact own
  next different => exact others other different

theorem Filed.putSlot {key : ViewKey} {slot : ViewSlot} (filed : coordinator.Filed plots)
    (own : slot.Filed key plots) : (coordinator.putSlot key slot).Filed plots :=
  filed_putSlot own fun other _ => filed other

/-- A slot that fails holds no plot any more, so it only matters what the others hold. -/
theorem filed_markFailed {key : ViewKey} (message : String)
    (others : ∀ other, other ≠ key → (coordinator.slot other).Filed other plots) :
    (coordinator.markFailed key message).Filed plots :=
  filed_putSlot (ViewSlot.fail_filed _ _ _ _) others

end Coordinator

namespace Page

variable {σ : Type}

/-- A page of the standard catalog that draws into the given folder, with every plot on file. -/
structure Illustrated (plots : PlotFolder) (page : Page σ PlotFolder) : Prop where
  catalog : page.catalog = .standard
  folder : page.embedder.folder = plots.folder
  script : page.embedder.script = plots.script
  filed : page.coordinator.Filed page.embedder

variable {plots : PlotFolder} {page next : Page σ PlotFolder}

/-! ### Completions -/

theorem Illustrated.applyEvent (illustrated : page.Illustrated plots) (event : FetchEvent)
    (now : Instant) : (page.applyEvent event now).2.Illustrated plots := by
  by_cases lands : page.coordinator.Lands event page.selection.current
  · have filed := illustrated.filed event.ticket.key
    cases drawn : (page.coordinator.slot event.ticket.key).draws? event.outcome with
    | none =>
      rw [applyEvent_undrawn lands drawn]
      refine ⟨illustrated.catalog, illustrated.folder, illustrated.script, ?_⟩
      intro key
      rw [Coordinator.slots_land]
      split
      next same =>
        rw [same]
        exact filed.receive drawn
      next => exact illustrated.filed key
    | some plot =>
      obtain ⟨-, placed, -⟩ := draws_eq_some drawn
      have owned : event.ticket.key.Owns plot.surface := filed.pending _ placed
      rw [applyEvent_drawn lands drawn]
      rcases answer : Embedder.embed plot page.embedder with ⟨fault | _, folder⟩
      · -- What could not be drawn is taken off the slot, and no page was touched.
        have unchanged : folder = page.embedder := PlotFolder.write_refused answer
        subst unchanged
        refine ⟨illustrated.catalog, illustrated.folder, illustrated.script,
          Coordinator.filed_markFailed _ ?_⟩
        intro key different
        rw [Coordinator.slot_putSlot_of_ne _ _ different]
        exact illustrated.filed key
      · have written : page.embedder.write plot = (.ok (), folder) := answer
        obtain ⟨place, script⟩ := PlotFolder.write_fixed written
        refine ⟨illustrated.catalog, place.trans illustrated.folder,
          script.trans illustrated.script, Coordinator.filed_putSlot ?_ ?_⟩
        · refine ViewSlot.settle_plot_filed _ owned ?_
          intro _
          have itself := PlotFolder.write_page written plot.surface
          rw [if_pos rfl] at itself
          have path : folder.path plot.surface = page.embedder.path plot.surface := by
            simp only [PlotFolder.path, place]
          rw [path, script, itself]
        · intro key different
          exact (illustrated.filed key).of_write written owned different
  · rw [applyEvent_of_not_lands lands]
    exact illustrated

theorem Illustrated.process (illustrated : page.Illustrated plots) (now : Instant) :
    (page.process now).2.Illustrated plots := by
  have dequeued : ({ page with queue := [] } : Page σ PlotFolder).Illustrated plots :=
    ⟨illustrated.catalog, illustrated.folder, illustrated.script, illustrated.filed⟩
  exact applyEvents_keeps (fun _ event before => before.applyEvent event now) dequeued page.queue

/-! ### Fetches given up and started -/

variable [Backend σ]

theorem Illustrated.alike (illustrated : page.Illustrated plots) (alike : page.Alike next) :
    next.Illustrated plots := by
  refine ⟨alike.catalog.trans illustrated.catalog, ?_, ?_, ?_⟩
  · rw [alike.embedder, illustrated.folder]
  · rw [alike.embedder, illustrated.script]
  · rw [alike.coordinator, alike.embedder]
    exact illustrated.filed

theorem Illustrated.letGo (illustrated : page.Illustrated plots) :
    page.letGo.Illustrated plots := by
  cases shown : page.selection.current with
  | none =>
    rw [letGo_of_none shown]
    exact illustrated
  | some current =>
    by_cases pending : page.status current = .pending
    · rw [letGo_of_pending shown pending]
      exact ⟨illustrated.catalog, illustrated.folder, illustrated.script,
        illustrated.filed.putSlot (illustrated.filed current).abandon⟩
    · rw [letGo_of_settled shown pending]
      exact illustrated

omit [Backend σ] in
/-- A plot that is planned for a standard view is to be drawn on a surface of this view. -/
theorem owns_of_plan {descriptor : ViewDescriptor} {form : Option ParameterForm}
    {plot : Option (Surface × List PlotArgument)}
    (plan : Coordinator.plotPlan descriptor form = .ok plot)
    (resolved : Catalog.standard.resolve descriptor.key = .ok descriptor) :
    ∀ surface, plot.map Prod.fst = some surface → descriptor.key.Owns surface := by
  intro surface placed
  unfold Coordinator.plotPlan at plan
  split at plan
  · cases plan
    cases placed
  next spec fetch =>
    split at plan
    · cases plan
    · cases plan
      cases placed
      refine ⟨(descriptor, spec), ?_, rfl, _, rfl⟩
      refine List.mem_filterMap.mpr ⟨descriptor, Catalog.mem_of_resolve resolved, ?_⟩
      simp [ViewDescriptor.plotSpec?, fetch]

theorem Illustrated.activate {descriptor : ViewDescriptor} (illustrated : page.Illustrated plots)
    (resolved : page.catalog.resolve descriptor.key = .ok descriptor) :
    (page.activate descriptor).2.Illustrated plots := by
  rw [illustrated.catalog] at resolved
  cases plan : Coordinator.plotPlan descriptor (page.formFor descriptor) with
  | error error =>
    rw [activate_unplanned plan]
    exact ⟨illustrated.catalog, illustrated.folder, illustrated.script,
      Coordinator.filed_markFailed _ fun key _ => illustrated.filed key⟩
  | ok plot =>
    have filed := illustrated.filed.putSlot
      ((illustrated.filed descriptor.key).activate (owns_of_plan plan resolved))
    rcases answer : Backend.spawn (page.planned descriptor plot) page.backend with
      ⟨fault | events, backend⟩
    · rw [activate_refused plan answer]
      exact ⟨illustrated.catalog, illustrated.folder, illustrated.script,
        Coordinator.filed_markFailed _ fun key _ => filed key⟩
    · rw [activate_started plan answer]
      exact ⟨illustrated.catalog, illustrated.folder, illustrated.script, filed⟩

/-! ### Runs -/

theorem Illustrated.perform (illustrated : page.Illustrated plots) (action : PageAction) :
    (page.perform action).2.Illustrated plots := by
  cases page.course action with
  | activates descriptor found _ _ _ _ alike resolved _ performed =>
    have before := illustrated.letGo.alike alike
    rw [illustrated.catalog, ← before.catalog] at resolved
    rw [performed]
    exact before.activate resolved
  | takes found _ _ _ _ before performed =>
    rw [performed]
    rcases before with ⟨alike, -⟩ | ⟨alike, -⟩
    · exact (illustrated.alike alike).process _
    · exact (illustrated.letGo.alike alike).process _
  | rests _ _ _ alike _ => exact illustrated.alike alike

theorem run_illustrated (scenario : ScenarioId) (backend : σ) (plots : PlotFolder)
    (actions : List PageAction) :
    ((enter scenario .standard backend plots).run actions).Illustrated plots := by
  have fresh : Illustrated plots
      { scenario, catalog := .standard, forms := .ofCatalog .standard, embedder := plots, backend } :=
    ⟨rfl, rfl, rfl, fun key => ViewSlot.fresh_filed key plots⟩
  exact run_keeps (fun _ action before => before.perform action)
    (fresh.alike (enter_alike scenario .standard backend plots)) actions

/-- Whatever happens to a page of the standard catalog, the folder has the page of every plot that a
slot holds. -/
theorem plots_on_file (scenario : ScenarioId) (backend : σ) (plots : PlotFolder)
    (actions : List PageAction) (key : ViewKey) (plot : PlotResult) :
    let page := (enter scenario .standard backend plots).run actions
    page.coordinator.plot? key = some plot → ¬ plot.description.isEmpty →
      page.embedder.pageAt? (plots.path plot.surface) =
        some (PlotPage.render plot plots.script) := by
  intro page held visible
  have illustrated : page.Illustrated plots := run_illustrated scenario backend plots actions
  have payload : (page.coordinator.slot key).payload = some (.plot plot) := by
    unfold Coordinator.plot? at held
    split at held
    next found =>
      cases held
      exact found
    next => cases held
  have written := (illustrated.filed key).written plot payload visible
  rw [illustrated.script, PlotFolder.path, illustrated.folder] at written
  exact written

/-- The page of a plot stays while another view is drawn and after the page is left. -/
theorem plots_on_file_after_leave :
    let plots : PlotFolder := { folder := "plots", script := "bokeh.js" }
    let page := (enter ⟨7⟩ .standard ({ deferred := true } : ScriptedBackend) plots).run
      [.select .dispatchPlot, .deliver [⟨⟨.dispatchPlot, ⟨1⟩⟩, .plot ⟨.bool true⟩⟩], .process ⟨0⟩,
        .setFilter .dispatchPlot .loadZone (some (.text "North")), .select .energyPlot,
        .deliver [⟨⟨.energyPlot, ⟨1⟩⟩, .plot ⟨.bool false⟩⟩], .leave ⟨0⟩]
    ∃ plot, page.coordinator.plot? .dispatchPlot = some plot ∧ ¬ plot.description.isEmpty ∧
      plot.surface.name = "dispatchPlot-~-~" ∧
      page.embedder.pageAt? (plots.path plot.surface) = some (PlotPage.render plot "bokeh.js") := by
  intro plots page
  have held : (page.coordinator.plot? .dispatchPlot).any fun plot =>
      !plot.description.isEmpty && plot.surface.name == "dispatchPlot-~-~" := by
    decide +kernel
  obtain ⟨plot, found, shown⟩ := (Option.any_eq_true _ _).mp held
  simp only [Bool.and_eq_true, Bool.not_eq_true', beq_iff_eq] at shown
  have visible : ¬ plot.description.isEmpty := by simp [shown.1]
  exact ⟨plot, found, visible, shown.2, plots_on_file ⟨7⟩
    ({ deferred := true } : ScriptedBackend) plots _ .dispatchPlot plot found visible⟩

end Page

end ScenarioResults
