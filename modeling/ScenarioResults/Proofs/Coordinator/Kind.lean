import ScenarioResults.Proofs.Coordinator.Log

/-!
# Results of the kind that was asked for

An activation of a plot knows the surface to draw on and an activation of a table knows none. So a plot
that comes in for a table is noticed and refused, and only plots have plots. Rows that come in for a
plot are taken as if a table had been asked for: results are of the kind of their views exactly as long
as that does not happen (`kinds_kept_iff`).
-/

namespace ScenarioResults

/-- The kind of result that an outcome brings, if it brings one. -/
def FetchOutcome.kind? : FetchOutcome → Option ViewKind
  | .table _ => some .table
  | .plot _ => some .plot
  | .failed _ => none

/-- A slot of a view of some kind: a surface is known exactly for a plot that is awaited, and only a
plot has a plot. -/
structure ViewSlot.Suited (slot : ViewSlot) (kind : ViewKind) : Prop where
  awaited : slot.status = .pending → (slot.pendingSurface.isSome ↔ kind = .plot)
  drawn : ∀ plot, slot.payload = some (.plot plot) → kind = .plot

namespace ViewSlot

variable {slot : ViewSlot} {kind : ViewKind}

theorem fresh_suited (kind : ViewKind) : ({} : ViewSlot).Suited kind :=
  ⟨fun pending => by simp at pending, fun plot held => by simp at held⟩

theorem Suited.activate (suited : slot.Suited kind) {surface : Option Surface}
    (known : surface.isSome ↔ kind = .plot) : (slot.activate surface).Suited kind :=
  ⟨fun _ => known, suited.drawn⟩

theorem Suited.abandon (suited : slot.Suited kind) : slot.abandon.Suited kind :=
  ⟨fun pending => (slot.abandon_not_pending pending).elim, suited.drawn⟩

theorem fail_suited (slot : ViewSlot) (message : String) (kind : ViewKind) :
    (slot.fail message).Suited kind :=
  ⟨fun pending => by simp [fail] at pending, fun plot held => by simp [fail] at held⟩

theorem Suited.receive (suited : slot.Suited kind) (pending : slot.status = .pending)
    (now : Instant) (outcome : FetchOutcome) : (slot.receive now outcome).Suited kind := by
  refine ⟨fun still => (slot.receive_not_pending now outcome still).elim, ?_⟩
  intro plot held
  cases outcome with
  | failed message => simp [ViewSlot.receive, fail] at held
  | table rows => simp [ViewSlot.receive, settle] at held
  | plot description =>
    cases surface : slot.pendingSurface with
    | none =>
      simp only [ViewSlot.receive, surface] at held
      exact suited.drawn plot held
    | some target => exact (suited.awaited pending).mp (by rw [surface]; rfl)

end ViewSlot

namespace Coordinator

/-- There is one descriptor of each view, and a plan takes that. -/
def Operation.PlansBy (descriptors : ViewKey → ViewDescriptor) : Operation → Prop
  | .plan descriptor _ _ => descriptor = descriptors descriptor.key
  | _ => True

/-- Views have results of their own kind, and only tables are listed. -/
structure KindsKept (descriptors : ViewKey → ViewDescriptor) (coordinator : Coordinator) : Prop where
  tables : ∀ key table, coordinator.table? key = some table → (descriptors key).kind = .table
  plots : ∀ key plot, coordinator.plot? key = some plot → (descriptors key).kind = .plot
  listed : ∀ entry ∈ coordinator.fetched, (descriptors entry.key).kind = .table

/-- A completion is answered by a failure and nothing of it is stored. -/
structure Refuses (coordinator : Coordinator) (event : FetchEvent) (active : Option ViewKey)
    (now : Instant) : Prop where
  answer : ∃ message,
    (coordinator.apply event active now).1 = .ok (.failed event.ticket.key message)
  payload : ((coordinator.apply event active now).2.slot event.ticket.key).payload =
    (coordinator.slot event.ticket.key).payload
  listed : (coordinator.apply event active now).2.fetched = coordinator.fetched

/-- A plan of a plot knows a surface, and one of a table none. -/
theorem isSome_of_planned {descriptor : ViewDescriptor} {form : Option ParameterForm}
    {plot : Option (Surface × List PlotArgument)} (planned : plotPlan descriptor form = .ok plot) :
    (plot.map Prod.fst).isSome ↔ descriptor.kind = .plot := by
  unfold plotPlan at planned
  unfold ViewDescriptor.kind
  cases fetch : descriptor.fetch with
  | table =>
    rw [fetch] at planned
    cases planned
    simp
  | plot spec =>
    rw [fetch] at planned
    dsimp only at planned
    split at planned
    · cases planned
    · cases planned
      simp

theorem suited_putSlot {descriptors : ViewKey → ViewDescriptor} {coordinator : Coordinator}
    (suited : ∀ key, (coordinator.slot key).Suited (descriptors key).kind) {written : ViewKey}
    {slot : ViewSlot} (fits : slot.Suited (descriptors written).kind) (key : ViewKey) :
    ((coordinator.putSlot written slot).slot key).Suited (descriptors key).kind := by
  rw [slot_putSlot]
  split
  next same =>
    rw [same]
    exact fits
  next => exact suited key

theorem perform_suited {descriptors : ViewKey → ViewDescriptor} {coordinator : Coordinator}
    {operation : Operation} (planned : operation.PlansBy descriptors)
    (suited : ∀ key, (coordinator.slot key).Suited (descriptors key).kind) (key : ViewKey) :
    ((coordinator.perform operation).2.slot key).Suited (descriptors key).kind := by
  have step := coordinator.perform_step operation
  generalize coordinator.perform operation = performed at step ⊢
  cases step with
  | @planned descriptor scenario form plot plan =>
    have same : descriptor = descriptors descriptor.key := planned
    refine suited_putSlot suited ((suited descriptor.key).activate ?_) key
    rw [isSome_of_planned plan, ← same]
  | abandoned => exact suited_putSlot suited (suited _).abandon key
  | marked => exact suited_putSlot suited (ViewSlot.fail_suited _ _ _) key
  | @landed event active now lands =>
    rw [slots_land]
    split
    next same =>
      rw [same]
      exact (suited _).receive lands.pending now event.outcome
    next => exact suited key
  | _ => exact suited key

theorem run_suited {descriptors : ViewKey → ViewDescriptor} {coordinator : Coordinator}
    {operations : List Operation} (planned : ∀ operation ∈ operations, operation.PlansBy descriptors)
    (suited : ∀ key, (coordinator.slot key).Suited (descriptors key).kind) (key : ViewKey) :
    ((run operations coordinator).slot key).Suited (descriptors key).kind := by
  induction operations generalizing coordinator with
  | nil => exact suited key
  | cons operation rest ih =>
    refine ih (fun later member => planned later (List.mem_cons_of_mem _ member)) ?_
    exact perform_suited (planned operation List.mem_cons_self) suited

/-! ### Tables -/

/-- A table that a view has was listed for it. -/
def TablesListed (coordinator : Coordinator) : Prop :=
  ∀ key table, (coordinator.slot key).payload = some (.table table) →
    ∃ entry ∈ coordinator.fetched, entry.key = key

/-- A table that is new to a slot is listed in the same turn. -/
theorem Turn.table {key : ViewKey} {slot next : ViewSlot} {listed : Option FetchedTable}
    (turn : Turn key slot listed next) {table : TableResult}
    (held : next.payload = some (.table table)) :
    slot.payload = some (.table table) ∨ ∃ entry, listed = some entry ∧ entry.key = key := by
  cases turn with
  | stays => exact .inl held
  | activated surface => exact .inl held
  | abandoned => exact .inl held
  | failed message => simp [ViewSlot.fail] at held
  | received now outcome pending =>
    cases outcome with
    | failed message => simp [ViewSlot.receive, ViewSlot.fail] at held
    | table rows => exact .inr ⟨_, rfl, rfl⟩
    | plot description =>
      cases surface : slot.pendingSurface with
      | none =>
        simp only [ViewSlot.receive, surface] at held
        exact .inl held
      | some target => simp [ViewSlot.receive, surface, ViewSlot.settle] at held

theorem run_tables {coordinator : Coordinator} (listed : coordinator.TablesListed)
    (operations : List Operation) : (run operations coordinator).TablesListed := by
  induction operations generalizing coordinator with
  | nil => exact listed
  | cons operation rest ih =>
    refine ih ?_
    intro key table held
    rw [perform_fetched]
    rcases (coordinator.perform_turn operation key).table held with old | ⟨entry, new, own⟩
    · obtain ⟨entry, member, own⟩ := listed key table old
      exact ⟨entry, List.mem_append_left _ member, own⟩
    · obtain ⟨given, -⟩ := Option.filter_eq_some_iff.mp new
      exact ⟨entry, List.mem_append_right _ (by simp [given]), own⟩

/-! ### Completions of the other kind -/

/-- Of the completions that bring what was not asked for, the plots are refused and the rows are not. -/
theorem refuses_iff {coordinator : Coordinator} {event : FetchEvent} {active : Option ViewKey}
    {now : Instant} {asked kind : ViewKind} (suited : (coordinator.slot event.ticket.key).Suited asked)
    (lands : coordinator.Lands event active) (brings : event.outcome.kind? = some kind)
    (other : kind ≠ asked) : coordinator.Refuses event active now ↔ kind = .plot := by
  have known := suited.awaited lands.pending
  constructor
  · rintro ⟨⟨message, answer⟩, -, -⟩
    rw [apply_of_lands lands now] at answer
    cases outcome : event.outcome with
    | failed message => simp [outcome, FetchOutcome.kind?] at brings
    | table rows =>
      simp only [land, outcome] at answer
      split at answer <;> cases answer
    | plot description =>
      simpa [outcome, FetchOutcome.kind?] using brings.symm
  · rintro rfl
    have surface : (coordinator.slot event.ticket.key).pendingSurface = none := by
      cases given : (coordinator.slot event.ticket.key).pendingSurface with
      | none => rfl
      | some target =>
        rw [given] at known
        exact (other (known.mp rfl).symm).elim
    obtain ⟨ticket, outcome⟩ := event
    cases outcome with
    | failed message => cases brings
    | table rows => cases brings
    | plot description =>
      have landed : coordinator.land (coordinator.slot ticket.key) ⟨ticket, .plot description⟩
          now = (.failed ticket.key misplacedPlot, coordinator.putSlot ticket.key
            ((coordinator.slot ticket.key).reject misplacedPlot)) := by
        simp only [land, surface]
      refine ⟨⟨misplacedPlot, ?_⟩, ?_, ?_⟩
      · rw [apply_of_lands lands now, landed]
      · rw [apply_of_lands lands now, landed, slot_putSlot_self]
        rfl
      · rw [apply_of_lands lands now, landed]
        rfl

/-- If every view is always planned by the one descriptor that there is of it, then only plots have
plots, and a plot that comes in for a table is refused. Tables have tables, and only tables are listed,
exactly if no rows have landed for a plot; these are never refused. -/
theorem kinds_kept_iff {descriptors : ViewKey → ViewDescriptor} {operations : List Operation}
    (planned : ∀ operation ∈ operations, operation.PlansBy descriptors) :
    let coordinator := run operations {}
    (∀ key plot, coordinator.plot? key = some plot → (descriptors key).kind = .plot) ∧
      (coordinator.KindsKept descriptors ↔ ∀ entry ∈ history operations {},
        ∀ listed, entry.listed? = some listed → (descriptors listed.key).kind = .table) ∧
      ∀ event active now kind, coordinator.Lands event active → event.outcome.kind? = some kind →
        kind ≠ (descriptors event.ticket.key).kind →
        (coordinator.Refuses event active now ↔ kind = .plot) := by
  intro coordinator
  have suited : ∀ key, (coordinator.slot key).Suited (descriptors key).kind :=
    run_suited planned fun key => ViewSlot.fresh_suited _
  have tables : coordinator.TablesListed :=
    run_tables (fun key table held => by cases held) operations
  have fetched : coordinator.fetched = (history operations {}).filterMap Entry.listed? := by
    simpa using fetched_history operations {}
  have plots (key : ViewKey) (plot : PlotResult) (held : coordinator.plot? key = some plot) :
      (descriptors key).kind = .plot := by
    unfold plot? at held
    split at held
    next payload =>
      obtain rfl := Option.some.inj held
      exact (suited key).drawn _ payload
    next => cases held
  refine ⟨plots, ?_, fun _ _ _ _ lands brings other => refuses_iff (suited _) lands brings other⟩
  constructor
  · intro kept entry member listed given
    refine kept.listed listed ?_
    rw [fetched]
    exact List.mem_filterMap.mpr ⟨entry, member, given⟩
  · intro right
    have among (listed : FetchedTable) (member : listed ∈ coordinator.fetched) :
        (descriptors listed.key).kind = .table := by
      rw [fetched] at member
      obtain ⟨entry, member, given⟩ := List.mem_filterMap.mp member
      exact right entry member listed given
    refine ⟨?_, plots, among⟩
    intro key table held
    unfold table? at held
    split at held
    next payload =>
      obtain ⟨entry, member, rfl⟩ := tables key _ payload
      exact among entry member
    next => cases held

/-- A table and a plot that are answered by their own kinds. The plot is then refused for the table. -/
theorem kinds_kept_iff_answered :
    let table := Catalog.table .systemRps "System RPS"
    let plot := Catalog.plot .costPlot "Cost Plot" "costPlot" []
    let descriptors (key : ViewKey) : ViewDescriptor := if key = .costPlot then plot else table
    let operations : List Operation :=
      [.plan table ⟨7⟩ none,
        .apply ⟨⟨.systemRps, ⟨1⟩⟩, .table [[("period", .null)]]⟩ (some .systemRps) ⟨0⟩,
        .plan plot ⟨7⟩ (some (.blank .costPlot ⟨"costPlot", []⟩)),
        .apply ⟨⟨.costPlot, ⟨1⟩⟩, .plot ⟨.null⟩⟩ (some .costPlot) ⟨0⟩, .plan table ⟨7⟩ none]
    (∀ operation ∈ operations, operation.PlansBy descriptors) ∧
      (run operations {}).KindsKept descriptors ∧
      (run operations {}).Refuses ⟨⟨.systemRps, ⟨2⟩⟩, .plot ⟨.null⟩⟩ (some .systemRps)
        ⟨0⟩ := by
  intro table plot descriptors operations
  have planned : ∀ operation ∈ operations, operation.PlansBy descriptors := by
    simp [operations, Operation.PlansBy, descriptors, table, plot, Catalog.table, Catalog.plot]
  obtain ⟨-, kept, refused⟩ := kinds_kept_iff planned
  refine ⟨planned, kept.mpr ?_, (refused _ _ _ .plot ⟨rfl, rfl, rfl⟩ rfl (by decide)).mpr rfl⟩
  intro entry member listed given
  have among : listed ∈ (history operations {}).filterMap Entry.listed? :=
    List.mem_filterMap.mpr ⟨entry, member, given⟩
  have only : (history operations {}).filterMap Entry.listed? =
      [⟨.systemRps, ⟨1⟩, ⟨[[("period", .null)]]⟩⟩] := rfl
  rw [only, List.mem_singleton] at among
  subst among
  rfl

/-- Rows that come in for a plot are taken: the view has a table, and the table is listed. -/
theorem kinds_not_kept :
    let plot := Catalog.plot .costPlot "Cost Plot" "costPlot" []
    let operations : List Operation :=
      [.plan plot ⟨7⟩ (some (.blank .costPlot ⟨"costPlot", []⟩)),
        .apply ⟨⟨.costPlot, ⟨1⟩⟩, .table [[("period", .null)]]⟩ (some .costPlot) ⟨0⟩]
    (∀ operation ∈ operations, operation.PlansBy fun _ => plot) ∧
      ¬ (run operations {}).KindsKept (fun _ => plot) ∧
      (run operations {}).status .costPlot = .ready ∧
      (run operations {}).table? .costPlot = some ⟨[[("period", .null)]]⟩ ∧
      (run operations {}).fetched = [⟨.costPlot, ⟨1⟩, ⟨[[("period", .null)]]⟩⟩] := by
  intro plot operations
  refine ⟨by simp [operations, Operation.PlansBy], ?_, rfl, rfl, rfl⟩
  intro kept
  have wrong : plot.kind = .table := kept.tables .costPlot ⟨[[("period", .null)]]⟩ rfl
  cases wrong

end Coordinator

end ScenarioResults
