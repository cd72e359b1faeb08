import ScenarioResults.CommandLine.Run
import ScenarioResults.Proofs.Client.Reply
import ScenarioResults.Proofs.Form.Given
import ScenarioResults.Proofs.Page.Reported

/-!
# A page that waits for its view

The page of a run starts blank, takes the filters, selects the view and makes one request
(`showView_launched`). What it then reports is what the client hears, or that the view was late.
-/

namespace ScenarioResults

namespace CommandLine

/-! ### Filters -/

variable {page : RunPage} {view : ViewDescriptor} {texts : List (Filter × String)}

/-- Filters that are set on a page that shows nothing fill the form and change nothing else. -/
theorem setFilters_hidden {key : ViewKey} {form : ParameterForm}
    (hidden : page.selection.current = none) (found : page.forms.form key = .ok form)
    (accepted : ∀ pair ∈ texts, pair.1 ∈ form.spec.filters ∧ (pair.1.read pair.2).isOk) :
    ∃ forms, setFilters key texts page = .ok { page with forms } ∧
      forms.form key = .ok (form.taking texts) := by
  induction texts generalizing page form with
  | nil => exact ⟨page.forms, rfl, found⟩
  | cons pair rest ih =>
    obtain ⟨filter, raw⟩ := pair
    obtain ⟨listed, readable⟩ := accepted _ List.mem_cons_self
    cases read : filter.read raw with
    | error error => simp [read, Except.isOk, Except.toBool] at readable
    | ok value =>
      obtain ⟨next, set, filled⟩ := ParameterForms.setFilter_ok found listed value
      have first : page.setFilterRaw key filter raw =
          (.ok [.filterChanged key filter], { page with forms := next }) := by
        simp [Page.setFilterRaw, read, Page.setFilter, set, hidden]
      -- No view is on show, so nothing was fetched and the rest meets the page as this text did.
      have still : ({ page with forms := next } : RunPage).selection.current = none := hidden
      obtain ⟨forms, others, taken⟩ :=
        ih still filled fun pair member => accepted pair (List.mem_cons_of_mem _ member)
      refine ⟨forms, ?_, ?_⟩
      · rw [setFilters, first]
        exact others
      · rw [ParameterForm.taking_cons read]
        exact taken

theorem setFilters_view (hidden : page.selection.current = none)
    (made : page.forms.forms = (ParameterForms.ofCatalog .standard).forms)
    (listed : view ∈ Catalog.standard.views) (takes : view.Takes texts) :
    ∃ forms, setFilters view.key texts page = .ok { page with forms } ∧
      Coordinator.plotPlan view (({ page with forms } : RunPage).formFor view) =
        .ok (view.planGiven texts) := by
  cases kind : view.fetch with
  | table =>
    -- A table has no filters, so none were given.
    have none : texts = [] := by
      refine List.eq_nil_iff_forall_not_mem.mpr fun pair member => ?_
      have own := (takes pair member).1
      simp [ViewDescriptor.filters, ViewDescriptor.plotSpec?, kind] at own
    subst none
    refine ⟨page.forms, rfl, ?_⟩
    simp [Coordinator.plotPlan, ViewDescriptor.planGiven, ViewDescriptor.plotSpec?, kind]
  | plot spec =>
    have known : view.plotSpec? = some spec := by simp [ViewDescriptor.plotSpec?, kind]
    have own : view.filters = spec.filters := by simp [ViewDescriptor.filters, known]
    have found := ParameterForms.form_standard made listed known
    have accepted : ∀ pair ∈ texts, pair.1 ∈ spec.filters ∧ (pair.1.read pair.2).isOk := by
      rw [← own]
      exact takes
    obtain ⟨forms, set, taken⟩ := setFilters_hidden hidden found accepted
    refine ⟨forms, set, ?_⟩
    have form : ({ page with forms } : RunPage).formFor view =
        some ((ParameterForm.blank view.key spec).taking texts) := by
      simp [Page.formFor, ViewDescriptor.kind, kind, taken, Except.toOption]
    rw [form, Coordinator.plotPlan_taking kind]

/-! ### From entering to the fetch under way -/

/-- The one request that a run makes for its view. -/
def viewRequest (scenario : ScenarioId) (view : ViewDescriptor) (texts : List (Filter × String)) :
    FetchRequest :=
  Coordinator.requestFor ⟨view.key, ⟨1⟩⟩ scenario (view.planGiven texts)

theorem viewRequest_ticket (scenario : ScenarioId) (view : ViewDescriptor)
    (texts : List (Filter × String)) :
    (viewRequest scenario view texts).ticket = ⟨view.key, ⟨1⟩⟩ :=
  Coordinator.requestFor_ticket _ _ _

/-- The URL of a table, or of a plot of what is given for its filters. -/
def viewUrl (base : Url) (scenario : ScenarioId) (view : ViewDescriptor)
    (texts : List (Filter × String)) : Url :=
  match view.planGiven texts with
  | none => Client.tableUrl base scenario view.key
  | some (_, arguments) => Client.plotUrl base scenario view.key arguments

theorem address_viewRequest (client : Client) (scenario : ScenarioId) (view : ViewDescriptor)
    (texts : List (Filter × String)) :
    client.address (viewRequest scenario view texts) =
      viewUrl client.base scenario view texts := by
  unfold viewRequest viewUrl
  cases view.planGiven texts <;> rfl

/-- The page of a run while its request is under way. -/
structure Launched (page : RunPage) (client : Client) (plots : PlotFolder) (scenario : ScenarioId)
    (view : ViewDescriptor) (texts : List (Filter × String)) : Prop
    extends page.Flies (viewRequest scenario view texts) where
  inner : page.backend.inner = client
  embedder : page.embedder = plots
  placed : (page.coordinator.slot view.key).pendingSurface = (view.planGiven texts).map Prod.fst

/-- What is told of options that could not be had. -/
def untold? (client : Client) (scenario : ScenarioId) : Option String :=
  match (client.options scenario).1 with
  | .ok _ => none
  | .error error => some error.fault.message

/-- A page that was entered has asked for the options, and has taken them or tells why not. -/
theorem enter_eq (scenario : ScenarioId) (client : Client) (plots : PlotFolder) :
    ∃ options,
      (Page.enter scenario .standard ⟨client, []⟩ plots : RunPage) =
        { scenario, catalog := .standard
          forms := ⟨(ParameterForms.ofCatalog .standard).forms, options⟩
          embedder := plots, backend := ⟨(client.options scenario).2, []⟩
          optionsError := untold? client scenario } := by
  have asked : Backend.options scenario (⟨client, []⟩ : InFlight Client) =
      ((client.options scenario).1.mapError ClientError.fault, ⟨(client.options scenario).2, []⟩) :=
    rfl
  unfold untold?
  cases answer : (client.options scenario).1 with
  | error error =>
    have failed : (Except.error error : Except ClientError ResultsOptions).mapError
        ClientError.fault = .error error.fault := rfl
    refine ⟨none, ?_⟩
    rw [answer, failed] at asked
    simp [Page.enter, Page.loadOptions, ParameterForms.ofCatalog, asked]
  | ok options =>
    have known : (Except.ok options).mapError ClientError.fault = .ok options := rfl
    refine ⟨some options, ?_⟩
    rw [answer, known] at asked
    simp [Page.enter, Page.loadOptions, ParameterForms.ofCatalog, ParameterForms.takeOptions, asked]

variable {scenario : ScenarioId} {client : Client} {plots : PlotFolder}

theorem showView_of_selected {start filled chosen : RunPage} {slug : String}
    {timeout : Duration} {watch : Watch} {events : List PageEvent}
    (resolved : start.catalog.resolveSlug slug = .ok view)
    (set : setFilters view.key texts start = .ok filled)
    (selected : filled.select view.key = (.ok events, chosen)) :
    showView start slug texts timeout watch = awaitReport chosen view.key timeout watch := by
  simp only [showView, resolved, set, selected]

/-- Once the filters are set the view is selected, and the run waits for its request. -/
theorem showView_launched (scenario : ScenarioId) (client : Client) (plots : PlotFolder)
    {slug : String} (timeout : Duration) (watch : Watch)
    (resolved : Catalog.standard.resolveSlug slug = .ok view) (takes : view.Takes texts) :
    ∃ page : RunPage, Launched page (client.options scenario).2 plots scenario view texts ∧
      showView (.enter scenario .standard ⟨client, []⟩ plots) slug texts timeout watch =
        awaitReport page view.key timeout watch := by
  obtain ⟨options, entered⟩ := enter_eq scenario client plots
  have known := Catalog.resolve_of_resolveSlug resolved
  let start : RunPage :=
    { scenario, catalog := .standard
      forms := ⟨(ParameterForms.ofCatalog .standard).forms, options⟩
      embedder := plots, backend := ⟨(client.options scenario).2, []⟩
      optionsError := untold? client scenario }
  have hidden : start.selection.current = none := rfl
  have made : start.forms.forms = (ParameterForms.ofCatalog .standard).forms := rfl
  obtain ⟨forms, set, plan⟩ := setFilters_view hidden made (Catalog.mem_of_resolve known) takes
  let request := viewRequest scenario view texts
  have ticket : request.ticket = ⟨view.key, ⟨1⟩⟩ := viewRequest_ticket scenario view texts
  let ready : RunPage := { start with forms, selection := start.selection.setActive view.key }
  have planned : Coordinator.plotPlan view (ready.formFor view) = .ok (view.planGiven texts) := plan
  have started : Backend.spawn (ready.planned view (view.planGiven texts)) ready.backend =
      (.ok [], ⟨(client.options scenario).2, [request]⟩) := rfl
  have activated := Page.activate_started planned started
  let slot : ViewSlot := ({} : ViewSlot).activate ((view.planGiven texts).map Prod.fst)
  let page : RunPage :=
    { ready with
      coordinator := ready.coordinator.putSlot view.key slot
      backend := ⟨(client.options scenario).2, [request]⟩ }
  have written : page.coordinator.slot view.key = slot := Coordinator.slot_putSlot_self _ _ _
  have flies : page.Flies request :=
    { requests := rfl, queue := rfl
      pending := by rw [ticket, written]; rfl
      current := by rw [ticket, written]; rfl
      shown := by rw [ticket]; rfl }
  refine ⟨page, ⟨flies, rfl, rfl, by rw [written]; rfl⟩, ?_⟩
  have selected : ({ start with forms } : RunPage).select view.key =
      (.ok [.selectionChanged view.key, .fetchIssued request.ticket], page) := by
    have turned : ({ start with forms } : RunPage).turnTo view.key = ready := rfl
    simp only [Page.select, start, known, turned, activated]
    rfl
  rw [entered]
  exact showView_of_selected resolved set selected

section

/-- What the page tells as the answer to its request comes in, and the page then. -/
def answer (page : RunPage) (scenario : ScenarioId) (view : ViewDescriptor)
    (texts : List (Filter × String)) (now : Instant) : PageEvent × RunPage :=
  page.answered (viewRequest scenario view texts) now

variable {page : RunPage} {timeout : Duration} {watch : Watch} {deadline : Instant}

theorem Launched.report_inTime (launched : Launched page client plots scenario view texts)
    (ends : watch.start.after? (timeout.plus Page.grace) = some deadline)
    (early : watch.arrival.nanoseconds < deadline.nanoseconds) :
    let answered := answer page scenario view texts watch.now
    awaitReport page view.key timeout watch =
      { result := (answered.2.report view.key).mapError .report, told := [answered.1]
        page := answered.2 } := by
  have awaited := Page.await_flight launched.toFlies ends early
  rw [viewRequest_ticket] at awaited
  simp only [awaitReport, awaited, answer]

theorem Launched.report_late (launched : Launched page client plots scenario view texts)
    (ends : watch.start.after? (timeout.plus Page.grace) = some deadline)
    (late : deadline.nanoseconds ≤ watch.arrival.nanoseconds) :
    awaitReport page view.key timeout watch =
      { result := .error (.report (.timeUp view.key (timeout.plus Page.grace)))
        page := page.gather } := by
  have awaited := Page.await_late launched.toFlies ends late
  rw [viewRequest_ticket] at awaited
  simp only [awaitReport, awaited]

end

/-! ### What the page then reports -/

theorem viewRequest_kind (scenario : ScenarioId) (view : ViewDescriptor)
    (texts : List (Filter × String)) : (viewRequest scenario view texts).kind = view.kind := by
  cases kind : view.fetch <;>
    simp [viewRequest, ViewDescriptor.planGiven, ViewDescriptor.plotSpec?, ViewDescriptor.kind, kind,
      Coordinator.requestFor, FetchRequest.kind]

theorem kind_of_listed : ∀ view ∈ Catalog.standard.views, view.key.kind = view.kind := by decide

theorem exists_spec_of_heard {description : PlotDescription}
    (heard : client.hear (viewRequest scenario view texts) = .ok (.plot description)) :
    ∃ spec, view.fetch = .plot spec := by
  have kind := Client.kind_of_hear heard
  rw [viewRequest_kind, ViewDescriptor.kind] at kind
  cases fetch : view.fetch with
  | table => rw [fetch] at kind; cases kind
  | plot spec => exact ⟨spec, rfl⟩

section

variable {page : RunPage}

theorem Launched.named (page : RunPage) :
    ((viewRequest scenario view texts).execute page.backend.inner).1.ticket.key = view.key := by
  rw [FetchRequest.execute_ticket, viewRequest_ticket]

theorem Launched.outcome (launched : Launched page client plots scenario view texts)
    {heard : Except ClientError ViewContent}
    (answer : client.hear (viewRequest scenario view texts) = heard) :
    ((viewRequest scenario view texts).execute page.backend.inner).1.outcome = .ofHeard heard := by
  rw [launched.inner, Client.execute_eq, answer]

theorem Launched.of_error (launched : Launched page client plots scenario view texts)
    {error : ClientError} (heard : client.hear (viewRequest scenario view texts) = .error error)
    (now : Instant) :
    let answered := answer page scenario view texts now
    answered.1 = .fetchFailed view.key error.fault.message ∧
      answered.2.report view.key = .error (.view (.fetchFailure view.key error.fault.message)) ∧
      answered.2.embedder = plots := by
  obtain ⟨told, report, embedder⟩ :=
    Page.report_of_failed launched.lands (Launched.named page) (launched.outcome heard)
  exact ⟨told, report, embedder.trans launched.embedder⟩

theorem Launched.of_table (launched : Launched page client plots scenario view texts)
    (listed : view ∈ Catalog.standard.views) {rows : List Row}
    (heard : client.hear (viewRequest scenario view texts) = .ok (.table rows)) (now : Instant) :
    let answered := answer page scenario view texts now
    answered.1 = (if rows.isEmpty then .resultEmpty view.key
      else .tableReady view.key rows.length) ∧
      answered.2.report view.key =
        .ok (if rows.isEmpty then (ViewError.noResults view.key).message ++ "\n"
          else Table.render ⟨rows⟩) ∧
      answered.2.embedder = plots := by
  have kind : view.key.kind = .table := by
    rw [kind_of_listed view listed, ← viewRequest_kind scenario view texts,
      ← Client.kind_of_hear heard]
    rfl
  obtain ⟨told, report, embedder⟩ :=
    Page.report_of_table launched.lands (Launched.named page) (launched.outcome heard) kind
  exact ⟨told, report, embedder.trans launched.embedder⟩

theorem Launched.surface (launched : Launched page client plots scenario view texts)
    {spec : PlotSpec} (plot : view.fetch = .plot spec) :
    (page.coordinator.slot view.key).pendingSurface =
      some (.ofValues spec (view.valuesGiven texts)) := by
  rw [launched.placed]
  simp [ViewDescriptor.planGiven, ViewDescriptor.plotSpec?, plot]

theorem Launched.of_void (launched : Launched page client plots scenario view texts)
    {spec : PlotSpec} (plot : view.fetch = .plot spec) {description : PlotDescription}
    (heard : client.hear (viewRequest scenario view texts) = .ok (.plot description))
    (void : description.isEmpty) (now : Instant) :
    let answered := answer page scenario view texts now
    answered.1 = .resultEmpty view.key ∧
      answered.2.report view.key = .ok ((ViewError.noResults view.key).message ++ "\n") ∧
      answered.2.embedder = plots := by
  obtain ⟨told, report, embedder⟩ := Page.report_of_void launched.lands (Launched.named page)
    (launched.outcome heard) (launched.surface plot) void
  exact ⟨told, report, embedder.trans launched.embedder⟩

theorem Launched.of_drawn (launched : Launched page client plots scenario view texts)
    (listed : view ∈ Catalog.standard.views) {spec : PlotSpec} (plot : view.fetch = .plot spec)
    {description : PlotDescription} {written : PlotFolder}
    (heard : client.hear (viewRequest scenario view texts) = .ok (.plot description))
    (visible : ¬ description.isEmpty)
    (writes : plots.write ⟨.ofValues spec (view.valuesGiven texts), description⟩ =
      (.ok (), written)) (now : Instant) :
    let answered := answer page scenario view texts now
    let surface := Surface.ofValues spec (view.valuesGiven texts)
    answered.1 = .plotBound view.key surface ∧
      answered.2.report view.key = .ok (plots.path surface ++ "\n") ∧
      answered.2.embedder = written := by
  have kind : view.key.kind = .plot := by
    rw [kind_of_listed view listed, ViewDescriptor.kind, plot]
  obtain rfl := launched.embedder
  exact Page.report_of_drawn launched.lands (Launched.named page) (launched.outcome heard) kind
    (launched.surface plot) visible writes

end

end CommandLine

end ScenarioResults
