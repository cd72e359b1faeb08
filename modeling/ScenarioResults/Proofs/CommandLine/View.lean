import ScenarioResults.Proofs.Client.Asking
import ScenarioResults.Proofs.CommandLine.Launched
import ScenarioResults.Proofs.CommandLine.Setup
import ScenarioResults.Proofs.Text.Trim

/-!
# A run that shows a view

A run whose arguments ask for one view, and for nothing that is printed in its place, comes down to
one reply: what it leaves behind is what the reply says, or that there was none in time (`run_view`).
Before that it may end for want of a folder for the plots.
-/

namespace ScenarioResults

namespace CommandLine

/-! ### The whole run -/

/-- Arguments that ask for one view and for nothing that is printed in its place, all of it
accepted. -/
structure Accepted (around : Surroundings) (args : List String) (arguments : Arguments)
    (config : Config) (timeout : Duration) (client : Client) (scenario : ScenarioId)
    (view : ViewDescriptor) : Prop where
  read : around.arguments args = .ok arguments
  showsHelp : arguments.showsHelp = false
  printsConfigPath : arguments.printsConfigPath = false
  printsTemplate : arguments.printsTemplate = false
  listsViews : arguments.listsViews = false
  checksOnly : arguments.checksOnly = false
  loaded : Config.load arguments.configPath (around.fileAt arguments.configPath) = .ok config
  timed : config.timeout = .ok timeout
  reached : Client.ofText config.baseUrl around.network around.decoder = .ok client
  named : arguments.scenario?.map ScenarioId.ofRoute = some (.ok scenario)
  shown : arguments.view?.map Catalog.standard.resolveSlug = some (.ok view)
  takes : view.Takes arguments.filters

theorem of_plotFolder {around : Surroundings} {config : Config} {plots : PlotFolder}
    (placed : plotFolder around config = .ok plots) :
    config.plotFolder around.dataHome = some plots.folder ∧ plots.script = config.script ∧
      plots.pages = [] := by
  unfold plotFolder at placed
  split at placed
  next => cases placed
  next folder known =>
    obtain rfl := Except.ok.inj placed
    exact ⟨known, rfl, rfl⟩

theorem noResults_line (key : ViewKey) :
    (ViewError.noResults key).message ++ "\n" = key.slug ++ " returned no results\n" :=
  String.append_assoc

/-- What a run prints and writes when there is content to show: the rows of a table, or the page of a
plot and where it is. Nothing is written where there is nothing to show. -/
def Outcome.Shows (outcome : Outcome) (view : ViewDescriptor) (values : FilterValues)
    (folder script : String) : ViewContent → Prop
  | .table [] | .plot ⟨.null⟩ | .plot ⟨.object []⟩ | .plot ⟨.array []⟩ =>
    outcome.pages = [] ∧ outcome.output = view.key.slug ++ " returned no results\n"
  | .table rows => outcome.pages = [] ∧ outcome.output = Table.render ⟨rows⟩
  | .plot description => ∃ spec, view.fetch = .plot spec ∧
    let plot : PlotResult := ⟨.ofValues spec values, description⟩
    let path := PlotPage.path folder plot.surface
    outcome.pages = [(path, PlotPage.render plot script)] ∧ outcome.output = path ++ "\n"

section

variable {outcome : Outcome} {view : ViewDescriptor} {values : FilterValues}
  {folder script : String}

theorem shows_table {rows : List Row} (none : outcome.pages = [])
    (printed : outcome.output =
      if rows.isEmpty then view.key.slug ++ " returned no results\n" else Table.render ⟨rows⟩) :
    outcome.Shows view values folder script (.table rows) := by
  cases rows with
  | nil => exact ⟨none, printed⟩
  | cons row rest => exact ⟨none, printed⟩

theorem shows_void {description : PlotDescription} (void : description.isEmpty)
    (none : outcome.pages = [])
    (printed : outcome.output = view.key.slug ++ " returned no results\n") :
    outcome.Shows view values folder script (.plot description) := by
  obtain ⟨value⟩ := description
  cases value with
  | null => exact ⟨none, printed⟩
  | array items =>
    obtain rfl := List.isEmpty_iff.mp void
    exact ⟨none, printed⟩
  | object members =>
    obtain rfl := List.isEmpty_iff.mp void
    exact ⟨none, printed⟩
  | bool b => cases void
  | number n => cases void
  | string s => cases void

theorem shows_visible {description : PlotDescription} (visible : ¬ description.isEmpty) :
    outcome.Shows view values folder script (.plot description) ↔
      ∃ spec, view.fetch = .plot spec ∧
        let plot : PlotResult := ⟨.ofValues spec values, description⟩
        let path := PlotPage.path folder plot.surface
        outcome.pages = [(path, PlotPage.render plot script)] ∧ outcome.output = path ++ "\n" := by
  obtain ⟨value⟩ := description
  cases value with
  | null => exact (visible rfl).elim
  | array items =>
    cases items with
    | nil => exact (visible rfl).elim
    | cons item rest => rfl
  | object members =>
    cases members with
    | nil => exact (visible rfl).elim
    | cons member rest => rfl
  | bool b => rfl
  | number n => rfl
  | string s => rfl

end

section

variable {around : Surroundings} {args : List String} {arguments : Arguments} {config : Config}
  {timeout : Duration} {client : Client} {plots : PlotFolder} {scenario : ScenarioId}
  {view : ViewDescriptor}

theorem Accepted.listed
    (accepted : Accepted around args arguments config timeout client scenario view) :
    view ∈ Catalog.standard.views := by
  obtain ⟨slug, -, resolved⟩ := Option.map_eq_some_iff.mp accepted.shown
  exact Catalog.mem_of_resolve (Catalog.resolve_of_resolveSlug resolved)

theorem Accepted.serves
    (accepted : Accepted around args arguments config timeout client scenario view) :
    run around args = (serve around arguments ⟨config, timeout, client, some scenario⟩).outcome := by
  have ready :=
    setup_scenario accepted.loaded accepted.timed accepted.reached accepted.named
  have silent : printed? arguments = none := by
    simp [printed?, accepted.showsHelp, accepted.printsConfigPath, accepted.printsTemplate,
      accepted.listsViews]
  simp only [run, accepted.read, perform, silent, ready, accepted.checksOnly, if_false,
    Bool.false_eq_true]

/-- The warning of options that could not be had. -/
def optionsWarning (client : Client) (scenario : ScenarioId) : List Warning :=
  ((untold? client scenario).map (.optionsUnavailable scenario)).toList

/-- What a run leaves behind is what it reports of its view. -/
theorem run_launched
    (accepted : Accepted around args arguments config timeout client scenario view)
    (placed : plotFolder around config = .ok plots) :
    ∃ page : RunPage,
      Launched page (client.options scenario).2 plots scenario view arguments.filters ∧
      let shown := awaitReport page view.key timeout around.watch
      let warnings := optionsWarning client scenario ++ shown.told.filterMap Warning.ofEvent?
      run around args = Ended.outcome
        { result := shown.result, logged := around.logger config.logFilter warnings
          network := shown.page.backend.inner.network, pages := shown.page.embedder.pages } := by
  obtain ⟨slug, said, resolved⟩ := Option.map_eq_some_iff.mp accepted.shown
  obtain ⟨page, launched, shows⟩ := showView_launched scenario client plots timeout around.watch
    resolved accepted.takes
  obtain ⟨options, entered⟩ := enter_eq scenario client plots
  have told : Warning.ofPage? (.enter scenario .standard ⟨client, []⟩ plots) =
      (untold? client scenario).map (.optionsUnavailable scenario) := by
    rw [entered]
    rfl
  refine ⟨page, launched, ?_⟩
  rw [accepted.serves]
  simp only [serve, placed, said, shows, told]
  rfl

/-- What a run leaves behind, once it has its answer in time, is what the page reports of it. -/
theorem run_reported
    (accepted : Accepted around args arguments config timeout client scenario view)
    (placed : plotFolder around config = .ok plots)
    {deadline : Instant}
    (ends : around.watch.start.after? (timeout.plus Page.grace) = some deadline)
    (early : around.watch.arrival.nanoseconds < deadline.nanoseconds) :
    ∃ page : RunPage,
      Launched page (client.options scenario).2 plots scenario view arguments.filters ∧
      let answered := answer page scenario view arguments.filters around.watch.now
      let warnings := optionsWarning client scenario
      let logged := around.logger config.logFilter
      let outcome := run around args
      outcome.pages = answered.2.embedder.pages ∧
        (∀ text, Warning.ofEvent? answered.1 = none → answered.2.report view.key = .ok text →
          outcome.exitCode = 0 ∧ outcome.output = text ∧ outcome.complaint = logged warnings) ∧
        ∀ warning error, Warning.ofEvent? answered.1 = some warning →
          answered.2.report view.key = .error (.view error) →
          outcome.exitCode = 1 ∧ outcome.output = "" ∧
            outcome.complaint = logged (warnings ++ [warning]) ++ error.message ++ "\n" := by
  obtain ⟨page, launched, whole⟩ := run_launched accepted placed
  refine ⟨page, launched, ?_⟩
  rw [launched.report_inTime ends early] at whole
  dsimp only at whole ⊢
  rw [whole]
  generalize answer page scenario view arguments.filters around.watch.now = answered
  refine ⟨?_, ?_, ?_⟩
  · cases answered.2.report view.key <;> rfl
  · intro text silent report
    simp only [List.filterMap_cons, silent, report, List.filterMap_nil, List.append_nil]
    exact ⟨rfl, rfl, rfl⟩
  · intro warning error told report
    simp only [List.filterMap_cons, told, report, List.filterMap_nil]
    exact ⟨rfl, rfl, rfl⟩

/-- The pages that a run writes for its view can be written. -/
def Writable (plots : PlotFolder) (view : ViewDescriptor) (values : FilterValues) : Prop :=
  ∀ spec description, view.fetch = .plot spec →
    (plots.write ⟨.ofValues spec values, description⟩).1 = .ok ()

section

variable {deadline : Instant}

theorem run_of_heard
    (accepted : Accepted around args arguments config timeout client scenario view)
    (placed : plotFolder around config = .ok plots)
    (writable : Writable plots view (view.valuesGiven arguments.filters))
    (ends : around.watch.start.after? (timeout.plus Page.grace) = some deadline)
    (early : around.watch.arrival.nanoseconds < deadline.nanoseconds) {content : ViewContent}
    (heard : (client.options scenario).2.hear (viewRequest scenario view arguments.filters) =
      .ok content) :
    (run around args).exitCode = 0 ∧
      (run around args).complaint =
        around.logger config.logFilter (optionsWarning client scenario) ∧
      (run around args).Shows view (view.valuesGiven arguments.filters) plots.folder config.script
        content := by
  obtain ⟨page, launched, pages, printed, -⟩ := run_reported accepted placed ends early
  obtain ⟨-, script, empty⟩ := of_plotFolder placed
  cases content with
  | table rows =>
    obtain ⟨told, report, embedder⟩ := launched.of_table accepted.listed heard around.watch.now
    rw [embedder, empty] at pages
    rw [noResults_line] at report
    obtain ⟨exitCode, output, complaint⟩ := printed _ (by rw [told]; split <;> rfl) report
    exact ⟨exitCode, complaint, shows_table pages output⟩
  | plot description =>
    obtain ⟨spec, plot⟩ := exists_spec_of_heard heard
    by_cases void : description.isEmpty
    · obtain ⟨told, report, embedder⟩ := launched.of_void plot heard void around.watch.now
      rw [embedder, empty] at pages
      rw [noResults_line] at report
      obtain ⟨exitCode, output, complaint⟩ := printed _ (by rw [told]; rfl) report
      exact ⟨exitCode, complaint, shows_void void pages output⟩
    · have answer := writable spec description plot
      rcases writes : plots.write
        ⟨.ofValues spec (view.valuesGiven arguments.filters), description⟩ with ⟨written, next⟩
      rw [writes] at answer
      obtain rfl : written = .ok () := answer
      obtain ⟨told, report, embedder⟩ :=
        launched.of_drawn accepted.listed plot heard void writes around.watch.now
      rw [embedder, PlotFolder.write_eq writes, empty, script] at pages
      obtain ⟨exitCode, output, complaint⟩ := printed _ (by rw [told]; rfl) report
      exact ⟨exitCode, complaint, (shows_visible void).mpr ⟨spec, plot, pages, output⟩⟩

theorem run_of_error
    (accepted : Accepted around args arguments config timeout client scenario view)
    (placed : plotFolder around config = .ok plots)
    (ends : around.watch.start.after? (timeout.plus Page.grace) = some deadline)
    (early : around.watch.arrival.nanoseconds < deadline.nanoseconds) {error : ClientError}
    (heard : (client.options scenario).2.hear (viewRequest scenario view arguments.filters) =
      .error error) :
    (run around args).exitCode = 1 ∧ (run around args).output = "" ∧
      (run around args).pages = [] ∧
      (run around args).complaint =
        around.logger config.logFilter
          (optionsWarning client scenario ++ [.fetchFailed view.key error.fault.message]) ++
        ("fetch for " ++ view.key.slug ++ " failed: " ++ error.fault.message) ++ "\n" := by
  obtain ⟨page, launched, pages, -, failed⟩ := run_reported accepted placed ends early
  obtain ⟨-, -, empty⟩ := of_plotFolder placed
  obtain ⟨told, report, embedder⟩ := launched.of_error heard around.watch.now
  rw [embedder, empty] at pages
  obtain ⟨exitCode, output, complaint⟩ := failed _ _ (by rw [told]; rfl) report
  exact ⟨exitCode, output, pages, complaint⟩

theorem run_of_late
    (accepted : Accepted around args arguments config timeout client scenario view)
    (placed : plotFolder around config = .ok plots)
    (ends : around.watch.start.after? (timeout.plus Page.grace) = some deadline)
    (late : deadline.nanoseconds ≤ around.watch.arrival.nanoseconds) :
    (run around args).exitCode = 1 ∧ (run around args).output = "" ∧
      (run around args).pages = [] ∧
      (run around args).complaint =
        around.logger config.logFilter (optionsWarning client scenario) ++
        (view.key.slug ++ " did not complete within " ++ (timeout.plus Page.grace).display ++
          " -- raise [server] timeout") ++ "\n" := by
  obtain ⟨page, launched, whole⟩ := run_launched accepted placed
  obtain ⟨-, -, empty⟩ := of_plotFolder placed
  have kept : page.gather.embedder.pages = [] := by
    rw [← empty, ← launched.embedder]
    rfl
  rw [launched.report_late ends late] at whole
  simp only [List.filterMap_nil, List.append_nil, kept] at whole
  rw [whole]
  exact ⟨rfl, rfl, rfl, rfl⟩

/-- A timeout at whose end the clock stops ends the run before its view can be awaited. -/
theorem run_of_noDeadline
    (accepted : Accepted around args arguments config timeout client scenario view)
    (placed : plotFolder around config = .ok plots)
    (endless : around.watch.start.after? (timeout.plus Page.grace) = none) :
    (run around args).exitCode = 101 := by
  obtain ⟨page, -, whole⟩ := run_launched accepted placed
  have crash : (awaitReport page view.key timeout around.watch).result =
      .error (.report .noDeadline) := by
    simp only [awaitReport, Page.await, endless]
  simp only [crash] at whole
  rw [whole]
  rfl

theorem run_of_unplaced
    (accepted : Accepted around args arguments config timeout client scenario view)
    {error : RunError} (unplaced : plotFolder around config = .error error) :
    (run around args).exitCode = error.exitCode := by
  rw [accepted.serves]
  simp only [serve, unplaced]
  rfl

/-- A run that shows a view succeeds if and only if the reply to its request comes before the deadline
and is a success that can be read as what the view shows. If it fails it prints and writes nothing. It
says why the client failed, or that the view was late, after what is in the log. Nothing is said of a
timeout at whose end the clock stops. -/
theorem run_view
    (accepted : Accepted around args arguments config timeout client scenario view)
    (placed : plotFolder around config = .ok plots)
    (writable : Writable plots view (view.valuesGiven arguments.filters))
    (ends : around.watch.start.after? (timeout.plus Page.grace) = some deadline) :
    let asked := (client.options scenario).2
    let request := viewRequest scenario view arguments.filters
    let reply := asked.replyTo? (asked.address request)
    let logged := around.logger config.logFilter
    let warnings := optionsWarning client scenario
    let outcome := run around args
    (around.watch.arrival.nanoseconds < deadline.nanoseconds →
      (outcome.exitCode = 0 ↔ ∃ content, reply.bind (Reply.content? view.kind) = some content) ∧
      (outcome.exitCode ≠ 0 → outcome.exitCode = 1 ∧ outcome.output = "" ∧ outcome.pages = [] ∧
        ∃ error, asked.hear request = .error error ∧ outcome.complaint =
          logged (warnings ++ [.fetchFailed view.key error.fault.message]) ++
            ("fetch for " ++ view.key.slug ++ " failed: " ++ error.fault.message) ++ "\n") ∧
      ∀ content, reply.bind (Reply.content? view.kind) = some content →
        outcome.complaint = logged warnings ∧
          outcome.Shows view (view.valuesGiven arguments.filters) plots.folder config.script
            content) ∧
    (deadline.nanoseconds ≤ around.watch.arrival.nanoseconds →
      outcome.exitCode = 1 ∧ outcome.output = "" ∧ outcome.pages = [] ∧
        outcome.complaint = logged warnings ++
          (view.key.slug ++ " did not complete within " ++ (timeout.plus Page.grace).display ++
            " -- raise [server] timeout") ++ "\n") := by
  intro asked request reply logged warnings outcome
  refine ⟨fun early => ?_, run_of_late accepted placed ends⟩
  have said : (asked.hear request).toOption = reply.bind (Reply.content? view.kind) := by
    rw [Client.toOption_hear, viewRequest_kind]
  rw [← said]
  cases heard : asked.hear request with
  | error error =>
    obtain ⟨exitCode, output, pages, complaint⟩ := run_of_error accepted placed ends early heard
    have code : outcome.exitCode = 1 := exitCode
    refine ⟨?_, fun _ => ⟨code, output, pages, error, rfl, complaint⟩, ?_⟩
    · simp [code, Except.toOption]
    · simp [Except.toOption]
  | ok content =>
    obtain ⟨exitCode, complaint, shows⟩ := run_of_heard accepted placed writable ends early heard
    refine ⟨⟨fun _ => ⟨content, rfl⟩, fun _ => exitCode⟩, fun failed => (failed exitCode).elim, ?_⟩
    intro other same
    obtain rfl := Option.some.inj same
    exact ⟨complaint, shows⟩

end

end

/-! ### Runs beside a server on the same machine -/

open Client (loopback)

def loopbackConfig (timeout : String) : Config :=
  { baseUrl? := some "http://[::1]", timeout? := some timeout }

def besideServer (timeout : String) (replies : List Reply) : Surroundings :=
  { configPath? := some "c.toml", dataHome := some "data"
    fileAt := fun path =>
      if path = "c.toml" then
        .file ("version = 1\n[server]\nbase_url = \"http://[::1]\"\ntimeout = \"" ++ timeout ++ "\"")
      else .nothing
    network := { replies } }

section

variable {base : Url} {zone : String}

def totalCapacity : ViewDescriptor :=
  Catalog.plot .capacityTotalPlot "Total Capacity Plot" "capacityTotalPlot" Catalog.capacityFilters

theorem isOk_read_loadZone (raw : String) : (Filter.loadZone.read raw).isOk := by
  simp only [Filter.read]
  split <;> rfl

theorem viewUrl_of_zone (read : Filter.loadZone.read zone = .ok (some (.text zone)))
    (scenario : ScenarioId) : viewUrl base scenario totalCapacity [(.loadZone, zone)] =
      Client.plotUrl base scenario .capacityTotalPlot
        ([] ++ [some (.text zone), some .unsetMaximum]) := by
  have given : Filter.loadZone.given [(.loadZone, zone)] = some (.text zone) := by
    show (some (Filter.loadZone.read zone).toOption.join).join = some (.text zone)
    rw [read]
    rfl
  have values : totalCapacity.valuesGiven [(.loadZone, zone)] =
      [(.loadZone, some (.text zone)), (.yAxisMax, none)] := by
    show [(Filter.loadZone, Filter.loadZone.given [(.loadZone, zone)]), (Filter.yAxisMax, none)] = _
    rw [given]
  have plan : totalCapacity.plotSpec? = some ⟨"capacityTotalPlot", Catalog.capacityFilters⟩ := rfl
  simp only [viewUrl, ViewDescriptor.planGiven, plan, values, Option.map_some, List.map_cons,
    List.map_nil, ParameterForm.argument, List.nil_append]
  rfl

theorem not_isAskable_of_zone (segmented : base.hasSegments) (scenario : ScenarioId)
    (solid : ∀ c ∈ zone.toList, Text.isBlank c = false) (long : Client.maxAsked < zone.length) :
    ¬ Client.isAskable (Client.asked
      (viewUrl base scenario totalCapacity [(.loadZone, zone)])) := by
  have read : Filter.loadZone.read zone = .ok (some (.text zone)) := by
    have filled : zone.isEmpty = false := by
      refine String.isEmpty_eq_false_iff.mpr ?_
      rintro rfl
      exact absurd long (by decide)
    simp only [Filter.read, Text.trim_of_solid solid, filled, Bool.false_eq_true, if_false]
  have counted : Url.counted zone.toList = zone.toList := by
    refine List.filter_eq_self.mpr fun c member => ?_
    have ignored : Url.isIgnored c = false := by
      refine Bool.eq_false_iff.mpr fun ignored => ?_
      simp only [Url.isIgnored, Bool.or_eq_true, beq_iff_eq] at ignored
      have blank := solid c member
      rcases ignored with (rfl | rfl) | rfl <;> cases blank
    simp [ignored]
  rw [viewUrl_of_zone read]
  refine Client.not_isAskable_plotUrl segmented ?_ scenario .capacityTotalPlot []
  rw [counted, String.length_toList]
  exact long

def zoneArguments (zone : String) : Arguments :=
  { configPath := "c.toml", scenario? := some "42", view? := some "results-capacity-total-plot"
    filters := [(.loadZone, zone)] }

def zoneArgs (zone : String) : List String :=
  ["--scenario", "42", "--view", "results-capacity-total-plot", "--load-zone", zone]

end

theorem accepted_loopback {around : Surroundings} {args : List String} {arguments : Arguments}
    {timeout : String} {span : Duration} {view : ViewDescriptor}
    (read : around.arguments args = .ok arguments)
    (loaded : Config.load arguments.configPath (around.fileAt arguments.configPath) =
      .ok (loopbackConfig timeout))
    (timed : Duration.read timeout = .ok span) (silent : ¬ arguments.Prints)
    (checksOnly : arguments.checksOnly = false) (named : arguments.scenario? = some "42")
    (shown : arguments.view?.map Catalog.standard.resolveSlug = some (.ok view))
    (takes : view.Takes arguments.filters) :
    Accepted around args arguments (loopbackConfig timeout) span
      { base := loopback, network := around.network, decoder := around.decoder } ⟨42⟩ view := by
  have base : (loopbackConfig timeout).baseUrl = "http://[::1]" := by
    have same : (loopbackConfig timeout).baseUrl = Text.dropTrailingSlashes "http://[::1]" := rfl
    rw [same]
    decide
  simp only [Arguments.Prints, not_or, Bool.not_eq_true] at silent
  obtain ⟨showsHelp, printsConfigPath, printsTemplate, listsViews⟩ := silent
  exact
    { read, showsHelp, printsConfigPath, printsTemplate, listsViews, checksOnly, loaded, timed
      reached := by rw [base, Client.ofText_loopback]
      named := by rw [named]; rfl
      shown, takes }

/-- A plot of which one filter is given, unset and given again, from a server without options. -/
theorem run_view_drawn :
    let body := "\x7b\"plotJSON\":\x7b\"a\":\"b\"\x7d\x7d"
    let around := besideServer "10s" [.closed, .answer 200 body]
    let args := ["--scenario", "42", "--view", "results-cost-plot", "--load-zone", "A",
      "--stage", "1", "--load-zone", " "]
    let outcome := run around args
    let path := PlotPage.path "data/gpresults/plots" ⟨"costPlot-~-1"⟩
    ∃ description, outcome.exitCode = 0 ∧ outcome.output = path ++ "\n" ∧
      outcome.pages =
        [(path, PlotPage.render ⟨⟨"costPlot-~-1"⟩, description⟩ Config.defaultScript)] := by
  intro body around args outcome path
  let view := Catalog.plot .costPlot "Cost Plot" "costPlot" Catalog.stagedFilters
  let arguments : Arguments :=
    { configPath := "c.toml", scenario? := some "42", view? := some "results-cost-plot"
      filters := [(.loadZone, "A"), (.stage, "1"), (.loadZone, " ")] }
  let client : Client := { base := loopback, network := around.network }
  let plots : PlotFolder := { folder := "data/gpresults/plots", script := Config.defaultScript }
  have accepted : Accepted around args arguments (loopbackConfig "10s") ⟨10000⟩ client ⟨42⟩ view :=
    accepted_loopback rfl (ok_of_toOption (by decide +kernel)) (ok_of_toOption (by decide))
      (by simp [Arguments.Prints, arguments]) rfl rfl rfl
      (by unfold ViewDescriptor.Takes; decide)
  have placed : plotFolder around (loopbackConfig "10s") = .ok plots :=
    ok_of_toOption (by decide +kernel)
  have surface : Surface.ofValues ⟨"costPlot", Catalog.stagedFilters⟩
      (view.valuesGiven arguments.filters) = ⟨"costPlot-~-1"⟩ := by decide
  have writable : Writable plots view (view.valuesGiven arguments.filters) := by
    intro spec description plot
    obtain rfl := FetchSpec.plot.inj plot
    rw [surface]
    have short : (PlotPage.fileName ⟨"costPlot-~-1"⟩).utf8ByteSize ≤ PlotFolder.maxFileName := by
      decide
    exact PlotFolder.write_ok rfl short
  have ends : around.watch.start.after? ((⟨10000⟩ : Duration).plus Page.grace) =
      some ⟨11000000000⟩ := by decide
  obtain ⟨inTime, -⟩ := run_view accepted placed writable ends
  obtain ⟨success, -, shows⟩ := inTime (by decide)
  have askable : Client.isAskable (Client.asked (Client.plotUrl loopback ⟨42⟩ .costPlot
      [none, some (.text "1"), some .unsetMaximum])) := by
    rw [Client.plotUrl_loopback]
    decide
  -- The options are asked for first. That connection is closed, and the page is left for the plot.
  have reply : (Client.options ⟨42⟩ client).2.replyTo?
      ((Client.options ⟨42⟩ client).2.address (viewRequest ⟨42⟩ view arguments.filters)) =
        some (.answer 200 body) := by
    rw [address_viewRequest, Client.options_base]
    exact Client.replyTo?_options rfl rfl Client.isAskable_loopback askable
  have content : (Reply.content? .plot (.answer 200 body)).any fun content =>
      match content with
      | .plot description => !description.isEmpty
      | .table _ => false := by decide +kernel
  rw [reply] at success shows
  obtain ⟨content, said, visible⟩ := (Option.any_eq_true _ _).mp content
  cases content with
  | table rows => cases visible
  | plot description =>
    have drawn : ¬ description.isEmpty := by simpa using visible
    obtain ⟨spec, plot, pages, output⟩ := (shows_visible drawn).mp (shows _ said).2
    obtain rfl := FetchSpec.plot.inj plot
    rw [surface] at pages output
    exact ⟨description, success.mpr ⟨_, said⟩, output, pages⟩

/-! ### Runs whose reply does not decide -/

def rpsArgs : List String := ["--scenario", "42", "--view", "results-system-rps"]

def rpsArguments : Arguments :=
  { configPath := "c.toml", scenario? := some "42", view? := some "results-system-rps" }

/-- A run that is to show a table of the scenario, beside a server on the same machine. -/
abbrev AcceptedRps (around : Surroundings) (timeout : String) (span : Duration) : Prop :=
  Accepted around rpsArgs rpsArguments (loopbackConfig timeout) span
    { base := loopback, network := around.network, decoder := around.decoder } ⟨42⟩
    (Catalog.table .systemRps "System RPS")

theorem acceptedRps {around : Surroundings} {timeout : String} {span : Duration}
    (read : around.arguments rpsArgs = .ok rpsArguments)
    (loaded : Config.load "c.toml" (around.fileAt "c.toml") = .ok (loopbackConfig timeout))
    (timed : Duration.read timeout = .ok span) : AcceptedRps around timeout span :=
  accepted_loopback read loaded timed (by simp [Arguments.Prints, rpsArguments]) rfl rfl rfl
    (by unfold ViewDescriptor.Takes; decide)

theorem load_tenSeconds : Config.load "c.toml" ((besideServer "10s" []).fileAt "c.toml") =
    .ok (loopbackConfig "10s") :=
  ok_of_toOption (by decide +kernel)

theorem read_tenSeconds : Duration.read "10s" = .ok ⟨10000⟩ := ok_of_toOption (by decide)

/-- A timeout of which the clock can tell how long it is, but no time after it. -/
theorem accepted_endless (replies : List Reply) :
    AcceptedRps (besideServer "9223372036854775807s" replies) "9223372036854775807s"
      ⟨9223372036854775807000⟩ := by
  have loaded : Config.load "c.toml" ((besideServer "9223372036854775807s" []).fileAt "c.toml") =
      .ok (loopbackConfig "9223372036854775807s") := ok_of_toOption (by decide +kernel)
  exact acceptedRps rfl loaded (ok_of_toOption (by decide))

theorem after?_tenSeconds :
    (⟨0⟩ : Instant).after? ((⟨10000⟩ : Duration).plus Page.grace) = some ⟨11000000000⟩ := by
  decide

theorem exists_plotFolder {around : Surroundings} {home : String} (known : around.dataHome = some home)
    (timeout : String) : ∃ plots, plotFolder around (loopbackConfig timeout) = .ok plots := by
  simp [plotFolder, Config.plotFolder, loopbackConfig, known]

theorem accepted_zone (replies : List Reply) (zone : String) :
    Accepted (besideServer "10s" replies) (zoneArgs zone) (zoneArguments zone)
      (loopbackConfig "10s") ⟨10000⟩ { base := loopback, network := { replies } } ⟨42⟩
      totalCapacity := by
  refine accepted_loopback rfl load_tenSeconds read_tenSeconds
    (by simp [Arguments.Prints, zoneArguments]) rfl rfl rfl ?_
  intro pair member
  obtain rfl := List.mem_singleton.mp member
  have listed : Filter.loadZone ∈ Catalog.capacityFilters := by decide
  exact ⟨listed, isOk_read_loadZone zone⟩

/-- A view is not shown, whatever the reply would be, if its zone is too long to be asked for. -/
theorem run_of_long_zone {zone : String} (replies : List Reply)
    (solid : ∀ c ∈ zone.toList, Text.isBlank c = false) (long : Client.maxAsked < zone.length) :
    (run (besideServer "10s" replies) (zoneArgs zone)).exitCode = 1 := by
  obtain ⟨plots, placed⟩ := @exists_plotFolder (besideServer "10s" replies) _ rfl "10s"
  let client : Client := { base := loopback, network := { replies } }
  let request := viewRequest ⟨42⟩ totalCapacity [(.loadZone, zone)]
  have unasked : ((Client.options ⟨42⟩ client).2.replyTo?
      ((Client.options ⟨42⟩ client).2.address request)).bind (Reply.content? request.kind) = none := by
    rw [address_viewRequest, Client.options_base, Client.replyTo?,
      if_neg (not_isAskable_of_zone rfl ⟨42⟩ solid long)]
    rfl
  obtain ⟨error, heard⟩ := Client.exists_error_of_hear unasked
  have early : (0 : Int) < 11000000000 := by decide
  exact (run_of_error (accepted_zone replies zone) placed after?_tenSeconds early heard).1

def longZone : String := String.ofList (List.replicate 65536 'a')

theorem longZone_long :
    (∀ c ∈ longZone.toList, Text.isBlank c = false) ∧ Client.maxAsked < longZone.length := by
  unfold longZone
  constructor
  · intro c member
    rw [String.toList_ofList] at member
    rw [List.eq_of_mem_replicate member]
    decide
  · rw [String.length_ofList, List.length_replicate]
    decide

/-- The complaint of a run whose connection is closed before the table comes. -/
theorem run_of_closed {around : Surroundings} {plots : PlotFolder} {reply : Reply}
    (accepted : AcceptedRps around "10s" ⟨10000⟩)
    (placed : plotFolder around (loopbackConfig "10s") = .ok plots) (watch : around.watch = {})
    (replies : around.network.replies = [reply, .closed])
    (reachable : around.network.reachable) :
    let client : Client :=
      { base := loopback, network := around.network, decoder := around.decoder }
    ∃ error : ClientError, (run around rpsArgs).exitCode = 1 ∧
      (run around rpsArgs).complaint =
        around.logger (loopbackConfig "10s").logFilter
          (optionsWarning client ⟨42⟩ ++ [.fetchFailed .systemRps error.fault.message]) ++
        ("fetch for results-system-rps failed: " ++ error.fault.message) ++ "\n" := by
  intro client
  let request := viewRequest ⟨42⟩ (Catalog.table .systemRps "System RPS") []
  have url : viewUrl loopback ⟨42⟩ (Catalog.table .systemRps "System RPS") [] =
      Client.tableUrl loopback ⟨42⟩ .systemRps := rfl
  have closed : (Client.options ⟨42⟩ client).2.replyTo?
      ((Client.options ⟨42⟩ client).2.address request) = some .closed := by
    rw [address_viewRequest, Client.options_base]
    refine Client.replyTo?_options replies reachable Client.isAskable_loopback ?_
    rw [url, Client.tableUrl_loopback]
    decide
  have unread : ((Client.options ⟨42⟩ client).2.replyTo?
      ((Client.options ⟨42⟩ client).2.address request)).bind (Reply.content? request.kind) =
        none := by
    rw [closed]
    rfl
  obtain ⟨error, heard⟩ := Client.exists_error_of_hear unread
  have ends : around.watch.start.after? ((⟨10000⟩ : Duration).plus Page.grace) =
      some ⟨11000000000⟩ := by
    rw [watch]
    exact after?_tenSeconds
  have early : around.watch.arrival.nanoseconds < 11000000000 := by
    rw [watch]
    decide
  obtain ⟨exitCode, -, -, complaint⟩ := run_of_error accepted placed ends early heard
  exact ⟨error, exitCode, complaint⟩

/-- What a run leaves behind is not for the reply alone to decide. A server has one that can be read as
the view, but the URL may be too long to be asked for, the reply may come too late, there may be no folder
for plots, and the timeout may be more than the clock can tell. Where the view cannot be fetched the
complaint may come after other lines. -/
theorem run_view_otherwise :
    let empty : Reply := .answer 200 "\x7b\x7d"
    let beside := besideServer "10s" [empty, empty]
    let late : Surroundings := { beside with watch := { arrival := ⟨11000000000⟩ } }
    let unplaced : Surroundings := { beside with dataHome := none }
    let endless := besideServer "9223372036854775807s" [empty, empty]
    let logging : Surroundings :=
      { besideServer "10s" [empty, .closed] with
        logger := fun _ warnings => if warnings.isEmpty then "" else "WARN\n" }
    (∀ kind, (Reply.content? kind empty).isSome) ∧
      (Accepted beside (zoneArgs longZone) (zoneArguments longZone) (loopbackConfig "10s") ⟨10000⟩
          { base := loopback, network := beside.network } ⟨42⟩ totalCapacity ∧
        (run beside (zoneArgs longZone)).exitCode = 1) ∧
      (AcceptedRps late "10s" ⟨10000⟩ ∧ (run late rpsArgs).exitCode = 1) ∧
      (AcceptedRps unplaced "10s" ⟨10000⟩ ∧ (run unplaced rpsArgs).exitCode = 1) ∧
      (AcceptedRps endless "9223372036854775807s" ⟨9223372036854775807000⟩ ∧
        (run endless rpsArgs).exitCode = 101) ∧
      AcceptedRps logging "10s" ⟨10000⟩ ∧ ∃ error : ClientError,
        (run logging rpsArgs).exitCode = 1 ∧ (run logging rpsArgs).complaint =
          "WARN\n" ++ ("fetch for results-system-rps failed: " ++ error.fault.message) ++ "\n" := by
  intro empty beside late unplaced endless logging
  have lateAccepted : AcceptedRps late "10s" ⟨10000⟩ :=
    acceptedRps rfl load_tenSeconds read_tenSeconds
  have unplacedAccepted : AcceptedRps unplaced "10s" ⟨10000⟩ :=
    acceptedRps rfl load_tenSeconds read_tenSeconds
  have endlessAccepted := accepted_endless [empty, empty]
  have loggingAccepted : AcceptedRps logging "10s" ⟨10000⟩ :=
    acceptedRps rfl load_tenSeconds read_tenSeconds
  refine ⟨?read, ⟨accepted_zone _ longZone, ?long⟩, ⟨lateAccepted, ?late⟩, ⟨unplacedAccepted, ?unplaced⟩,
    ⟨endlessAccepted, ?endless⟩, loggingAccepted, ?logging⟩
  case read =>
    intro kind
    cases kind <;> decide
  case long => exact run_of_long_zone _ longZone_long.1 longZone_long.2
  case late =>
    obtain ⟨plots, placed⟩ := @exists_plotFolder late _ rfl "10s"
    exact (run_of_late lateAccepted placed after?_tenSeconds (by decide)).1
  case unplaced =>
    have none : plotFolder unplaced (loopbackConfig "10s") = .error .noPlotFolder := rfl
    exact run_of_unplaced unplacedAccepted none
  case endless =>
    obtain ⟨plots, placed⟩ := @exists_plotFolder endless _ rfl "9223372036854775807s"
    exact run_of_noDeadline endlessAccepted placed (by decide)
  case logging =>
    obtain ⟨plots, placed⟩ := @exists_plotFolder logging _ rfl "10s"
    obtain ⟨error, exitCode, complaint⟩ := run_of_closed loggingAccepted placed rfl rfl rfl
    have wrote (warnings : List Warning) (warning : Warning) :
        logging.logger (loopbackConfig "10s").logFilter (warnings ++ [warning]) = "WARN\n" := by
      simp [logging]
    rw [wrote] at complaint
    exact ⟨error, exitCode, complaint⟩

end CommandLine

end ScenarioResults
