import ScenarioResults.Proofs.Client.Asking
import ScenarioResults.Proofs.CommandLine.View
import ScenarioResults.Proofs.Form.Shape
import ScenarioResults.Proofs.Text.Trim

/-!
# What a run asks the server for

A run that has read its arguments and its configuration, and that has a scenario and a folder for its
plots, asks for the options of the scenario. Then it asks for one view or for nothing more: its
arguments decide which, unless its wait crashes first. Any other run asks for nothing
(`run_requests`).
-/

namespace ScenarioResults

/-! ### Filters that were all taken -/

namespace ParameterForms

theorem filters_of_form {forms : ParameterForms} {view : ViewDescriptor} {form : ParameterForm}
    (shape : forms.shape = (ofCatalog .standard).shape) (listed : view ∈ Catalog.standard.views)
    (found : forms.form view.key = .ok form) : form.spec.filters = view.filters := by
  have only : ∀ view ∈ Catalog.standard.views,
      ((Catalog.standard.plots.reverse.find? fun plot => plot.1.key = view.key).map
        fun plot => plot.2.filters).getD [] = view.filters := by
    decide
  have own := congrFun shape view.key
  rw [shape_ofCatalog, ParameterForms.shape, form_ok found] at own
  obtain ⟨plot, first, same⟩ := Option.map_eq_some_iff.mp own.symm
  rw [← only view listed, first, ← (Prod.mk.inj same).2]
  rfl

end ParameterForms

/-- A wait lets the fetch under way put its question if it has a deadline, and also if it crashes once
the question has been put. -/
def Watch.lets (watch : Watch) (timeout : Duration) : Bool :=
  (watch.start.after? (timeout.plus Page.grace)).isSome || watch.overtaken

namespace CommandLine

open Client (loopback)

variable {view : ViewDescriptor} {texts : List (Filter × String)}

/-- Filters are only all set if the view takes each of them. -/
theorem takes_of_setFilters {page next : RunPage} (hidden : page.selection.current = none)
    (shape : page.forms.shape = (ParameterForms.ofCatalog .standard).shape)
    (listed : view ∈ Catalog.standard.views) (set : setFilters view.key texts page = .ok next) :
    view.Takes texts := by
  induction texts generalizing page with
  | nil =>
    intro pair member
    cases member
  | cons pair rest ih =>
    obtain ⟨filter, raw⟩ := pair
    rw [setFilters] at set
    cases read : filter.read raw with
    | error error => simp [Page.setFilterRaw, read] at set
    | ok value =>
      cases wrote : page.forms.setFilter view.key filter value with
      | error error => simp [Page.setFilterRaw, read, Page.setFilter, wrote] at set
      | ok forms =>
        have first : page.setFilterRaw view.key filter raw =
            (.ok [.filterChanged view.key filter], { page with forms }) := by
          simp [Page.setFilterRaw, read, Page.setFilter, wrote, hidden]
        rw [first] at set
        obtain ⟨form, found, own, -⟩ := ParameterForms.exists_of_setFilter wrote
        rw [ParameterForms.filters_of_form shape listed found] at own
        have still : ({ page with forms } : RunPage).selection.current = none := hidden
        have same : ({ page with forms } : RunPage).forms.shape =
            (ParameterForms.ofCatalog .standard).shape :=
          (ParameterForms.shape_setFilter wrote).trans shape
        have others : view.Takes rest := ih still same set
        intro pair member
        rcases List.mem_cons.mp member with rfl | later
        · exact ⟨own, by simp [read, Except.isOk, Except.toBool]⟩
        · exact others pair later

/-! ### What showing a view asks for -/

section

variable {page : RunPage} {client : Client} {plots : PlotFolder} {scenario : ScenarioId}

theorem Launched.inner_gather (launched : Launched page client plots scenario view texts) :
    page.gather.backend.inner = ((viewRequest scenario view texts).execute client).2 := by
  rw [launched.gather_inner, launched.inner]

theorem Launched.inner_answer (launched : Launched page client plots scenario view texts)
    (now : Instant) : (answer page scenario view texts now).2.backend.inner =
      ((viewRequest scenario view texts).execute client).2 := by
  have landed := (Page.applyEvent_of_lands launched.lands now).backend
  rw [answer, Page.answered, landed, Page.arrived, launched.inner]

theorem Launched.inner_awaitReport (launched : Launched page client plots scenario view texts)
    (timeout : Duration) (watch : Watch) :
    (awaitReport page view.key timeout watch).page.backend.inner =
      if watch.lets timeout then ((viewRequest scenario view texts).execute client).2
      else client := by
  cases ends : watch.start.after? (timeout.plus Page.grace) with
  | none =>
    have crash : (awaitReport page view.key timeout watch).page =
        if watch.overtaken then page.gather else page := by
      simp only [awaitReport, Page.await, ends]
    rw [crash, Watch.lets, ends, Option.isSome_none, Bool.false_or]
    split
    next => exact launched.inner_gather
    next => exact launched.inner
  | some deadline =>
    rw [Watch.lets, ends, Option.isSome_some, Bool.true_or, if_pos rfl]
    rcases Int.lt_or_le watch.arrival.nanoseconds deadline.nanoseconds with early | late
    · rw [launched.report_inTime ends early]
      exact launched.inner_answer watch.now
    · rw [launched.report_late ends late]
      exact launched.inner_gather

theorem Launched.asks (launched : Launched page client plots scenario view texts)
    (timeout : Duration) (watch : Watch) :
    client.Asks (if watch.lets timeout then [viewUrl client.base scenario view texts] else [])
      (awaitReport page view.key timeout watch).page.backend.inner := by
  rw [launched.inner_awaitReport]
  split
  next =>
    rw [← address_viewRequest]
    exact client.asks_execute _
  next => exact .refl client

end

/-- Entering the page takes one question. There is one more if a view is found that takes the
filters, and the wait for it lets it be put. -/
theorem showView_asks (scenario : ScenarioId) (client : Client) (plots : PlotFolder) (slug : String)
    (texts : List (Filter × String)) (timeout : Duration) (watch : Watch) :
    ∃ later? : Option Url,
      client.Asks (Client.optionsUrl client.base scenario :: later?.toList)
        (showView (.enter scenario .standard ⟨client, []⟩ plots) slug texts timeout
          watch).page.backend.inner ∧
      ∀ url, later? = some url ↔ ∃ view, Catalog.standard.resolveSlug slug = .ok view ∧
        view.Takes texts ∧ watch.lets timeout ∧ viewUrl client.base scenario view texts = url := by
  obtain ⟨options, entered⟩ := enter_eq scenario client plots
  have first := client.asks_options scenario
  cases resolved : Catalog.standard.resolveSlug slug with
  | error error =>
    refine ⟨none, ?_, by simp⟩
    rw [entered]
    simp only [showView, resolved]
    exact first
  | ok view =>
    by_cases takes : view.Takes texts
    · obtain ⟨page, launched, shown⟩ :=
        showView_launched scenario client plots timeout watch resolved takes
      have second := launched.asks timeout watch
      rw [first.base] at second
      rw [shown]
      cases lets : watch.lets timeout with
      | true =>
        rw [lets] at second
        refine ⟨some (viewUrl client.base scenario view texts), first.trans second, ?_⟩
        simp [takes]
      | false =>
        rw [lets] at second
        exact ⟨none, first.trans second, by simp⟩
    · refine ⟨none, ?_, by simp [takes]⟩
      rw [entered]
      have listed := Catalog.mem_of_resolve (Catalog.resolve_of_resolveSlug resolved)
      simp only [showView, resolved]
      split
      next => exact first
      next set => exact (takes (takes_of_setFilters rfl rfl listed set)).elim

/-! ### Runs that ask for something -/

/-- Why a run ends before it has asked for anything. -/
inductive Idle (around : Surroundings) (args : List String) : Prop where
  | homeless {error : RunError} (homeless : around.configPath = .error error)
  | misread {path : String} {error : ArgumentError} (found : around.configPath = .ok path)
      (misread : Arguments.read path args = .error error)
  | prints {arguments : Arguments} (read : around.arguments args = .ok arguments)
      (prints : arguments.Prints)
  | unloaded {arguments : Arguments} {error : ConfigError}
      (read : around.arguments args = .ok arguments)
      (unloaded : Config.load arguments.configPath (around.fileAt arguments.configPath) =
        .error error)
  | refused {arguments : Arguments} {config : Config} {error : ClientError}
      (read : around.arguments args = .ok arguments)
      (loaded : Config.load arguments.configPath (around.fileAt arguments.configPath) = .ok config)
      (refused : Client.base? config.baseUrl = .error error)
  | misnamed {arguments : Arguments} {error : ViewError}
      (read : around.arguments args = .ok arguments)
      (misnamed : arguments.scenario?.map ScenarioId.ofRoute = some (.error error))
  | unnamed {arguments : Arguments} (read : around.arguments args = .ok arguments)
      (unnamed : arguments.scenario? = none)
  | unplaced {arguments : Arguments} {config : Config} {error : RunError}
      (read : around.arguments args = .ok arguments)
      (loaded : Config.load arguments.configPath (around.fileAt arguments.configPath) = .ok config)
      (checksOnly : arguments.checksOnly = false)
      (unplaced : plotFolder around config = .error error)

/-- A run has what it needs to ask for something. -/
structure Begun (around : Surroundings) (args : List String) (arguments : Arguments)
    (config : Config) (timeout : Duration) (base : Url) (scenario : ScenarioId) : Prop where
  read : around.arguments args = .ok arguments
  silent : ¬ arguments.Prints
  loaded : Config.load arguments.configPath (around.fileAt arguments.configPath) = .ok config
  timed : config.timeout = .ok timeout
  reached : Client.base? config.baseUrl = .ok base
  named : arguments.scenario?.map ScenarioId.ofRoute = some (.ok scenario)
  placed : arguments.checksOnly = false → ∃ plots, plotFolder around config = .ok plots

theorem idle_of_unread {around : Surroundings} {args : List String} {error : RunError}
    (unread : around.arguments args = .error error) : Idle around args := by
  cases found : around.configPath with
  | error error => exact .homeless found
  | ok path =>
    cases read : Arguments.read path args with
    | error error => exact .misread found read
    | ok arguments =>
      simp [Surroundings.arguments, found, read, bind, Except.bind, mapError_ok] at unread

theorem configPath_of_read {around : Surroundings} {args : List String} {arguments : Arguments}
    (read : around.arguments args = .ok arguments) :
    ∃ path, around.configPath = .ok path ∧ Arguments.read path args = .ok arguments := by
  obtain ⟨path, found, read⟩ := ok_of_bind read
  exact ⟨path, found, ok_of_mapError read⟩

theorem exists_begun {around : Surroundings} {args : List String} (busy : ¬ Idle around args) :
    ∃ arguments config timeout base scenario,
      Begun around args arguments config timeout base scenario := by
  cases read : around.arguments args with
  | error error => exact (busy (idle_of_unread read)).elim
  | ok arguments =>
    have silent : ¬ arguments.Prints := fun prints => busy (.prints read prints)
    cases loaded : Config.load arguments.configPath (around.fileAt arguments.configPath) with
    | error error => exact (busy (.unloaded read loaded)).elim
    | ok config =>
      obtain ⟨timeout, timed⟩ := timeout_of_load loaded
      have placed : arguments.checksOnly = false → ∃ plots, plotFolder around config = .ok plots := by
        intro checksOnly
        cases folder : plotFolder around config with
        | error error => exact (busy (.unplaced read loaded checksOnly folder)).elim
        | ok plots => exact ⟨plots, rfl⟩
      cases reached : Client.base? config.baseUrl with
      | error error => exact (busy (.refused read loaded reached)).elim
      | ok base =>
        cases named : arguments.scenario?.map ScenarioId.ofRoute with
        | none => exact (busy (.unnamed read (Option.map_eq_none_iff.mp named))).elim
        | some answer =>
          cases answer with
          | error error => exact (busy (.misnamed read named)).elim
          | ok scenario =>
            exact ⟨arguments, config, timeout, base, scenario,
              read, silent, loaded, timed, reached, named, placed⟩

section

variable {around : Surroundings} {args : List String} {arguments : Arguments} {config : Config}
  {timeout : Duration} {base : Url} {scenario : ScenarioId}

theorem Begun.unique (begun : Begun around args arguments config timeout base scenario)
    {arguments' : Arguments} {config' : Config} {timeout' : Duration} {base' : Url}
    {scenario' : ScenarioId}
    (again : Begun around args arguments' config' timeout' base' scenario') :
    arguments = arguments' ∧ config = config' ∧ timeout = timeout' ∧ base = base' ∧
      scenario = scenario' := by
  obtain rfl := Except.ok.inj (begun.read.symm.trans again.read)
  obtain rfl := Except.ok.inj (begun.loaded.symm.trans again.loaded)
  obtain rfl := Except.ok.inj (begun.timed.symm.trans again.timed)
  obtain rfl := Except.ok.inj (begun.reached.symm.trans again.reached)
  obtain rfl := Except.ok.inj (Option.some.inj (begun.named.symm.trans again.named))
  exact ⟨rfl, rfl, rfl, rfl, rfl⟩

theorem Begun.busy (begun : Begun around args arguments config timeout base scenario) :
    ¬ Idle around args := by
  have read := begun.read
  have loaded := begun.loaded
  have reached := begun.reached
  have named := begun.named
  obtain ⟨path, found, parsed⟩ := configPath_of_read read
  rintro (homeless | ⟨refound, misread⟩ | ⟨reread, prints⟩ | ⟨reread, unloaded⟩ |
    ⟨reread, reloaded, refused⟩ | ⟨reread, misnamed⟩ | ⟨reread, unnamed⟩ |
    ⟨reread, reloaded, checksOnly, unplaced⟩)
  · simp [homeless] at found
  · obtain rfl := Except.ok.inj (found.symm.trans refound)
    simp [misread] at parsed
  · obtain rfl := Except.ok.inj (read.symm.trans reread)
    exact begun.silent prints
  · obtain rfl := Except.ok.inj (read.symm.trans reread)
    simp [unloaded] at loaded
  · obtain rfl := Except.ok.inj (read.symm.trans reread)
    obtain rfl := Except.ok.inj (loaded.symm.trans reloaded)
    simp [refused] at reached
  · obtain rfl := Except.ok.inj (read.symm.trans reread)
    simp [misnamed] at named
  · obtain rfl := Except.ok.inj (read.symm.trans reread)
    simp [unnamed] at named
  · obtain rfl := Except.ok.inj (read.symm.trans reread)
    obtain rfl := Except.ok.inj (loaded.symm.trans reloaded)
    obtain ⟨plots, placed⟩ := begun.placed checksOnly
    simp [unplaced] at placed

end

/-- The arguments ask for a view to be shown, and it takes the filters that they give. -/
structure Arguments.Shows (arguments : Arguments) (view : ViewDescriptor) : Prop where
  checksOnly : arguments.checksOnly = false
  shown : arguments.view?.map Catalog.standard.resolveSlug = some (.ok view)
  takes : view.Takes arguments.filters

section

variable {around : Surroundings} {args : List String} {arguments : Arguments} {config : Config}
  {timeout : Duration} {client : Client} {scenario : ScenarioId} {view : ViewDescriptor}

theorem Accepted.shows
    (accepted : Accepted around args arguments config timeout client scenario view) :
    arguments.Shows view :=
  ⟨accepted.checksOnly, accepted.shown, accepted.takes⟩

theorem Accepted.begun
    (accepted : Accepted around args arguments config timeout client scenario view)
    (placed : ∃ plots, plotFolder around config = .ok plots) :
    Begun around args arguments config timeout client.base scenario := by
  obtain ⟨base, based, rfl⟩ := Client.ofText_ok accepted.reached
  have silent : ¬ arguments.Prints := by
    simp [Arguments.Prints, accepted.showsHelp, accepted.printsConfigPath,
      accepted.printsTemplate, accepted.listsViews]
  exact
    { read := accepted.read, silent, loaded := accepted.loaded, timed := accepted.timed
      reached := based, named := accepted.named, placed := fun _ => placed }

end

/-! ### The whole run -/

section

variable {around : Surroundings} {args : List String} {arguments : Arguments} {config : Config}
  {timeout : Duration} {base : Url} {scenario : ScenarioId}

theorem outcome_network (ended : Ended) : ended.outcome.network = ended.network := by
  unfold Ended.outcome
  split <;> rfl

theorem run_read (read : around.arguments args = .ok arguments) :
    (run around args).network = (perform around arguments).network := by
  rw [run, read]
  exact outcome_network _

/-- Nothing is asked for without a scenario, and for anything but a check also without a folder for
plots. -/
theorem network_unasked
    (unasked : ∀ ready, setup around arguments = .ok ready → ready.scenario? = none ∨
      arguments.checksOnly = false ∧ ∃ error, plotFolder around ready.config = .error error) :
    (perform around arguments).network = around.network := by
  unfold perform
  split
  · rfl
  · split
    next => rfl
    next ready set =>
      obtain ⟨-, -, reached, -⟩ := of_setup set
      obtain ⟨base, -, client⟩ := Client.ofText_ok reached
      rcases unasked ready set with unnamed | ⟨checksOnly, error, unplaced⟩
      · split
        · rw [check, unnamed, client]
        · rw [serve, unnamed, client]
      · rw [checksOnly, if_neg Bool.false_ne_true, serve, unplaced]
        cases ready.scenario? <;> rw [client]

theorem perform_of_prints (prints : arguments.Prints) : ∃ text, ∀ around,
    perform around arguments = { result := .ok text, network := around.network } := by
  cases printed : printed? arguments with
  | none => exact (printed?_eq_none.mp printed prints).elim
  | some text =>
    refine ⟨text, fun around => ?_⟩
    rw [perform, printed]

theorem begun_of_setup {ready : Setup} (read : around.arguments args = .ok arguments)
    (silent : ¬ arguments.Prints) (set : setup around arguments = .ok ready)
    (known : ready.scenario? = some scenario)
    (placed : arguments.checksOnly = false → ∃ plots, plotFolder around ready.config = .ok plots) :
    Begun around args arguments ready.config ready.timeout ready.client.base scenario := by
  obtain ⟨loaded, timed, reached, named⟩ := of_setup set
  obtain ⟨base, based, client⟩ := Client.ofText_ok reached
  rw [known] at named
  refine ⟨read, silent, loaded, timed, ?_, named, placed⟩
  rw [based, client]

theorem run_of_idle (idle : Idle around args) : (run around args).network = around.network := by
  cases read : around.arguments args with
  | error error =>
    rw [run, read]
    rfl
  | ok arguments =>
    rw [run_read read]
    by_cases prints : arguments.Prints
    · obtain ⟨text, printed⟩ := perform_of_prints prints
      rw [printed]
    · refine network_unasked fun ready set => ?_
      cases known : ready.scenario? with
      | none => exact .inl rfl
      | some scenario =>
        refine .inr (Classical.byContradiction fun placed => ?_)
        refine (begun_of_setup read prints set known fun checksOnly => ?_).busy idle
        cases folder : plotFolder around ready.config with
        | ok plots => exact ⟨plots, rfl⟩
        | error error => exact (placed ⟨checksOnly, error, folder⟩).elim

theorem run_of_prints (read : around.arguments args = .ok arguments)
    (prints : arguments.Prints) (fileAt : String → FileEntry) :
    run { around with fileAt } args = run around args := by
  have again : ({ around with fileAt } : Surroundings).arguments args = .ok arguments := read
  obtain ⟨text, printed⟩ := perform_of_prints prints
  rw [run, run, again, read]
  simp only [printed]

theorem Begun.performed (begun : Begun around args arguments config timeout base scenario) :
    ∃ client : Client, client.base = base ∧ client.network = around.network ∧
      let ready : Setup := ⟨config, timeout, client, some scenario⟩
      perform around arguments =
        if arguments.checksOnly then check around ready else serve around arguments ready := by
  refine ⟨{ base, network := around.network, decoder := around.decoder }, rfl, rfl, ?_⟩
  have reached : Client.ofText config.baseUrl around.network around.decoder =
      .ok { base, network := around.network, decoder := around.decoder } := by
    rw [Client.ofText, begun.reached]
    rfl
  rw [perform, printed?_eq_none.mpr begun.silent,
    setup_scenario begun.loaded begun.timed reached begun.named]

/-- The questions of a run that is no check, once it has a folder for its plots. -/
theorem serve_asks (arguments : Arguments) {client : Client} {plots : PlotFolder}
    (placed : plotFolder around config = .ok plots) :
    ∃ later? : Option Url,
      (serve around arguments ⟨config, timeout, client, some scenario⟩).network.requests =
        client.network.requests ++ Client.sent client.network
          (Client.optionsUrl client.base scenario :: later?.toList) ∧
      ∀ url, later? = some url ↔ ∃ view,
        arguments.view?.map Catalog.standard.resolveSlug = some (.ok view) ∧
          view.Takes arguments.filters ∧ around.watch.lets timeout ∧
          viewUrl client.base scenario view arguments.filters = url := by
  cases said : arguments.view? with
  | none =>
    obtain ⟨options, entered⟩ := enter_eq scenario client plots
    refine ⟨none, ?_, by simp⟩
    simp only [serve, placed, said]
    rw [entered]
    exact (client.asks_options scenario).requests
  | some slug =>
    obtain ⟨later?, asks, leads⟩ :=
      showView_asks scenario client plots slug arguments.filters timeout around.watch
    refine ⟨later?, ?_, by simpa using leads⟩
    simp only [serve, placed, said]
    exact asks.requests

theorem Begun.asks (begun : Begun around args arguments config timeout base scenario) :
    ∃ later? : Option Url,
      (run around args).network.requests = around.network.requests ++
        Client.sent around.network (Client.optionsUrl base scenario :: later?.toList) ∧
      ∀ url, later? = some url ↔ ∃ view, arguments.Shows view ∧ around.watch.lets timeout ∧
        viewUrl base scenario view arguments.filters = url := by
  obtain ⟨client, rfl, network, performed⟩ := begun.performed
  rw [run_read begun.read, performed, ← network]
  by_cases checksOnly : arguments.checksOnly
  · refine ⟨none, ?_, fun url => ⟨nofun, ?_⟩⟩
    · rw [if_pos checksOnly]
      exact (client.asks_options scenario).requests
    · rintro ⟨view, shows, -⟩
      rw [shows.checksOnly] at checksOnly
      cases checksOnly
  · have serves : arguments.checksOnly = false := Bool.eq_false_iff.mpr checksOnly
    obtain ⟨plots, placed⟩ := begun.placed serves
    obtain ⟨later?, requests, leads⟩ := serve_asks arguments placed
    refine ⟨later?, ?_, fun url => (leads url).trans ⟨?_, ?_⟩⟩
    · rw [if_neg checksOnly]
      exact requests
    · rintro ⟨view, shown, takes, leads⟩
      exact ⟨view, ⟨serves, shown, takes⟩, leads⟩
    · rintro ⟨view, shows, leads⟩
      exact ⟨view, shows.shown, shows.takes, leads⟩

end

/-! ### Runs that ask once although they show a view -/

section

variable {arguments : Arguments} {view : ViewDescriptor} {zone : String}

theorem not_twice {asked : List String} {only : String} (once : asked = [only])
    (shows : arguments.Shows view) :
    ¬ ((∃ first second, asked = [first, second]) ↔ ∃ view, arguments.Shows view) := by
  intro claimed
  obtain ⟨first, second, both⟩ := claimed.mpr ⟨view, shows⟩
  rw [once] at both
  cases both

theorem lets_tenSeconds : ({} : Watch).lets ⟨10000⟩ := by decide

/-- The second question is missing if the view has a zone that is too long to be put into a
request. -/
theorem requests_of_long_zone (replies : List Reply)
    (solid : ∀ c ∈ zone.toList, Text.isBlank c = false) (long : Client.maxAsked < zone.length) :
    (run (besideServer "10s" replies) (zoneArgs zone)).network.requests =
      ["http://[::1]/scenarios/42/scenario-results-options"] := by
  have accepted := accepted_zone replies zone
  have unaskable := @not_isAskable_of_zone loopback zone rfl ⟨42⟩ solid long
  obtain ⟨later?, requests, leads⟩ := (accepted.begun (exists_plotFolder rfl "10s")).asks
  have later : later? = some (viewUrl loopback ⟨42⟩ totalCapacity [(.loadZone, zone)]) :=
    (leads _).mpr ⟨totalCapacity, accepted.shows, lets_tenSeconds, rfl⟩
  have before : (besideServer "10s" replies).network.requests = [] := rfl
  rw [requests, later, before, Option.toList_some, Client.sent_cons rfl Client.isAskable_loopback,
    Client.sent_cons_of_not unaskable, Client.sent_nil, Client.optionsUrl_loopback]
  decide

/-- The second question is missing if the wait crashes before it has been put. -/
theorem requests_of_noDeadline {around : Surroundings} {config : Config} {timeout : Duration}
    (begun : Begun around rpsArgs rpsArguments config timeout loopback ⟨42⟩)
    (reachable : around.network.reachable) (unasked : around.network.requests = [])
    (crashes : around.watch.lets timeout = false) :
    (run around rpsArgs).network.requests =
      ["http://[::1]/scenarios/42/scenario-results-options"] := by
  obtain ⟨later?, requests, leads⟩ := begun.asks
  have never : later? = none := by
    refine Option.eq_none_iff_forall_ne_some.mpr fun url later => ?_
    obtain ⟨view, -, lets, -⟩ := (leads url).mp later
    rw [crashes] at lets
    cases lets
  rw [requests, never, unasked, Option.toList_none,
    Client.sent_cons reachable Client.isAskable_loopback, Client.sent_nil,
    Client.optionsUrl_loopback]
  decide

end

/-! ### All runs -/

/-- The questions of a run, whatever the replies: none if it ends before, else one for the options of
the scenario and at most one more, for the view that the arguments show. -/
theorem run_requests (around : Surroundings) (args : List String) :
    let outcome := run around args
    (Idle around args → outcome.network.requests = around.network.requests) ∧
    (∀ arguments, around.arguments args = .ok arguments → arguments.Prints →
      ∀ fileAt, run { around with fileAt } args = outcome) ∧
    (¬ Idle around args → ∃ arguments config timeout base scenario,
      Begun around args arguments config timeout base scenario ∧
      ∃ later? : Option Url,
        outcome.network.requests = around.network.requests ++
          Client.sent around.network (Client.optionsUrl base scenario :: later?.toList) ∧
        ∀ url, later? = some url ↔ ∃ view, arguments.Shows view ∧ around.watch.lets timeout ∧
          viewUrl base scenario view arguments.filters = url) := by
  intro outcome
  refine ⟨?_, ?_, ?_⟩
  · intro idle
    exact congrArg Network.requests (run_of_idle idle)
  · intro arguments read prints fileAt
    exact run_of_prints read prints fileAt
  · intro busy
    obtain ⟨arguments, config, timeout, base, scenario, begun⟩ := exists_begun busy
    exact ⟨arguments, config, timeout, base, scenario, begun, begun.asks⟩

/-- A view after options that could not be had. -/
theorem run_requests_view :
    let around := besideServer "10s" [.answer 500 "busy"]
    let args := ["--scenario", "42", "--view", "results-cost-plot", "--stage", "1"]
    ¬ Idle around args ∧
      (run around args).network.requests =
        ["http://[::1]/scenarios/42/scenario-results-options",
          "http://[::1]/scenarios/42/results-cost-plot/null/1/default"] := by
  intro around args
  let view := Catalog.plot .costPlot "Cost Plot" "costPlot" Catalog.stagedFilters
  let given : Arguments :=
    { configPath := "c.toml", scenario? := some "42", view? := some "results-cost-plot"
      filters := [(.stage, "1")] }
  have accepted : Accepted around args given (loopbackConfig "10s") ⟨10000⟩
      { base := loopback, network := around.network } ⟨42⟩ view :=
    accepted_loopback rfl load_tenSeconds read_tenSeconds (by simp [Arguments.Prints, given]) rfl rfl
      rfl (by unfold ViewDescriptor.Takes; decide)
  have begun := accepted.begun (exists_plotFolder rfl "10s")
  obtain ⟨arguments, config, timeout, base, scenario, again, later?, requests, leads⟩ :=
    (run_requests around args).2.2 begun.busy
  obtain ⟨rfl, rfl, rfl, rfl, rfl⟩ := begun.unique again
  have later : later? = some (viewUrl loopback ⟨42⟩ view given.filters) :=
    (leads _).mpr ⟨view, accepted.shows, lets_tenSeconds, rfl⟩
  have plot : viewUrl loopback ⟨42⟩ view given.filters =
      Client.plotUrl loopback ⟨42⟩ .costPlot [none, some (.text "1"), some .unsetMaximum] := rfl
  have second : Client.isAskable (Client.asked (Client.plotUrl loopback ⟨42⟩ .costPlot
      [none, some (.text "1"), some .unsetMaximum])) := by
    rw [Client.plotUrl_loopback]
    decide
  refine ⟨begun.busy, ?_⟩
  rw [requests, later, plot, Option.toList_some, Client.sent_cons rfl Client.isAskable_loopback,
    Client.sent_cons rfl second, Client.sent_nil, Client.optionsUrl_loopback,
    Client.plotUrl_loopback]
  decide

/-- The second question may be missing although the arguments show a view: its URL may be too long, or
the timeout more than the clock can tell. -/
theorem run_requests_otherwise :
    let options := "http://[::1]/scenarios/42/scenario-results-options"
    (Begun (besideServer "10s" []) (zoneArgs longZone) (zoneArguments longZone)
        (loopbackConfig "10s") ⟨10000⟩ loopback ⟨42⟩ ∧
      let asked := (run (besideServer "10s" []) (zoneArgs longZone)).network.requests
      asked = [options] ∧
        ¬ ((∃ first second, asked = [first, second]) ↔
          ∃ view, (zoneArguments longZone).Shows view)) ∧
      Begun (besideServer "9223372036854775807s" []) rpsArgs rpsArguments
        (loopbackConfig "9223372036854775807s") ⟨9223372036854775807000⟩ loopback ⟨42⟩ ∧
      let asked := (run (besideServer "9223372036854775807s" []) rpsArgs).network.requests
      asked = [options] ∧
        ¬ ((∃ first second, asked = [first, second]) ↔ ∃ view, rpsArguments.Shows view) := by
  intro options
  have zoned := accepted_zone [] longZone
  have once := requests_of_long_zone [] longZone_long.1 longZone_long.2
  have waits := accepted_endless []
  have begun := waits.begun (exists_plotFolder rfl "9223372036854775807s")
  have alone := requests_of_noDeadline begun rfl rfl (by decide)
  exact ⟨⟨zoned.begun (exists_plotFolder rfl "10s"), once, not_twice once zoned.shows⟩, begun, alone,
    not_twice alone waits.shows⟩

end CommandLine

end ScenarioResults
