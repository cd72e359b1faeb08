import ScenarioResults.Backend.InFlight
import ScenarioResults.Client
import ScenarioResults.CommandLine.Arguments
import ScenarioResults.Config
import ScenarioResults.Report

/-!
# One run of the command line

A run is a function of the arguments and of what surrounds it: the files, the network, the clocks and
two folders for settings and data, which may be missing. What it gives back is the exit code, both
texts, the requests and the pages. Nothing is asked of the server before the configuration and the
scenario have been read and found good.

Log lines go where complaints go, and come before them. The log is told of warnings, and what it makes
of them is its own: nothing, or more lines than there are warnings. Of a crash there is the message, but
not where in the program it happened. The time of day is taken to be one that can be written out.
-/

namespace ScenarioResults.CommandLine

/-- What the log is told at the level of warnings. -/
inductive Warning where
  | optionsUnavailable (scenario : ScenarioId) (message : String)
  | fetchFailed (key : ViewKey) (message : String)
  | embedFailed (key : ViewKey) (message : String)
  deriving DecidableEq, Repr

structure Surroundings where
  configPath? : Option String := none
  configHome : Option String := none
  dataHome : Option String := none
  fileAt : String → FileEntry := fun _ => .nothing
  network : Network := {}
  decoder : Decoder := {}
  /-- What the log writes under a filter in the course of a run with some warnings. -/
  logger : (filter : String) → List Warning → String := fun _ _ => ""
  watch : Watch := {}

structure Outcome where
  exitCode : Nat
  output : String
  complaint : String
  network : Network
  pages : List (String × String)

inductive RunError where
  | noConfigFolder
  | noPlotFolder
  | arguments (error : ArgumentError)
  | config (path : String) (error : ConfigError)
  | timeout (error : DurationError)
  | client (path : String) (error : ClientError)
  | noScenario
  | unreachable (scenario : ScenarioId) (cause : Fault)
  | view (error : ViewError)
  | report (error : ReportError)

def RunError.fault : RunError → Fault
  | .noConfigFolder =>
    .of ("cannot resolve config directory; set " ++ Config.pathVariable ++ " to the config file")
  | .noPlotFolder => .of "cannot resolve data directory; set [output] plot_dir in the config"
  | .arguments error => .of error.message
  | .config path error =>
    error.fault.within
      ("load config " ++ path
        ++ "; run \x60gpresults --print-example-config\x60 to generate a v1 template")
  | .timeout error => error.fault
  | .client path error =>
    error.fault.within ("invalid [server] config in " ++ path ++ "; fix base_url/timeout values")
  | .noScenario => .of "--scenario is required; run with --help to see usage"
  | .unreachable scenario cause =>
    cause.within ("result options for scenario " ++ scenario.display ++ " are not reachable")
  | .view error => .of error.message
  | .report error => .of error.message

/-- A crash has an exit code of its own. -/
def RunError.exitCode : RunError → Nat
  | .report .noDeadline => 101
  | _ => 1

/-- Where the configuration is, unless the arguments say otherwise. -/
def Surroundings.configPath (around : Surroundings) : Except RunError String :=
  match around.configPath? with
  | some path => .ok path
  | none =>
    match Config.defaultPath around.configHome with
    | some path => .ok path
    | none => .error .noConfigFolder

/-! ### Texts -/

def helpText : String :=
  String.join
    ["gpresults\n",
     "  --scenario <id>          Scenario whose results to show\n",
     "  --view <slug>            Fetch one result view (see --list-views)\n",
     "  --load-zone <zone>       Plot filter: load zone\n",
     "  --horizon <horizon>      Plot filter: horizon\n",
     "  --stage <stage>          Plot filter: stage\n",
     "  --ymax <number>          Plot filter: y-axis maximum\n",
     "  --list-views             List result views\n",
     "  --config <path>          Use a specific config path\n",
     "  --print-config-path      Print resolved config path\n",
     "  --print-example-config   Print a v1 config template\n",
     "  --check                  Validate config and, with --scenario, the server\n",
     "  --help                   Show this help\n"]

def viewList (catalog : Catalog) : String :=
  String.join (catalog.views.map fun view =>
    view.key.slug ++ "\t" ++ view.kind.label ++ "\t" ++ view.caption ++ "\n")

def printed? (arguments : Arguments) : Option String :=
  if arguments.showsHelp then some helpText
  else if arguments.printsConfigPath then some (arguments.configPath ++ "\n")
  else if arguments.printsTemplate then some (Config.template arguments.configPath)
  else if arguments.listsViews then some (viewList .standard)
  else none

/-! ### Stages -/

structure Setup where
  config : Config
  timeout : Duration
  client : Client
  scenario? : Option ScenarioId

def setup (around : Surroundings) (arguments : Arguments) : Except RunError Setup := do
  let path := arguments.configPath
  let config ← (Config.load path (around.fileAt path)).mapError (.config path)
  let timeout ← config.timeout.mapError .timeout
  let client ←
    (Client.ofText config.baseUrl around.network around.decoder).mapError (.client path)
  let scenario? ← arguments.scenario?.mapM fun raw => (ScenarioId.ofRoute raw).mapError .view
  return { config, timeout, client, scenario? }

structure Ended where
  result : Except RunError String
  logged : String := ""
  network : Network
  pages : List (String × String) := []

/-- Whether the server answers for a scenario. Without one nothing is asked. -/
def check (around : Surroundings) (ready : Setup) : Ended :=
  let logged := around.logger ready.config.logFilter []
  match ready.scenario? with
  | none => { result := .ok "", logged, network := ready.client.network }
  | some scenario =>
    let (answer, client) := Backend.options scenario ready.client
    { result := (answer.mapError (.unreachable scenario)).map fun _ => "", logged
      network := client.network }

abbrev RunPage := Page (InFlight Client) PlotFolder

def setFilters (key : ViewKey) : List (Filter × String) → RunPage → Except ViewError RunPage
  | [], page => .ok page
  | (filter, raw) :: rest, page =>
    match page.setFilterRaw key filter raw with
    | (.ok _, page) => setFilters key rest page
    | (.error e, _) => .error e

/-- The report of a view, or why there is none, with what the page told while it was waited for. -/
structure Shown where
  result : Except RunError String
  told : List PageEvent := []
  page : RunPage

def awaitReport (page : RunPage) (key : ViewKey) (timeout : Duration) (watch : Watch) : Shown :=
  match page.await key timeout watch with
  | (.error e, page) => { result := .error (.report e), page }
  | (.ok told, page) => { result := (page.report key).mapError .report, told, page }

def showView (page : RunPage) (slug : String) (filters : List (Filter × String))
    (timeout : Duration) (watch : Watch) : Shown :=
  match page.catalog.resolveSlug slug with
  | .error e => { result := .error (.view e), page }
  | .ok view =>
    match setFilters view.key filters page with
    | .error e => { result := .error (.view e), page }
    | .ok page =>
      match page.select view.key with
      | (.error e, page) => { result := .error (.view e), page }
      | (.ok _, page) => awaitReport page view.key timeout watch

def plotFolder (around : Surroundings) (config : Config) : Except RunError PlotFolder :=
  match config.plotFolder around.dataHome with
  | none => .error .noPlotFolder
  | some folder =>
    .ok
      { folder, script := config.script
        blocked := match around.fileAt folder with
          | .file _ => true
          | _ => false }

def Warning.ofEvent? : PageEvent → Option Warning
  | .fetchFailed key message => some (.fetchFailed key message)
  | .embedFailed key message => some (.embedFailed key message)
  | _ => none

/-- The warning of a page that was entered without options. -/
def Warning.ofPage? (page : RunPage) : Option Warning :=
  page.optionsError.map (.optionsUnavailable page.scenario)

def serve (around : Surroundings) (arguments : Arguments) (ready : Setup) : Ended :=
  let logged := around.logger ready.config.logFilter
  match ready.scenario?, plotFolder around ready.config with
  | none, _ => { result := .error .noScenario, logged := logged [], network := ready.client.network }
  | some _, .error error =>
    { result := .error error, logged := logged [], network := ready.client.network }
  | some scenario, .ok plots =>
    let page : RunPage := .enter scenario .standard ⟨ready.client, []⟩ plots
    let shown : Shown := match arguments.view? with
      | none => { result := .ok page.overview, page }
      | some slug => showView page slug arguments.filters ready.timeout around.watch
    let warnings := (Warning.ofPage? page).toList ++ shown.told.filterMap Warning.ofEvent?
    { result := shown.result, logged := logged warnings
      network := shown.page.backend.inner.network, pages := shown.page.embedder.pages }

def perform (around : Surroundings) (arguments : Arguments) : Ended :=
  match printed? arguments with
  | some text => { result := .ok text, network := around.network }
  | none =>
    match setup around arguments with
    | .error error => { result := .error error, network := around.network }
    | .ok ready =>
      if arguments.checksOnly then check around ready
      else serve around arguments ready

def Ended.outcome (ended : Ended) : Outcome :=
  match ended.result with
  | .ok text =>
    { exitCode := 0, output := text, complaint := ended.logged, network := ended.network
      pages := ended.pages }
  | .error error =>
    { exitCode := error.exitCode, output := ""
      complaint := ended.logged ++ error.fault.message ++ "\n", network := ended.network
      pages := ended.pages }

def Surroundings.arguments (around : Surroundings) (args : List String) :
    Except RunError Arguments := do
  let path ← around.configPath
  (Arguments.read path args).mapError .arguments

def run (around : Surroundings) (args : List String) : Outcome :=
  match around.arguments args with
  | .error error => Ended.outcome { result := .error error, network := around.network }
  | .ok arguments => (perform around arguments).outcome

end ScenarioResults.CommandLine
