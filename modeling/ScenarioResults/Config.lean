import ScenarioResults.Duration
import ScenarioResults.Files
import ScenarioResults.Text.Blank
import ScenarioResults.Text.Path
import ScenarioResults.Toml.Document

/-!
# Configuration

A configuration file has a version and up to three sections. What it leaves out has a default, and
without a file everything has. A file is refused whole if anything in it is.
-/

namespace ScenarioResults

structure Config where
  baseUrl? : Option String := none
  timeout? : Option String := none
  plotFolder? : Option String := none
  script? : Option String := none
  logFilter? : Option String := none
  deriving DecidableEq, Repr

inductive ConfigError where
  | unreadable (path : String)
  | notToml (path : String)
  | unversioned (path : String)
  | unsupported (version : Int) (path : String)
  | undecodable (path : String)
  | emptyBaseUrl (path : String)
  | timeout (cause : DurationError)
  | zeroTimeout (path raw : String)
  | emptyPlotFolder (path : String)
  deriving DecidableEq, Repr

def ConfigError.fault : ConfigError → Fault
  | .unreadable path => ⟨["read config file " ++ path, "Is a directory (os error 21)"]⟩
  | .notToml path => .of ("parse TOML config " ++ path)
  | .unversioned path =>
    .of ("config file " ++ path
      ++ " is not versioned. Add \x60version = 1\x60 and put values under "
      ++ "[server], [output], and [logging]")
  | .unsupported version path =>
    .of ("unsupported config version " ++ toString version ++ " in " ++ path
      ++ "; expected version = 1")
  | .undecodable path => .of ("decode config " ++ path)
  | .emptyBaseUrl path => .of ("server.base_url in " ++ path ++ " must not be empty")
  | .timeout cause => cause.fault
  | .zeroTimeout path raw => .of ("server.timeout in " ++ path ++ " must be positive, got " ++ raw)
  | .emptyPlotFolder path =>
    .of ("output.plot_dir in " ++ path ++ " must not be empty; remove it to use the default")

namespace Config

def programName : String := "gpresults"

def version : Int := 1

def defaultBaseUrl : String := "http://localhost:8080/api"

def defaultTimeout : String := "10s"

def defaultLogFilter : String := "warn"

def defaultScript : String := "https://cdn.bokeh.org/bokeh/release/bokeh-2.4.3.min.js"

/-! ### Settings in use -/

def baseUrl (config : Config) : String :=
  Text.dropTrailingSlashes (config.baseUrl?.getD defaultBaseUrl)

def timeout (config : Config) : Except DurationError Duration :=
  Duration.read (config.timeout?.getD defaultTimeout)

/-- The folder of plot pages. By default it is one in the folder of data, if there is such a folder. -/
def plotFolder (config : Config) (dataHome : Option String) : Option String :=
  match config.plotFolder? with
  | some folder => some folder
  | none => dataHome.map fun home => Text.Path.join (Text.Path.join home programName) "plots"

def script (config : Config) : String := config.script?.getD defaultScript

def logFilter (config : Config) : String := config.logFilter?.getD defaultLogFilter

/-- Where a configuration is looked for, if there is a folder of settings. -/
def defaultPath (configHome : Option String) : Option String :=
  configHome.map fun home => Text.Path.join (Text.Path.join home programName) "config.toml"

def pathVariable : String := "GPRESULTS_CONFIG_PATH"

/-! ### Reading -/

/-- The texts of a section under the given names, or of a section that lists them all in order. -/
def sectionTexts? (names : List String) : Option Toml.Value → Option (List (Option String))
  | none => some (names.map fun _ => none)
  | some (.table entries) =>
    names.mapM fun name =>
      match entries.lookup name with
      | none => some none
      | some value => value.text?.map some
  | some (.array items) =>
    if items.length = names.length then items.mapM fun item => item.text?.map some else none
  | some _ => none

def ofDocument? (document : Toml.Value) : Option Config := do
  let server ← sectionTexts? ["base_url", "timeout"] (document.get? "server")
  let output ← sectionTexts? ["plot_dir", "bokeh_js"] (document.get? "output")
  let logging ← sectionTexts? ["filter"] (document.get? "logging")
  match server, output, logging with
  | [baseUrl?, timeout?], [plotFolder?, script?], [logFilter?] =>
    some { baseUrl?, timeout?, plotFolder?, script?, logFilter? }
  | _, _, _ => none

def checkTimeout (path raw : String) : Except ConfigError Unit :=
  match Duration.read raw with
  | .error cause => .error (.timeout cause)
  | .ok duration => if duration.milliseconds = 0 then .error (.zeroTimeout path raw) else .ok ()

/-- What is set can be used: texts that are not blank, and a timeout that is some time. -/
def check (path : String) (config : Config) : Except ConfigError Unit :=
  if config.baseUrl?.any Text.isAllBlank then .error (.emptyBaseUrl path)
  else match config.timeout?.elim (.ok ()) (checkTimeout path) with
    | .error e => .error e
    | .ok () =>
      if config.plotFolder?.any Text.isAllBlank then .error (.emptyPlotFolder path) else .ok ()

def ofDocument (path : String) (document : Toml.Value) : Except ConfigError Config :=
  match (document.get? "version").bind Toml.Value.integer? with
  | none => .error (.unversioned path)
  | some number =>
    if number ≠ version then .error (.unsupported number path)
    else match ofDocument? document with
      | none => .error (.undecodable path)
      | some config => (config.check path).map fun () => config

def ofText (path text : String) : Except ConfigError Config :=
  match Toml.Value.ofDocument? text with
  | none => .error (.notToml path)
  | some document => ofDocument path document

/-- The configuration at a path. Where nothing is, everything has its default. -/
def load (path : String) : FileEntry → Except ConfigError Config
  | .nothing => .ok {}
  | .folder => .error (.unreadable path)
  | .file text => ofText path text

/-! ### The template -/

def template (path : String) : String :=
  "# gpresults config\n# Place this file at: " ++ path
    ++ "\n\nversion = 1\n\n[server]\nbase_url = \"" ++ defaultBaseUrl
    ++ "\"\ntimeout = \"" ++ defaultTimeout
    ++ "\"\n\n[output]\n# Optional. Default is the platform data dir "
    ++ "(for example ~/.local/share/gpresults/plots)\n"
    ++ "# plot_dir = \"/absolute/path/to/plots\"\nbokeh_js = \"" ++ defaultScript
    ++ "\"\n\n[logging]\n# RUST_LOG takes precedence when set\nfilter = \"" ++ defaultLogFilter
    ++ "\"\n"

end Config

end ScenarioResults
