import ScenarioResults.Filter
import ScenarioResults.Text.Quoted

/-!
# Command-line arguments

The arguments are a row of switches, which stand alone, and parameters, each followed by a value.
Whatever follows a parameter is its value, even if it looks like a switch. Of equal parameters the
last one counts, but filters are kept all and in order.
-/

namespace ScenarioResults.CommandLine

inductive Switch where
  | listViews
  | printConfigPath
  | printTemplate
  | check
  | help
  deriving DecidableEq, Repr

inductive Parameter where
  | config
  | scenario
  | view
  | filter (filter : Filter)
  deriving DecidableEq, Repr

inductive Item where
  | switch (switch : Switch)
  | parameter (parameter : Parameter) (value : String)
  deriving DecidableEq, Repr

inductive ArgumentError where
  | missingValue (parameter : Parameter)
  | unknown (name : String)
  deriving DecidableEq, Repr

def Switch.ofName? : String → Option Switch
  | "--list-views" => some .listViews
  | "--print-config-path" => some .printConfigPath
  | "--print-example-config" => some .printTemplate
  | "--check" => some .check
  | "--help" | "-h" => some .help
  | _ => none

def Parameter.ofName? : String → Option Parameter
  | "--config" => some .config
  | "--scenario" => some .scenario
  | "--view" => some .view
  | "--load-zone" => some (.filter .loadZone)
  | "--horizon" => some (.filter .horizon)
  | "--stage" => some (.filter .stage)
  | "--ymax" => some (.filter .yAxisMax)
  | _ => none

def Parameter.name : Parameter → String
  | .config => "--config"
  | .scenario => "--scenario"
  | .view => "--view"
  | .filter .loadZone => "--load-zone"
  | .filter .horizon => "--horizon"
  | .filter .stage => "--stage"
  | .filter .yAxisMax => "--ymax"

theorem Parameter.ofName?_name (parameter : Parameter) :
    Parameter.ofName? parameter.name = some parameter := by
  cases parameter with
  | filter filter => cases filter <;> rfl
  | _ => rfl

def ArgumentError.message : ArgumentError → String
  | .missingValue .config => "--config requires a file path"
  | .missingValue .scenario => "--scenario requires a scenario id"
  | .missingValue .view => "--view requires a view slug; see --list-views"
  | .missingValue parameter => parameter.name ++ " requires a value"
  | .unknown name =>
    "unknown argument " ++ Text.quoted name ++ "; run with --help to see supported options"

def items : List String → Except ArgumentError (List Item)
  | [] => .ok []
  | [name] =>
    match Parameter.ofName? name, Switch.ofName? name with
    | some parameter, _ => .error (.missingValue parameter)
    | none, some switch => .ok [.switch switch]
    | none, none => .error (.unknown name)
  | name :: value :: rest =>
    match Parameter.ofName? name, Switch.ofName? name with
    | some parameter, _ => (items rest).map (.parameter parameter value :: ·)
    | none, some switch => (items (value :: rest)).map (.switch switch :: ·)
    | none, none => .error (.unknown name)

structure Arguments where
  configPath : String
  scenario? : Option String := none
  view? : Option String := none
  filters : List (Filter × String) := []
  listsViews : Bool := false
  printsConfigPath : Bool := false
  printsTemplate : Bool := false
  checksOnly : Bool := false
  showsHelp : Bool := false
  deriving DecidableEq, Repr

namespace Arguments

def take (arguments : Arguments) : Item → Arguments
  | .switch .listViews => { arguments with listsViews := true }
  | .switch .printConfigPath => { arguments with printsConfigPath := true }
  | .switch .printTemplate => { arguments with printsTemplate := true }
  | .switch .check => { arguments with checksOnly := true }
  | .switch .help => { arguments with showsHelp := true }
  | .parameter .config value => { arguments with configPath := value }
  | .parameter .scenario value => { arguments with scenario? := some value }
  | .parameter .view value => { arguments with view? := some value }
  | .parameter (.filter filter) value =>
    { arguments with filters := arguments.filters ++ [(filter, value)] }

/-- The arguments read, with the configuration at the given path unless they say otherwise. -/
def read (defaultPath : String) (args : List String) : Except ArgumentError Arguments :=
  (items args).map fun said => said.foldl take { configPath := defaultPath }

end Arguments

end ScenarioResults.CommandLine
