import ScenarioResults.CommandLine.Run

/-!
# The program

It reads what a run needs, prints what the run says and writes the pages that it drew. There is no
transport behind it, so no server can be reached, and no log.
-/

namespace ScenarioResults.Program

def isADirectory : UInt32 := 21

def readEntry (path : String) : IO FileEntry := do
  try
    return .file (← IO.FS.readFile path)
  catch
    | .inappropriateType _ code _ => return if code = isADirectory then .folder else .nothing
    | .noFileOrDirectory _ _ _ => return .nothing
    | error => throw error

/-- A folder that a variable names, or its usual place in the home folder, if there is one. -/
def homeFolder (variableName default : String) : IO (Option String) := do
  match ← IO.getEnv variableName with
  | some folder => if folder.startsWith "/" then return some folder
  | none => pure ()
  let home := (← IO.getEnv "HOME").filter fun home => !home.isEmpty
  return home.map fun home => Text.Path.join home default

def surroundings (args : List String) : IO CommandLine.Surroundings := do
  let around : CommandLine.Surroundings :=
    { configPath? := ← IO.getEnv "GPRESULTS_CONFIG_PATH"
      configHome := ← homeFolder "XDG_CONFIG_HOME" ".config"
      dataHome := ← homeFolder "XDG_DATA_HOME" ".local/share"
      network := { reachable := false } }
  match around.arguments args with
  | .error _ => return around
  | .ok arguments =>
    let path := arguments.configPath
    let entry ← if path.isEmpty then pure .nothing else readEntry path
    return { around with fileAt := fun other => if other = path then entry else .nothing }

def writePage (path text : String) : IO Unit := do
  IO.FS.createDirAll (Text.Path.folder path)
  IO.FS.writeFile path text

end ScenarioResults.Program

def main (args : List String) : IO UInt32 := do
  let outcome := ScenarioResults.CommandLine.run (← ScenarioResults.Program.surroundings args) args
  for (path, text) in outcome.pages do
    ScenarioResults.Program.writePage path text
  IO.print outcome.output
  IO.eprint outcome.complaint
  return UInt32.ofNat outcome.exitCode
