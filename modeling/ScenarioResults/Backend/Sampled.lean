import ScenarioResults.Backend.Calls
import ScenarioResults.Sample.Results
import ScenarioResults.ViewMap

/-!
# A backend of sample results

What a view gets depends on the seed, the scenario, the view and the arguments only. Views can be
made to fail or to have no results, and fetches can be held back until they are asked to complete.
-/

namespace ScenarioResults

structure SampledBackend where
  seed : UInt64
  offered : Except String ResultsOptions
  failures : ViewMap String := .empty
  voids : List ViewKey := []
  deferred : Bool := false
  held : List FetchRequest := []
  cancelled : List Ticket := []
  calls : List RecordedCall := []

namespace SampledBackend

def ofSeed (seed : UInt64) : SampledBackend :=
  { seed, offered := .ok (Sample.options (Sample.start seed)).1 }

/-- What an argument adds to the salt: its bytes, and a mark of where it ends. -/
def saltArgument (salt : UInt64) (argument : PlotArgument) : UInt64 :=
  let text := (argument.map FilterValue.display).getD ""
  (text.toList.flatMap String.utf8EncodeChar).foldl
    (fun salt byte => salt * 31 + byte.toUInt64) salt * 31

def salt (scenario : ScenarioId) (key : ViewKey) (arguments : List PlotArgument) : UInt64 :=
  let start := scenario.number.toUInt64 * 31
  arguments.foldl saltArgument ((start + UInt64.ofNat key.ordinal) * 31)

def generator (backend : SampledBackend) (scenario : ScenarioId) (key : ViewKey)
    (arguments : List PlotArgument) : Sample.Generator :=
  Sample.start (backend.seed ^^^ salt scenario key arguments)

def record (backend : SampledBackend) (call : RecordedCall) : SampledBackend :=
  { backend with calls := backend.calls ++ [call] }

def rows (backend : SampledBackend) (scenario : ScenarioId) (key : ViewKey) :
    Except Fault (List Row) :=
  match backend.failures.get? key with
  | some message => .error (.of message)
  | none =>
    if backend.voids.contains key then .ok []
    else .ok (Sample.tableRows key (backend.generator scenario key [])).1

def description (backend : SampledBackend) (scenario : ScenarioId) (key : ViewKey)
    (arguments : List PlotArgument) : Except Fault PlotDescription :=
  match backend.failures.get? key with
  | some message => .error (.of message)
  | none =>
    if backend.voids.contains key then .ok ⟨.null⟩
    else .ok (Sample.plotDescription key arguments (backend.generator scenario key arguments)).1

def table (scenario : ScenarioId) (key : ViewKey) : Call SampledBackend (List Row) :=
  fun backend => (backend.rows scenario key, backend.record (.table scenario key))

def plot (scenario : ScenarioId) (key : ViewKey) (arguments : List PlotArgument) :
    Call SampledBackend PlotDescription :=
  fun backend =>
    (backend.description scenario key arguments, backend.record (.plot scenario key arguments))

instance : Backend SampledBackend where
  options scenario backend :=
    (match backend.offered with
      | .ok options => .ok options
      | .error message => .error (.of message),
      backend.record (.options scenario))
  table := table
  plot := plot
  spawn request backend :=
    if backend.deferred then (.ok [], { backend with held := backend.held ++ [request] })
    else
      let (event, backend) := request.executeWith table plot backend
      (.ok [event], backend)
  cancel ticket backend := (.ok (), { backend with cancelled := backend.cancelled ++ [ticket] })

def complete (ticket : Ticket) : Call SampledBackend FetchEvent := fun backend =>
  match takeHeld ticket backend.held with
  | none => (.error (notHeld ticket), backend)
  | some (request, rest) =>
    let (event, backend) := request.executeWith table plot { backend with held := rest }
    (.ok event, backend)

def completeAll (backend : SampledBackend) : List FetchEvent × SampledBackend :=
  Backend.executeAll backend.held { backend with held := [] }

end SampledBackend

end ScenarioResults
