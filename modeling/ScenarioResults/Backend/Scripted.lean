import ScenarioResults.Backend.Calls
import ScenarioResults.ViewMap

/-!
# A backend that answers from a script

The script has a list of answers for the options and one for each view. Every call takes the next
answer of its list; the last one stays. A call without an answer of its kind gets nothing: no
options, no rows or a null description.
-/

namespace ScenarioResults

inductive ScriptedReply where
  | rows (rows : List Row)
  | description (description : PlotDescription)
  | fault (fault : Fault)

structure ScriptedBackend where
  offered : List (Except Fault ResultsOptions) := []
  replies : ViewMap (List ScriptedReply) := .empty
  deferred : Bool := false
  spawnFault : Option Fault := none
  cancelFault : Option Fault := none
  held : List FetchRequest := []
  cancelled : List Ticket := []
  calls : List RecordedCall := []

namespace ScriptedBackend

def next {α : Type} : List α → Option α × List α
  | [] => (none, [])
  | [last] => (some last, [last])
  | first :: rest => (some first, rest)

def record (backend : ScriptedBackend) (call : RecordedCall) : ScriptedBackend :=
  { backend with calls := backend.calls ++ [call] }

def take (backend : ScriptedBackend) (key : ViewKey) : Option ScriptedReply × ScriptedBackend :=
  match backend.replies.get? key with
  | none => (none, backend)
  | some list =>
    let (reply, rest) := next list
    (reply, { backend with replies := backend.replies.insert key rest })

def options (scenario : ScenarioId) : Call ScriptedBackend ResultsOptions := fun backend =>
  let (answer, rest) := next backend.offered
  (answer.getD (.ok {}), { backend.record (.options scenario) with offered := rest })

def table (scenario : ScenarioId) (key : ViewKey) : Call ScriptedBackend (List Row) :=
  fun backend =>
    let (reply, backend) := (backend.record (.table scenario key)).take key
    match reply with
    | some (.rows rows) => (.ok rows, backend)
    | some (.fault fault) => (.error fault, backend)
    | _ => (.ok [], backend)

def plot (scenario : ScenarioId) (key : ViewKey) (arguments : List PlotArgument) :
    Call ScriptedBackend PlotDescription :=
  fun backend =>
    let (reply, backend) := (backend.record (.plot scenario key arguments)).take key
    match reply with
    | some (.description description) => (.ok description, backend)
    | some (.fault fault) => (.error fault, backend)
    | _ => (.ok ⟨.null⟩, backend)

instance : Backend ScriptedBackend where
  options := options
  table := table
  plot := plot
  spawn request backend :=
    match backend.spawnFault with
    | some fault => (.error fault, backend)
    | none =>
      if backend.deferred then (.ok [], { backend with held := backend.held ++ [request] })
      else
        let (event, backend) := request.executeWith table plot backend
        (.ok [event], backend)
  cancel ticket backend :=
    let backend := { backend with cancelled := backend.cancelled ++ [ticket] }
    match backend.cancelFault with
    | some fault => (.error fault, backend)
    | none => (.ok (), backend)

def complete (ticket : Ticket) : Call ScriptedBackend FetchEvent := fun backend =>
  match takeHeld ticket backend.held with
  | none => (.error (notHeld ticket), backend)
  | some (request, rest) =>
    let (event, backend) := request.executeWith table plot { backend with held := rest }
    (.ok event, backend)

end ScriptedBackend

end ScenarioResults
