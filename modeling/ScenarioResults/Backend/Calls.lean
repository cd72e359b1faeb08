import ScenarioResults.Backend

/-!
# Records of calls
-/

namespace ScenarioResults

inductive RecordedCall where
  | options (scenario : ScenarioId)
  | table (scenario : ScenarioId) (key : ViewKey)
  | plot (scenario : ScenarioId) (key : ViewKey) (arguments : List PlotArgument)

namespace RecordedCall

def isTable : RecordedCall → Bool
  | .table _ _ => true
  | _ => false

def isPlot : RecordedCall → Bool
  | .plot _ _ _ => true
  | _ => false

end RecordedCall

def takeHeld (ticket : Ticket) : List FetchRequest → Option (FetchRequest × List FetchRequest)
  | [] => none
  | request :: rest =>
    if request.ticket = ticket then some (request, rest)
    else (takeHeld ticket rest).map fun found => (found.1, request :: found.2)

def notHeld (ticket : Ticket) : Fault :=
  .of ("no held fetch for " ++ ticket.key.slug ++ " generation "
    ++ toString ticket.generation.number)

end ScenarioResults
