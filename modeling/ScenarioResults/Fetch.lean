import ScenarioResults.FilterValue
import ScenarioResults.Plot
import ScenarioResults.Scenario
import ScenarioResults.Table

/-!
# Fetches

Each activation of a view gets a ticket: the view and a generation that no other activation of it
has, as long as the 64-bit count of generations lasts. A request carries its ticket, and so does
the event that answers it.
-/

namespace ScenarioResults

/-- How often a view has been activated or abandoned. The count stops at the greatest word. -/
structure Generation where
  number : Nat
  deriving DecidableEq, Repr, Inhabited

def Generation.next (generation : Generation) : Generation :=
  ⟨min (generation.number + 1) Text.maxWord⟩

/-- One activation of one view. -/
@[ext]
structure Ticket where
  key : ViewKey
  generation : Generation
  deriving DecidableEq, Repr

inductive FetchRequest where
  | table (ticket : Ticket) (scenario : ScenarioId)
  | plot (ticket : Ticket) (scenario : ScenarioId) (arguments : List PlotArgument)

namespace FetchRequest

def ticket : FetchRequest → Ticket
  | .table ticket _ => ticket
  | .plot ticket _ _ => ticket

def scenario : FetchRequest → ScenarioId
  | .table _ scenario => scenario
  | .plot _ scenario _ => scenario

/-- The arguments of a plot request. A table request has none. -/
def arguments? : FetchRequest → Option (List PlotArgument)
  | .table _ _ => none
  | .plot _ _ arguments => some arguments

end FetchRequest

inductive FetchOutcome where
  | table (rows : List Row)
  | plot (description : PlotDescription)
  | failed (message : String)

/-- The answer to the request with the same ticket. -/
structure FetchEvent where
  ticket : Ticket
  outcome : FetchOutcome

theorem Generation.next_number {generation : Generation}
    (below : generation.number < Text.maxWord) :
    generation.next.number = generation.number + 1 := by
  simp only [next]
  omega

theorem Generation.le_next {generation : Generation}
    (within : generation.number ≤ Text.maxWord) : generation.number ≤ generation.next.number := by
  simp only [next]
  omega

theorem Generation.next_le (generation : Generation) :
    generation.next.number ≤ generation.number + 1 := by
  simp only [next]
  omega

end ScenarioResults
