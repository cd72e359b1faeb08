import ScenarioResults.Duration
import ScenarioResults.Embedder.PlotFolder
import ScenarioResults.Page

/-!
# Reports

What is said of one view once its fetch is over, and what is said of a page on which no view was
chosen. Waiting for a view takes what comes while the page waits, until a deadline: a view that is
still pending then did not answer within its time. A deadline that the clock cannot tell is no
deadline at all, and the wait crashes before it has begun.
-/

namespace ScenarioResults

inductive ReportError where
  | view (error : ViewError)
  | noResult (key : ViewKey)
  | noTable (key : ViewKey)
  | timeUp (key : ViewKey) (budget : Duration)
  | noDeadline
  deriving DecidableEq, Repr

def ReportError.message : ReportError → String
  | .view error => error.message
  | .noResult key => key.slug ++ " has no result yet"
  | .noTable key => key.slug ++ " finished without a table"
  | .timeUp key budget =>
    key.slug ++ " did not complete within " ++ budget.display ++ " -- raise [server] timeout"
  | .noDeadline => "overflow when adding duration to instant"

/-- What the clocks have to do with a wait. -/
structure Watch where
  /-- The time of day at which completions land. -/
  now : Instant := ⟨0⟩
  /-- When the wait begins, and when the fetch under way is answered, by a clock that never goes
  back. -/
  start : Instant := ⟨0⟩
  arrival : Instant := ⟨0⟩
  /-- Whether the fetch under way has put its question by the time that a wait crashes. -/
  overtaken : Bool := false

namespace Page

variable {σ ε : Type}

def grace : Duration := ⟨1000⟩

/-- The page once a view is no longer pending, with what has been told of it, or the error that the
view stays pending. What comes after the deadline is lost. -/
def await [Backend σ] [Embedder ε] (page : Page σ ε) (key : ViewKey) (timeout : Duration)
    (watch : Watch) : Except ReportError (List PageEvent) × Page σ ε :=
  let budget := timeout.plus grace
  match watch.start.after? budget with
  | none => (.error .noDeadline, if watch.overtaken then page.gather else page)
  | some deadline =>
    let (first, page) := page.process watch.now
    if page.status key ≠ .pending then (.ok first, page)
    else if deadline.nanoseconds ≤ watch.arrival.nanoseconds then
      (.error (.timeUp key budget), page.gather)
    else
      let (others, page) := page.wait watch.now
      (if page.status key = .pending then .error (.timeUp key budget) else .ok (first ++ others),
        page)

def report (page : Page σ PlotFolder) (key : ViewKey) : Except ReportError String :=
  match page.status key with
  | .failed message => .error (.view (.fetchFailure key message))
  | .notRequested | .pending => .error (.noResult key)
  | .empty => .ok ((ViewError.noResults key).message ++ "\n")
  | .ready =>
    match key.kind with
    | .table =>
      match page.coordinator.table? key with
      | some table => .ok (Table.render table)
      | none => .error (.noTable key)
    | .plot =>
      match page.coordinator.plot? key with
      | some plot =>
        if plot.description.isEmpty then .ok "(no plot data)\n"
        else .ok (page.embedder.path plot.surface ++ "\n")
      | none => .ok "(no plot data)\n"

def padded (width : Nat) (s : String) : String :=
  s ++ String.ofList (List.replicate (width - s.length) ' ')

def choiceLine (choice : FilterChoice) : String :=
  if choice.options.isEmpty then "  " ++ choice.label ++ "\n"
  else "  " ++ choice.label ++ ": " ++ ", ".intercalate choice.options ++ "\n"

def overview (page : Page σ ε) : String :=
  let buttons := page.buttons.map fun button =>
    "  " ++ padded 34 button.key.slug ++ " " ++ button.caption ++ "\n"
  let offers := match page.optionsError with
    | some message => ["filter options unavailable: " ++ message ++ "\n"]
    | none => page.offers.map fun offer =>
      offer.caption ++ "\n" ++ String.join (offer.choices.map choiceLine)
  "scenario " ++ page.scenario.display ++ "\n" ++ String.join buttons ++ String.join offers

end Page

end ScenarioResults
