import ScenarioResults.Filter
import ScenarioResults.Text.Quoted
import ScenarioResults.View

/-!
# What can go wrong with a view

An error says what was asked and what is missing. Its wording is in one place, `ViewError.message`.
A fault of something outside the page, such as a server or a disk, is a chain of causes from the
outermost to the root.
-/

namespace ScenarioResults

inductive ViewError where
  | unknownView (raw : String)
  | fetchFailure (key : ViewKey) (message : String)
  | noResults (key : ViewKey)
  | embedding (surface : String) (message : String)
  | notAPlot (key : ViewKey)
  | unknownFilter (key : ViewKey) (filter : Filter)
  | invalidFilterValue (filter : Filter) (value : String)
  | invalidScenario (raw : String)
  deriving DecidableEq, Repr

def ViewError.message : ViewError → String
  | .unknownView raw =>
    "unknown view kind " ++ Text.quoted raw ++ " -- choose one of the listed result views"
  | .fetchFailure key message => "fetch for " ++ key.slug ++ " failed: " ++ message
  | .noResults key => key.slug ++ " returned no results"
  | .embedding surface message => "embedding into " ++ surface ++ " failed: " ++ message
  | .notAPlot key => key.slug ++ " is a table view and takes no parameters"
  | .unknownFilter key filter => key.slug ++ " has no " ++ filter.key ++ " filter"
  | .invalidFilterValue filter value =>
    "invalid " ++ filter.key ++ " value " ++ Text.quoted value ++ "; expected a number"
  | .invalidScenario raw =>
    "invalid scenario id " ++ Text.quoted raw ++ "; expected a positive integer"

/-- A fault and the causes behind it, the outermost first. -/
structure Fault where
  causes : List String
  deriving DecidableEq, Repr, Inhabited

namespace Fault

def of (cause : String) : Fault := ⟨[cause]⟩

def within (context : String) (fault : Fault) : Fault := ⟨context :: fault.causes⟩

def message (fault : Fault) : String := ": ".intercalate fault.causes

end Fault

end ScenarioResults
