import ScenarioResults.Decimal.Layout
import ScenarioResults.Decimal.Read
import ScenarioResults.Error
import ScenarioResults.Text.Blank

/-!
# The values of filters

Three of the four filters take a text, the y-axis maximum takes a number. A filter without a value
is unset, which no text says.
-/

namespace ScenarioResults

inductive FilterValue where
  | number (x : Float)
  | text (s : String)
  deriving Inhabited

def FilterValue.display : FilterValue → String
  | .number x => Decimal.display x
  | .text s => s

/-- One position in a plot's arguments: unset, or a value. -/
abbrev PlotArgument := Option FilterValue

/-- What stands for an unset y-axis maximum, and for nothing else. -/
def FilterValue.unsetMaximum : FilterValue := .text "default"

def isFinite (x : Float) : Bool := !x.isNaN && !x.isInf

/-- The value that typed text stands for. Blank text unsets the filter; the y-axis maximum must be a
finite number; any other filter takes the text without the blanks around it. -/
def Filter.read (filter : Filter) (raw : String) : Except ViewError (Option FilterValue) :=
  let trimmed := Text.trim raw
  if trimmed.isEmpty then .ok none
  else match filter with
    | .yAxisMax =>
      match (Decimal.read? trimmed).filter isFinite with
      | some x => .ok (some (.number x))
      | none => .error (.invalidFilterValue filter trimmed)
    | _ => .ok (some (.text trimmed))

end ScenarioResults
