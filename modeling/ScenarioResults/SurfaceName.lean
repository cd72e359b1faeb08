import ScenarioResults.Catalog
import ScenarioResults.FilterValue
import ScenarioResults.Plot
import ScenarioResults.Text.Percent

/-!
# Naming the surface of a plot

The name joins the plot's word and one segment for each filter by hyphens, the y-axis maximum last
and only if it is set. A segment is the shown value, escaped so that it holds neither a hyphen nor a
tilde; a tilde alone marks an unset filter. So plots that differ in a filter have different
surfaces.
-/

namespace ScenarioResults

abbrev FilterValues := List (Filter × Option FilterValue)

/-- The value listed first for a filter. -/
def FilterValues.get? (values : FilterValues) (filter : Filter) : Option FilterValue :=
  (values.lookup filter).join

namespace Surface

/-- The separator and the marker of an unset filter, escaped like any other byte. -/
def segmentChar (c : Char) : List Char :=
  if c = '-' then ['%', '2', 'D'] else if c = '~' then ['%', '7', 'E'] else [c]

def segment (value : FilterValue) : List Char :=
  (Text.percentEncodeWith Text.isUnreserved value.display.toList).flatMap segmentChar

def unsetSegment : List Char := ['~']

/-- The segment of a filter in its place. The y-axis maximum has no place among the others. -/
def placed (values : FilterValues) (filter : Filter) : List Char :=
  if filter = .yAxisMax then []
  else '-' :: ((values.get? filter).map segment).getD unsetSegment

/-- The segment of the y-axis maximum, if the plot has that filter and it is set. -/
def maximum (spec : PlotSpec) (values : FilterValues) : List Char :=
  if spec.filters.contains .yAxisMax then
    ((values.get? .yAxisMax).map fun value => '-' :: segment value).getD []
  else []

def ofValues (spec : PlotSpec) (values : FilterValues) : Surface :=
  ⟨String.ofList
    (spec.surface.toList ++ spec.filters.flatMap (placed values) ++ maximum spec values)⟩

end Surface

end ScenarioResults
