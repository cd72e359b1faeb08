import ScenarioResults.Plot
import ScenarioResults.Text.Markup
import ScenarioResults.Text.Path
import ScenarioResults.Text.Percent

/-!
# Plot pages

A plot page is a document of its own that draws one plot on one surface. Nothing that comes from
outside can end the script it stands in: a closing tag inside the description is written with a
backslash before its slash, which a reader of the script takes for the same text.
-/

namespace ScenarioResults.PlotPage

/-- A text in which no slash follows a less-than sign: a backslash comes between them. -/
def guardClosing : List Char → List Char
  | [] => []
  | '<' :: '/' :: rest => '<' :: '\\' :: '/' :: guardClosing rest
  | c :: rest => c :: guardClosing rest

def item (description : PlotDescription) : String :=
  String.ofList (guardClosing description.value.compact)

/-- The page that draws a plot, with the drawing library taken from `script`. -/
def render (plot : PlotResult) (script : String) : String :=
  let title := Text.escapeMarkup plot.surface.name
  "<!DOCTYPE html>\n<html lang=\"en\">\n<head>\n<meta charset=\"utf-8\">\n<title>" ++ title
    ++ "</title>\n<script src=\"" ++ Text.escapeMarkup script
    ++ "\"></script>\n</head>\n<body>\n<div id=\"" ++ title
    ++ "\"></div>\n<script>\nBokeh.embed.embed_item(" ++ item plot.description ++ ", "
    ++ String.ofList (Json.literal plot.surface.name)
    ++ ");\n</script>\n</body>\n</html>\n"

def fileName (surface : Surface) : String := Text.percentEncode surface.name ++ ".html"

def path (folder : String) (surface : Surface) : String :=
  Text.Path.join folder (fileName surface)

end ScenarioResults.PlotPage
