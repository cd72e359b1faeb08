/-!
# File paths

A path is its text. Joining keeps the text of both sides and adds a separator only where there is
none; the plain form of a path names the same file with the fewest parts.
-/

namespace ScenarioResults.Text.Path

/-- The path of `name` inside `folder`. A name that starts at the root stands for itself. -/
def join (folder name : String) : String :=
  if name.startsWith "/" then name
  else if folder.isEmpty || folder.endsWith "/" then folder ++ name
  else folder ++ "/" ++ name

/-- One more part: nothing and a single dot stay, two dots go up where there is a way up. -/
def descend (parts : List String) (part : String) : List String :=
  if part == "" || part == "." then parts
  else if part == ".." then
    match parts.getLast? with
    | none | some ".." => parts ++ [part]
    | some _ => parts.dropLast
  else parts ++ [part]

def parts (path : String) : List String := (path.splitOn "/").foldl descend []

/-- The path with nothing in it that could be left out. There is no way up from the root. -/
def plain (path : String) : String :=
  if path.startsWith "/" then "/" ++ "/".intercalate ((parts path).dropWhile (· == ".."))
  else "/".intercalate (parts path)

def folder (path : String) : String := "/".intercalate (path.splitOn "/").dropLast

end ScenarioResults.Text.Path
