import ScenarioResults.Text.Path

/-!
# The files that a run starts with

Files are found by path: two paths that differ only in parts which could be left out name the same
file, if the folders that such parts name are there.
-/

namespace ScenarioResults

inductive FileEntry where
  | nothing
  | folder
  | file (text : String)
  deriving DecidableEq, Repr

structure Files where
  texts : List (String × String) := []
  deriving DecidableEq, Repr

namespace Files

/-- Whether a path leads to a folder: one that the files are in, or one with a file inside. -/
def isFolder (files : Files) (path : String) : Bool :=
  (Text.Path.parts path).all (· == "..")
    || files.texts.any fun file =>
      (Text.Path.plain file.1).startsWith (Text.Path.plain path ++ "/")

/-- Whether all that a path goes through before its last part are folders. -/
def isReached (files : Files) (path : String) : Bool :=
  let parts := path.splitOn "/"
  (List.range parts.length).all fun n => files.isFolder ("/".intercalate (parts.take n))

/-- What is at a path. An empty path is no path at all. -/
def find (files : Files) (path : String) : FileEntry :=
  let plain := Text.Path.plain path
  if path.isEmpty || !files.isReached path then .nothing
  else if files.isFolder path then .folder
  else match files.texts.find? fun file => Text.Path.plain file.1 == plain with
    | some (_, text) => .file text
    | none => .nothing

end Files

end ScenarioResults
