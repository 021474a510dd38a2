import TableModel.Text.Basic

/-!
# Paths

A path is a text; its names stand between slashes. A path that starts with a slash starts at the root
of the tree, any other one at the current directory. The text of a path is kept as it was given, and is
taken apart only where a path is followed.
-/

namespace TableModel

namespace Path

def isAbsolute (path : Text) : Bool :=
  path.head? == some '/'

def endsWithSlash (path : Text) : Bool :=
  path.getLast? == some '/'

/-- The names of a path, the names for the directory itself and its parent among them. -/
def names (path : Text) : List Text :=
  (Text.splitAt '/' path).filter (!·.isEmpty)

def here : Text := "."

def above : Text := ".."

/-- The names of a path that matter to where it leads: a `.` counts only at the start of a path that
is not absolute. -/
def components (path : Text) : List Text :=
  match names path with
  | [] => []
  | first :: rest =>
    if isAbsolute path then (first :: rest).filter (· ≠ here)
    else first :: rest.filter (· ≠ here)

def ofNames (absolute : Bool) (names : List Text) : Text :=
  let joined := List.intercalate "/" names
  if absolute then '/' :: joined else joined

def normal (path : Text) : Text :=
  ofNames (isAbsolute path) (components path)

/-- The path of a name in a directory. An absolute name stands for itself. -/
def join (directory name : Text) : Text :=
  if isAbsolute name then name
  else if directory.isEmpty || endsWithSlash directory then directory ++ name
  else directory ++ "/" ++ name

/-- The directories that a path goes through on its way, the innermost first. -/
def parents (path : Text) : List (List Text) :=
  let names := components path
  ((List.range names.length).drop 1).reverse.map names.take

end Path

end TableModel
