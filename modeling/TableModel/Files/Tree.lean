import TableModel.Files.Path
import TableModel.Model.Failure

/-!
# File trees

A tree of directories and files with a current directory, and what can be done to it: following a path,
making a directory, and reading and writing a file. A path is followed name by name from where it
starts, and every name but the last has to lead to a directory that exists. The root always exists.
-/

namespace TableModel

/-- The names from the root to a place in the tree. -/
abbrev Location := List Text

inductive Node where
  | directory
  | file (content : Text)
  deriving DecidableEq, Repr

/-- A tree of files, each place at most once, with the place where relative paths start. -/
structure FileTree where
  nodes : List (Location × Node)
  current : Location
  deriving DecidableEq, Repr

namespace FileTree

def get? (tree : FileTree) (location : Location) : Option Node :=
  if location.isEmpty then some .directory else tree.nodes.lookup location

/-- The nodes with one put at a place, in the stead of what stood there. -/
def putIn (location : Location) (node : Node) : List (Location × Node) → List (Location × Node)
  | [] => [(location, node)]
  | (other, old) :: rest =>
    if other = location then (location, node) :: rest
    else (other, old) :: putIn location node rest

def put (tree : FileTree) (location : Location) (node : Node) : FileTree :=
  { tree with nodes := putIn location node tree.nodes }

theorem lookup_putIn_self (location : Location) (node : Node) (nodes : List (Location × Node)) :
    (putIn location node nodes).lookup location = some node := by
  induction nodes with
  | nil => simp [putIn]
  | cons head rest ih =>
    obtain ⟨other, old⟩ := head
    by_cases same : other = location
    · simp [putIn, same]
    · have differs : (location == other) = false := beq_false_of_ne (Ne.symm same)
      rw [putIn, if_neg same, List.lookup_cons, differs]
      exact ih

theorem lookup_putIn_of_ne {location other : Location} (ne : other ≠ location) (node : Node)
    (nodes : List (Location × Node)) :
    (putIn location node nodes).lookup other = nodes.lookup other := by
  have differs : (other == location) = false := beq_false_of_ne ne
  induction nodes with
  | nil => simp [putIn, List.lookup_cons, differs]
  | cons head rest ih =>
    obtain ⟨here, old⟩ := head
    by_cases same : here = location
    · subst same
      rw [putIn, if_pos rfl, List.lookup_cons, List.lookup_cons, differs]
    · rw [putIn, if_neg same, List.lookup_cons, List.lookup_cons, ih]

/-- What was put at a place stands there. -/
theorem get?_put_self (tree : FileTree) {location : Location} (ne : location ≠ []) (node : Node) :
    (tree.put location node).get? location = some node := by
  have nonempty : location.isEmpty = false := by simpa using ne
  simp only [get?, put, nonempty, Bool.false_eq_true, if_false]
  exact lookup_putIn_self location node tree.nodes

theorem get?_put_of_ne (tree : FileTree) {location other : Location} (ne : other ≠ location)
    (node : Node) : (tree.put location node).get? other = tree.get? other := by
  simp only [get?, put]
  rw [lookup_putIn_of_ne ne]

def greatestNameSize : Nat := 255

def greatestPathSize : Nat := 4095

/-- Fails if a path cannot be followed whatever the tree holds: if there is a NUL in it, or if it is too
long. -/
def requirePath (path : Text) : Except FileError Unit :=
  if path.contains '\x00' then .error .invalidPath
  else if greatestPathSize < path.utf8Size then .error .nameTooLong
  else .ok ()

def origin (tree : FileTree) (path : Text) : Location :=
  if Path.isAbsolute path then [] else tree.current

def requireDirectory (tree : FileTree) (location : Location) : Except FileError Unit :=
  match tree.get? location with
  | some .directory => .ok ()
  | some (.file _) => .error .notADirectory
  | none => .error .notFound

def follow (tree : FileTree) : Location → List Text → Except FileError Location
  | location, [] => .ok location
  | location, name :: names => do
    tree.requireDirectory location
    if name = Path.here then follow tree location names
    else if name = Path.above then follow tree location.dropLast names
    else if greatestNameSize < name.utf8Size then .error .nameTooLong
    else follow tree (location ++ [name]) names

/-- The directory that holds the last of some names, and this name. -/
def followToLast (tree : FileTree) (start : Location) (names : List Text) :
    Except FileError (Location × Text) := do
  let parent ← tree.follow start names.dropLast
  tree.requireDirectory parent
  match names.getLast? with
  | some name => .ok (parent, name)
  | none => .ok (parent, Path.here)

def isDirectory (tree : FileTree) (start : Location) (names : List Text) : Bool :=
  match tree.follow start names with
  | .ok location => tree.get? location == some .directory
  | .error _ => false

def makeDirectory (tree : FileTree) (start : Location) (names : List Text) :
    Except FileError FileTree := do
  let (parent, name) ← tree.followToLast start names
  if name = Path.here ∨ name = Path.above then .error .alreadyExists
  else if greatestNameSize < name.utf8Size then .error .nameTooLong
  else
    match tree.get? (parent ++ [name]) with
    | some _ => .error .alreadyExists
    | none => .ok (tree.put (parent ++ [name]) .directory)

/-- Makes the first of some directories, given from the innermost outwards, and as many of the others
as it takes. Directories made before an error stay. -/
def makeDirectories (tree : FileTree) (start : Location) :
    List (List Text) → Option FileError × FileTree
  | [] => (none, tree)
  | names :: outer =>
    let settle (tree : FileTree) (cause : FileError) : Option FileError × FileTree :=
      (if tree.isDirectory start names then none else some cause, tree)
    match tree.makeDirectory start names with
    | .ok tree => (none, tree)
    | .error .notFound =>
      match makeDirectories tree start outer with
      | (some cause, tree) => (some cause, tree)
      | (none, tree) =>
        match tree.makeDirectory start names with
        | .ok tree => (none, tree)
        | .error cause => settle tree cause
    | .error cause => settle tree cause

/-- Makes a directory and all above it that are missing. An empty path needs none. -/
def createDirectories (tree : FileTree) (path : Text) : Option FileError × FileTree :=
  if path.isEmpty then (none, tree)
  else
    match requirePath path with
    | .error cause => (some cause, tree)
    | .ok () => tree.makeDirectories (tree.origin path) (Path.names path :: Path.parents path)

/-- Writes a file, in the stead of one that stood there. -/
def writeFile (tree : FileTree) (path content : Text) : Except FileError FileTree :=
  if path.isEmpty then .error .notFound
  else do
    requirePath path
    let (parent, name) ← tree.followToLast (tree.origin path) (Path.names path)
    if name = Path.here ∨ name = Path.above ∨ Path.endsWithSlash path then .error .isADirectory
    else if greatestNameSize < name.utf8Size then .error .nameTooLong
    else
      match tree.get? (parent ++ [name]) with
      | some .directory => .error .isADirectory
      | _ => .ok (tree.put (parent ++ [name]) (.file content))

def readFile (tree : FileTree) (path : Text) : Except FileError Text :=
  if path.isEmpty then .error .notFound
  else do
    requirePath path
    let location ← tree.follow (tree.origin path) (Path.names path)
    match tree.get? location with
    | none => .error .notFound
    | some .directory => .error .isADirectory
    | some (.file content) =>
      if Path.endsWithSlash path then .error .notADirectory else .ok content

end FileTree

end TableModel
