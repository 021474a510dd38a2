import TableModel.Files.Writing
import TableModel.Model.Event

/-!
# Hosts

What the program asks of the machine that it runs on, and the loops that make directories and write
files there. A loop does not know its host: it is the same one on a real file system and on a file tree.
-/

namespace TableModel

/-- What can be asked for. Whatever goes wrong is an answer, too. -/
structure Host (m : Type → Type) where
  makeDirectory : Text → m (Except FileError Unit)
  isDirectory : Text → m Bool
  writeFile (path content : Text) : m (Except FileError Unit)
  readFile : Text → m (Except FileError Text)
  /-- All of standard input. -/
  readInput : m (Except FileError Text)
  print : Text → m Unit
  tell : Event → m Unit

def Path.parentPaths (path : Text) : List Text :=
  (parents path).map (ofNames (isAbsolute path))

namespace Host

variable {m : Type → Type} [Monad m] (host : Host m)

/-- Drops the reason why a directory cannot be made if it is there. -/
def settle (path : Text) (cause : FileError) : m (Option FileError) := do
  return if ← host.isDirectory path then none else some cause

/-- Makes the first of some directories, given from the innermost outwards, and as many of the others
as it takes. -/
def makeDirectories : List Text → m (Option FileError)
  | [] => return none
  | path :: outer => do
    match ← host.makeDirectory path with
    | .ok () => return none
    | .error .notFound =>
      match ← makeDirectories outer with
      | some cause => return some cause
      | none =>
        match ← host.makeDirectory path with
        | .ok () => return none
        | .error cause => host.settle path cause
    | .error cause => host.settle path cause

def createDirectories (path : Text) : m (Option FileError) :=
  if path.isEmpty then return none else host.makeDirectories (path :: Path.parentPaths path)

/-- Writes files into a directory that exists, and tells of each. -/
def writeFiles (directory : Text) : List ModelFile → m (Option Failure)
  | [] => return none
  | file :: files => do
    let path := Path.join directory file.name
    match ← host.writeFile path file.content with
    | .error cause => return some (.file path cause)
    | .ok () =>
      host.tell (.generated path)
      writeFiles directory files

def writeModels (directory : Text) (files : List ModelFile) : m (Option Failure) := do
  match ← host.createDirectories directory with
  | some cause => return some (.file directory cause)
  | none => host.writeFiles directory files

/-- Writes the files of chunks into a directory, and tells in the end how many there are; `count` were
written before. -/
def writeChunks (options : Options) (directory : Text) (count : Nat) :
    List Chunk → m (Option Failure)
  | [] => do
    host.tell (.finished count directory)
    return none
  | chunk :: rest =>
    match options.generateChunk chunk with
    | .error failure => return some failure
    | .ok files => do
      match ← host.writeModels directory files with
      | some failure => return some failure
      | none => writeChunks options directory (count + files.length) rest

end Host

end TableModel
