import TableModel.Files.Tree
import TableModel.Model.Generate

/-!
# Writing model files

Model files are written into a directory one after the other, and the chunks of a stream one after the
other: a chunk is turned into files as a whole before any of them is written, and the first failure
ends the run. What was written before a failure stays.
-/

namespace TableModel

/-- What a run that writes has come to. -/
structure Written where
  tree : FileTree
  /-- The files of the steps that were completed, in the order in which they were written. -/
  paths : List Text := []
  /-- The files of the step that failed. -/
  unfinished : List Text := []
  failure : Option Failure := none

/-- Writes files into a directory that exists; `done` are the paths written before. -/
def writeFiles (directory : Text) (done : List Text) : List ModelFile → FileTree → Written
  | [], tree => { tree, paths := done }
  | file :: files, tree =>
    let path := Path.join directory file.name
    match tree.writeFile path file.content with
    | .ok tree => writeFiles directory (done ++ [path]) files tree
    | .error cause => { tree, unfinished := done, failure := some (.file path cause) }

def writeModels (directory : Text) (files : List ModelFile) (tree : FileTree) : Written :=
  match tree.createDirectories directory with
  | (none, tree) => writeFiles directory [] files tree
  | (some cause, tree) => { tree, failure := some (.file directory cause) }

/-- Writes the files of chunks into a directory, chunk by chunk, up to the first failure. -/
def writeChunks (options : Options) (directory : Text) : List Chunk → FileTree → Written
  | [], tree => { tree }
  | chunk :: rest, tree =>
    match options.generateChunk chunk with
    | .error failure => { tree, failure := some failure }
    | .ok files =>
      let written := writeModels directory files tree
      match written.failure with
      | some _ => written
      | none =>
        let more := writeChunks options directory rest written.tree
        { more with paths := written.paths ++ more.paths }

/-- The text that shows a model file: its name as a comment, and its content. -/
def ModelFile.shown (file : ModelFile) : Text :=
  "// " ++ file.name ++ "\n" ++ file.content ++ "\n"

def showChunks (options : Options) : List Chunk → Text × Option Failure
  | [] => ([], none)
  | chunk :: rest =>
    match options.generateChunk chunk with
    | .error failure => ([], some failure)
    | .ok files =>
      let (text, failure) := showChunks options rest
      (files.flatMap ModelFile.shown ++ text, failure)

end TableModel
