import TableModel.CommandLine.Arguments
import TableModel.Files.Writing
import TableModel.Model.Event

/-!
# Outcomes

What running the command line comes to: an exit code, what is printed, the events for the log, and the
files left behind. Misused arguments end in code 2, a failure in code 1 with an event of its own, and a
fault in code 101 without one.
-/

namespace TableModel

/-- What a run of the command line comes to. -/
structure Outcome where
  code : Nat := 0
  stdout : Text := ""
  events : List Event := []
  tree : FileTree

namespace Outcome

def failureCode : Failure → Nat
  | .fault _ => 101
  | _ => 1

/-- The events that end a run with a failure. -/
def failureEvents : Failure → List Event
  | .fault _ => []
  | failure => [.failed failure]

def fail (outcome : Outcome) (failure : Failure) : Outcome :=
  { outcome with
    code := failureCode failure
    events := outcome.events ++ failureEvents failure }

def readInput (input : InputArguments) (stdin : Text) (tree : FileTree) : Except Failure Text :=
  match input.path with
  | none => .ok stdin
  | some path =>
    match tree.readFile path with
    | .ok text => .ok text
    | .error cause => .error (.file path cause)

/-- Writes the model files of a text into a directory. -/
def ofGenerate (options : Options) (directory text : Text) (tree : FileTree) : Outcome :=
  let written := writeChunks options directory (chunks text) tree
  let outcome : Outcome :=
    { events := (written.paths ++ written.unfinished).map .generated, tree := written.tree }
  match written.failure with
  | none => { outcome with events := outcome.events ++ [.finished written.paths.length directory] }
  | some failure => outcome.fail failure

/-- Prints the model files of a text. -/
def ofRender (options : Options) (text : Text) (tree : FileTree) : Outcome :=
  let (stdout, failure) := showChunks options (chunks text)
  match failure with
  | none => { stdout, tree }
  | some failure => ({ stdout, tree } : Outcome).fail failure

def versionText : Text := "eggmodel-cli 0.0.1\n"

def usageText : Text :=
  "Usage: (generate|render) [--indent N] [--extension EXT] [-o DIR] [INPUT]\n"

def ofCommand (stdin : Text) (tree : FileTree) : Command → Outcome
  | .help => { stdout := usageText, tree }
  | .version => { stdout := versionText, tree }
  | .generate input directory =>
    match readInput input stdin tree with
    | .ok text => ofGenerate input.options directory text tree
    | .error failure => ({ tree } : Outcome).fail failure
  | .render input =>
    match readInput input stdin tree with
    | .ok text => ofRender input.options text tree
    | .error failure => ({ tree } : Outcome).fail failure

/-- The outcome of a run with some arguments. -/
def ofArguments (arguments : List Text) (stdin : Text) (tree : FileTree) : Outcome :=
  match Command.ofArguments? arguments with
  | some command => ofCommand stdin tree command
  | none => { code := 2, tree }

end Outcome

end TableModel
