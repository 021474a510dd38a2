import TableModel.CommandLine.Outcome
import TableModel.Files.Host

/-!
# The program on a host

What the program does with its arguments, whatever host it runs on.
-/

namespace TableModel

namespace Host

variable {m : Type → Type} [Monad m] (host : Host m)

def takeInput (input : InputArguments) : m (Except Failure Text) :=
  match input.path with
  | some path => return (← host.readFile path).mapError (.file path)
  | none => return (← host.readInput).mapError (.file "<stdin>")

def perform : Command → m (Option Failure)
  | .help => do
    host.print Outcome.usageText
    return none
  | .version => do
    host.print Outcome.versionText
    return none
  | .generate input directory => do
    match ← host.takeInput input with
    | .error failure => return some failure
    | .ok text => host.writeChunks input.options directory 0 (chunks text)
  | .render input => do
    match ← host.takeInput input with
    | .error failure => return some failure
    | .ok text =>
      let (shown, failure) := showChunks input.options (chunks text)
      host.print shown
      return failure

/-- Tells of a failure, and gives the exit code. -/
def report : Option Failure → m Nat
  | none => return 0
  | some failure => do
    (Outcome.failureEvents failure).forM host.tell
    return Outcome.failureCode failure

def run (arguments : List Text) : m Nat :=
  match Command.ofArguments? arguments with
  | none => return 2
  | some command => do
    let failure ← host.perform command
    host.report failure

end Host

end TableModel
