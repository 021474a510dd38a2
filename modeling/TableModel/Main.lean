import TableModel.CommandLine.Program

/-!
# The program

The command line on a real file system. What the program does is decided elsewhere; here a system call
answers each thing that it asks for.
-/

namespace TableModel

/-- Whether a code is that of an error of the system. Some calls give it with its sign changed. -/
def isErrorCode (code number : UInt32) : Bool :=
  code == number || code == -number

def FileError.ofSystem : IO.Error → FileError
  | .noFileOrDirectory .. => .notFound
  | .alreadyExists .. => .alreadyExists
  | .inappropriateType _ code _ => if isErrorCode code 20 then .notADirectory else .isADirectory
  | .invalidArgument _ code _ => if isErrorCode code 36 then .nameTooLong else .invalidPath
  | error => .refused error.toString

/-- Does something, or says why that fails. -/
def attempt {α : Type} (action : IO α) : IO (Except FileError α) := do
  try
    let result ← action
    return .ok result
  catch error =>
    return .error (.ofSystem error)

def textOfBytes (bytes : ByteArray) : Except FileError Text :=
  match String.fromUTF8? bytes with
  | some text => .ok text.toList
  | none => .error .notText

/-- The machine that the program runs on. Details among the events are not shown. -/
def Host.machine : Host IO where
  makeDirectory path := attempt (IO.FS.createDir (String.ofList path))
  isDirectory path := return (← attempt (IO.FS.realPath (String.ofList (path ++ "/.")))).isOk
  writeFile path content := attempt (IO.FS.writeFile (String.ofList path) (String.ofList content))
  readFile path := return (← attempt (IO.FS.readBinFile (String.ofList path))) >>= textOfBytes
  readInput := return (← attempt do (← IO.getStdin).readBinToEnd) >>= textOfBytes
  print text := IO.print (String.ofList text)
  tell event := do
    if event.level ≠ .debug then
      (← IO.getStderr).putStrLn (String.ofList event.line)

end TableModel

open TableModel in
def main (arguments : List String) : IO UInt32 := do
  let code ← Host.machine.run (arguments.map String.toList)
  return code.toUInt32
