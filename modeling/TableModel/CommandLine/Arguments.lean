import TableModel.Model.Generate

/-!
# Arguments

The arguments of the command line. A command comes first, and then its options and at most one path in
any order. An option takes a value, either behind an equals sign or as the next argument; a value that
starts with a dash can only be given in the first way. Two dashes end the options. No option may be
given twice.
-/

namespace TableModel

/-- Where a command reads its schema and how it lays out the files. -/
structure InputArguments where
  /-- The file to read; standard input if there is none. -/
  path : Option Text := none
  indentWidth : Nat := 4
  extension : Text := "js"
  deriving DecidableEq, Repr

def InputArguments.options (input : InputArguments) : Options :=
  { indentWidth := input.indentWidth, extension := input.extension }

inductive Command where
  | help
  | version
  | generate (input : InputArguments) (directory : Text)
  | render (input : InputArguments)
  deriving DecidableEq, Repr

namespace Command

inductive Setting where
  | indent
  | extension
  | outputDirectory
  deriving DecidableEq, Repr

/-- What has been given so far. -/
structure Given where
  settings : List (Setting × Text) := []
  path : Option Text := none
  deriving DecidableEq, Repr

/-- What a command line stops at before its end. -/
inductive Stop where
  | help
  | misuse
  deriving DecidableEq, Repr

/-- The value of a width: digits, perhaps behind a plus sign, that fit 64 bits. -/
def width? (t : Text) : Option Nat :=
  let digits := if t.head? = some '+' then t.drop 1 else t
  if digits.isEmpty || !digits.all Char.isDigit then none
  else
    let width := Nat.ofDigitChars 10 digits 0
    if width < UInt64.size then some width else none

def Setting.accepts : Setting → Text → Bool
  | indent, value => (width? value).isSome
  | extension, _ => true
  | outputDirectory, value => !value.isEmpty

def Given.set (given : Given) (setting : Setting) (value : Text) : Except Stop Given :=
  if given.settings.any (·.1 == setting) || !setting.accepts value then .error .misuse
  else .ok { given with settings := given.settings ++ [(setting, value)] }

def Given.setPath (given : Given) (path : Text) : Except Stop Given :=
  if given.path.isSome || path.isEmpty then .error .misuse
  else .ok { given with path := some path }

/-- What an argument that starts with a dash is. -/
inductive Flag where
  | help
  /-- An option without a value: the next argument is its value. -/
  | awaits (setting : Setting)
  | given (setting : Setting) (value : Text)

def longSetting? (writes : Bool) (name : Text) : Option Setting :=
  if name = "indent" then some .indent
  else if name = "extension" then some .extension
  else if name = "output-dir" ∧ writes then some .outputDirectory
  else none

/-- The text before an equals sign, and the text behind it if there is one. -/
def splitEquals : Text → Text × Option Text
  | [] => ([], none)
  | c :: rest =>
    if c = '=' then ([], some rest)
    else
      let (name, value) := splitEquals rest
      (c :: name, value)

/-- What stands behind two dashes; `writes` says whether the command has an output directory. -/
def longFlag (writes : Bool) (t : Text) : Except Stop Flag :=
  let (name, value) := splitEquals t
  match longSetting? writes name, value with
  | some setting, none => .ok (.awaits setting)
  | some setting, some value => .ok (.given setting value)
  | none, none => if name = "help" then .ok .help else .error .misuse
  | none, some _ => .error .misuse

def shortFlag (writes : Bool) : Text → Except Stop Flag
  | [] => .error .misuse
  | c :: rest =>
    if c = 'h' then .ok .help
    else if c = 'o' ∧ writes then
      match rest with
      | [] => .ok (.awaits .outputDirectory)
      | '=' :: value => .ok (.given .outputDirectory value)
      | value => .ok (.given .outputDirectory value)
    else .error .misuse

/-- The option that an argument is, if it is none of the path and the value of an option. -/
def flag? (writes : Bool) : Text → Option (Except Stop Flag)
  | '-' :: '-' :: rest => some (longFlag writes rest)
  | '-' :: c :: rest => some (shortFlag writes (c :: rest))
  | _ => none

/-- Takes the arguments behind a command; `awaiting` is an option that still needs its value. -/
def collect (writes : Bool) (awaiting : Option Setting) (given : Given) :
    List Text → Except Stop Given
  | [] => if awaiting.isSome then .error .misuse else .ok given
  | argument :: rest =>
    if argument = "--" then do
      let given ← rest.foldlM Given.setPath given
      if awaiting.isSome then .error .misuse else .ok given
    else
      match flag? writes argument, awaiting with
      | some (.error stop), _ => .error stop
      | some (.ok .help), none => .error .help
      | some (.ok (.awaits setting)), none =>
        if given.settings.any (·.1 == setting) then .error .misuse
        else collect writes (some setting) given rest
      | some (.ok (.given setting value)), none => do
        let given ← given.set setting value
        collect writes none given rest
      | some (.ok _), some _ => .error .misuse
      | none, some setting => do
        let given ← given.set setting argument
        collect writes none given rest
      | none, none => do
        let given ← given.setPath argument
        collect writes none given rest

def Given.value? (given : Given) (setting : Setting) : Option Text :=
  given.settings.lookup setting

def Given.input (given : Given) : InputArguments where
  path := given.path
  indentWidth := ((given.value? .indent).bind width?).getD 4
  extension := (given.value? .extension).getD "js"

def Given.directory (given : Given) : Text :=
  (given.value? .outputDirectory).getD "./model"

def ofGiven (command : Given → Command) : Except Stop Given → Option Command
  | .ok given => some (command given)
  | .error .help => some .help
  | .error .misuse => none

/-- The command that arguments say, or nothing if they are misused. -/
def ofArguments? : List Text → Option Command
  | [] => none
  | first :: rest =>
    if first = "generate" then
      ofGiven (fun given => generate given.input given.directory) (collect true none {} rest)
    else if first = "render" then
      ofGiven (fun given => render given.input) (collect false none {} rest)
    else if first = "help" then
      if rest = [] ∨ rest = ["generate".toList] ∨ rest = ["render".toList] ∨ rest = ["help".toList]
      then some help else none
    else if first = "--help" ∨ first.take 2 = "-h" then some help
    else if first = "--version" ∨ first.take 2 = "-V" then some version
    else none

end Command

end TableModel
