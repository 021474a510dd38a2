import TableModel.Model.Generate

/-!
# Events

What a run has to tell on its way, apart from its result. Assembling tells about every column, and about
every statement and table that is left out, up to the first failure.
-/

namespace TableModel

inductive Level where
  | debug
  | info
  | error
  deriving DecidableEq, Repr

def Level.name : Level → Text
  | debug => "DEBUG"
  | info => "INFO"
  | error => "ERROR"

/-- Something that a run tells. -/
inductive Event where
  | ignoredStatement
  | unnamedTable
  | emptyTable (name : Text)
  | mappedColumn (name : Text) (dataType : TypeExpression)
  | generated (path : Text)
  | finished (count : Nat) (directory : Text)
  | failed (failure : Failure)
  deriving DecidableEq, Repr

namespace Event

def level : Event → Level
  | ignoredStatement | unnamedTable | emptyTable _ | mappedColumn _ _ => .debug
  | generated _ | finished _ _ => .info
  | failed _ => .error

def message : Event → Text
  | ignoredStatement => "Ignoring a statement which does not create a table"
  | unnamedTable => "Skipping a table without a name"
  | emptyTable name => "Skipping table `" ++ name ++ "` which has no columns"
  | mappedColumn name dataType => "Column `" ++ name ++ "` maps to " ++ dataType.text
  | generated path => path ++ " generated."
  | finished count directory => Text.ofNat count ++ " model(s) written to " ++ directory
  | failed failure => failure.message

def line (event : Event) : Text :=
  event.level.name ++ " " ++ event.message

end Event

/-- The events of columns up to the first whose type cannot be mapped, and whether there is none. -/
def columnEvents : List Column → List Event × Bool
  | [] => ([], true)
  | column :: rest =>
    match column.dataType.expression with
    | .ok dataType =>
      let (events, complete) := columnEvents rest
      (.mappedColumn column.name dataType :: events, complete)
    | .error _ => ([], false)

/-- The events of assembling a statement, and whether it succeeds. -/
def Statement.events : Statement → List Event × Bool
  | other => ([.ignoredStatement], true)
  | createTable table =>
    if table.name.isEmpty then ([.unnamedTable], true)
    else if table.namedColumns.isEmpty then ([.emptyTable table.name], true)
    else columnEvents table.namedColumns

/-- The events of assembling statements up to the first failure. -/
def assembleEvents : List Statement → List Event
  | [] => []
  | statement :: rest =>
    let (events, complete) := statement.events
    if complete then events ++ assembleEvents rest else events

def generateEvents (schema : Text) : List Event :=
  match readStatements schema with
  | .ok statements => assembleEvents statements
  | .error _ => []

end TableModel
