import TableModel.Model.Basic
import TableModel.Model.Failure

/-!
# From tables to models

A table gives a model if it has a name and at least one column with a name. Columns without a name are
left out, whatever their type. The first column in order whose type cannot be mapped decides the
failure. Only the first primary key declared counts, and the comment of the table is its first
comment option that has a value.
-/

namespace TableModel

/-- Finds the singular of a table name. -/
abbrev Inflector := Text → Except Fault Text

/-- Takes every word for its own singular. -/
def Inflector.verbatim : Inflector := .ok

def commentKey : Text := "COMMENT"

namespace Table

/-- The columns that have a name, in order. -/
def namedColumns (table : Table) : List Column :=
  table.entries.filterMap fun
    | .column c => if c.name.isEmpty then none else some c
    | _ => none

/-- The columns of the first primary key. -/
def primaryKey (table : Table) : List Text :=
  (table.entries.findSome? fun
    | .primaryKey fields => some fields
    | _ => none).getD []

def comment (table : Table) : Option Text :=
  (table.options.findSome? fun option =>
    if option.key = commentKey then option.value else none).map Literal.toText

/-- The field of a column. An empty comment counts as none. -/
def field (table : Table) (column : Column) : Except Failure ModelField :=
  match column.dataType.expression with
  | .error cause => .error (.column table.name column.name cause)
  | .ok dataType => .ok {
      name := column.name
      dataType
      isPrimaryKey := table.primaryKey.contains column.name
      allowNull := column.allowNull
      autoIncrement := column.autoIncrement
      defaultValue := column.defaultValue
      comment := column.comment.filter (!·.isEmpty)
      scriptType := ScriptType.ofKeyword column.dataType.name }

/-- The model of a table, if it has one. -/
def assemble (inflect : Inflector) (table : Table) : Except Failure (Option Model) :=
  if table.name.isEmpty then .ok none
  else do
    let fields ← table.namedColumns.mapM table.field
    if fields.isEmpty then .ok none
    else
      match inflect table.name with
      | .error cause => .error (.fault cause)
      | .ok baseName => .ok (some {
          tableName := table.name
          baseName
          fields
          comment := table.comment
          requiredSymbols := (fields.map (·.dataType.symbol)).eraseDups })

end Table

namespace Statement

def assemble (inflect : Inflector) : Statement → Except Failure (Option Model)
  | createTable table => table.assemble inflect
  | other => .ok none

end Statement

/-- The models of statements in order, or the first failure. -/
def assembleAll (inflect : Inflector) : List Statement → Except Failure (List Model)
  | [] => .ok []
  | statement :: rest => do
    let model ← statement.assemble inflect
    let models ← assembleAll inflect rest
    .ok (model.toList ++ models)

end TableModel
