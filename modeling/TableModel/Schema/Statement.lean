import TableModel.Schema.Literal

/-!
# Statements

What a schema document holds: a list of statements, of which those that create a table are kept with
the parts a model is made of. The body of a table lists its columns and its keys side by side, in the
order in which they were declared.
-/

namespace TableModel

/-- The type of a column as it was declared: the keyword, the parameters and the flags. -/
structure ColumnType where
  name : Text := ""
  params : List Literal := []
  unsigned : Bool := false
  zerofill : Bool := false
  deriving DecidableEq, Repr

structure Column where
  name : Text := ""
  dataType : ColumnType := {}
  allowNull : Bool := false
  autoIncrement : Bool := false
  defaultValue : Option Literal := none
  comment : Option Text := none
  deriving DecidableEq, Repr

/-- An entry in the body of a table. -/
inductive TableEntry where
  | column (column : Column)
  /-- The columns of the primary key, each once. -/
  | primaryKey (fields : List Text)
  /-- Any other key. It is no part of a model. -/
  | other
  deriving DecidableEq, Repr

/-- An option of a table, such as its comment. -/
structure TableOption where
  key : Text := ""
  value : Option Literal := none
  deriving DecidableEq, Repr

structure Table where
  name : Text := ""
  entries : List TableEntry := []
  options : List TableOption := []
  deriving DecidableEq, Repr

inductive Statement where
  | createTable (table : Table)
  /-- Any statement that does not create a table. -/
  | other
  deriving DecidableEq, Repr

end TableModel
