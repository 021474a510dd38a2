import TableModel.Types.Mapping

/-!
# Models

A model is what a table definition comes down to: the fields of a class of records, ready to be
written as a script.
-/

namespace TableModel

structure ModelField where
  name : Text
  dataType : TypeExpression
  isPrimaryKey : Bool := false
  allowNull : Bool := false
  autoIncrement : Bool := false
  defaultValue : Option Literal := none
  comment : Option Text := none
  scriptType : ScriptType := .string
  deriving DecidableEq, Repr

structure Model where
  tableName : Text
  /-- The singular of the table name. It names the file of the model. -/
  baseName : Text
  /-- In the order of the columns. -/
  fields : List ModelField
  comment : Option Text := none
  /-- The symbols of the type expressions, in the order of their first use. -/
  requiredSymbols : List Text
  deriving DecidableEq, Repr

/-- The default of a field as it stands in a script. -/
def ModelField.defaultText (field : ModelField) : Option Text :=
  field.defaultValue.map Literal.toScript

end TableModel
