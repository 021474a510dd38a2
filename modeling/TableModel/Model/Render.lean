import TableModel.Model.Basic
import TableModel.Text.Lines
import TableModel.Unicode.Uppercase

/-!
# The script of a model

The text of a model file: a function that defines the model, and a comment that describes its type. The
parts of the function are written without indentation, and each part that stands inside another one is
indented as a whole. The comment is not indented, and holds names and comments as they are.
-/

namespace TableModel

open Text

/-- What stands between the braces of a block, indented, with the comma behind the block. -/
def block (unit inner : Text) : Text :=
  "\x7b\n" ++ indent unit inner ++ "\n\x7d,"

/-- An attribute of an object: its name, its value and a comma. -/
def attributeLine (name value : Text) : Text :=
  name ++ ": " ++ value ++ ","

namespace ModelField

/-- The attributes of a field, a line each. -/
def attributes (field : ModelField) : List Text :=
  [attributeLine "type" field.dataType.text]
    ++ (if field.isPrimaryKey then [attributeLine "primaryKey" "true"] else [])
    ++ (if field.autoIncrement then [attributeLine "autoIncrement" "true"] else [])
    ++ (if field.allowNull then [] else [attributeLine "allowNull" "false"])
    ++ (field.defaultText.map (attributeLine "defaultValue")).toList
    ++ (field.comment.map fun comment => attributeLine "comment" (quote comment)).toList

def render (unit : Text) (field : ModelField) : Text :=
  field.name ++ ": " ++ block unit (joinLines field.attributes)

def property (field : ModelField) : Text :=
  " * @property \x7b " ++ field.scriptType.name ++ " \x7d " ++ field.name
    ++ field.comment.elim [] (' ' :: ·)

end ModelField

def renderFields (unit : Text) (fields : List ModelField) : Text :=
  block unit (joinLines (fields.map (·.render unit)))

namespace Model

/-- What the name of a type ends in. -/
def typeSuffix : Text := "_TYPE"

def renderOptions (unit : Text) (model : Model) : Text :=
  match model.comment with
  | some comment => block unit (attributeLine "comment" (quote comment))
  | none => []

/-- The arguments of the call that defines a model. -/
def arguments (unit : Text) (model : Model) : List Text :=
  [quote model.tableName ++ ",", renderFields unit model.fields, model.renderOptions unit].filter
    (!·.isEmpty)

def body (unit : Text) (model : Model) : Text :=
  joinLines [
    "const \x7b " ++ List.intercalate ", " model.requiredSymbols ++ " \x7d = app.Sequelize;",
    "const \x7b model \x7d = app;",
    "return model.define(",
    indent unit (joinLines (model.arguments unit)),
    ");"]

def typeHeader (model : Model) : Text :=
  " * @typedef \x7b Object \x7d " ++ model.tableName.toUppercase ++ typeSuffix

/-- The comment that describes the type of a model. -/
def typedef (model : Model) : Text :=
  joinLines ("/**" :: model.typeHeader :: (model.fields.map (·.property) ++ [" */".toList]))

/-- The text of a model file, with `unit` for each level of indentation. -/
def render (unit : Text) (model : Model) : Text :=
  joinLines [
    "/**",
    " * @param \x7b Egg.Application \x7d app egg app",
    " */",
    "module.exports = function(app) \x7b",
    indent unit (model.body unit),
    "\x7d;",
    "",
    model.typedef,
    ""]

end Model

end TableModel
