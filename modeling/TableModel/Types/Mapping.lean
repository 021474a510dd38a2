import TableModel.Schema.Statement
import TableModel.Types.Expression
import TableModel.Types.SqlType

/-!
# From column types to type expressions

The expression that declares a column of each SQL type. Some types have a name of their own in a model,
some have no exact counterpart and take the nearest one, and sets have none at all.
-/

namespace TableModel

/-- Why a column type has no expression. -/
inductive TypeError where
  | emptyType
  | unsupported (name : Text)
  | missingEnumValues
  deriving DecidableEq, Repr

def TypeError.message : TypeError → Text
  | emptyType => "data type is empty"
  | unsupported name => "data type " ++ name ++ " is not supported"
  | missingEnumValues => "data type ENUM must define values"

namespace ColumnType

/-- A symbol with the first parameter of the type, if it has one. -/
def withFirst (c : ColumnType) (symbol : Text) : TypeExpression :=
  { symbol, args := (c.params.head?.map Literal.toText).toList }

/-- A symbol with a fixed argument in quotes. -/
def fixed (symbol argument : Text) : TypeExpression :=
  { symbol, args := ["'" ++ argument ++ "'"] }

/-- A symbol with the first parameter and the flags of an integer type. -/
def integer (c : ColumnType) (symbol : Text) : TypeExpression :=
  ((c.withFirst symbol).withModifierIf c.unsigned "UNSIGNED").withModifierIf c.zerofill "ZEROFILL"

/-- A symbol with all parameters of the type. -/
def withAll (c : ColumnType) (symbol : Text) : TypeExpression :=
  { symbol, args := c.params.map Literal.toText }

def expressionFor (c : ColumnType) : SqlType → Except TypeError TypeExpression
  | .tinyInt => .ok (c.integer "TINYINT")
  | .smallInt => .ok (c.integer "SMALLINT")
  | .mediumInt => .ok (c.integer "MEDIUMINT")
  | .int => .ok (c.integer "INTEGER")
  | .bigInt => .ok (c.integer "BIGINT")
  | .decimal => .ok (c.withAll "DECIMAL")
  | .float => .ok (c.withAll "FLOAT")
  | .double => .ok (c.withAll "DOUBLE")
  | .bit => .ok (c.withAll "BIT")
  | .date => .ok (c.withFirst "DATEONLY")
  | .dateTime | .timestamp => .ok (c.withFirst "DATE")
  | .time => .ok (c.withFirst "TIME")
  | .year => .ok (c.withFirst "SMALLINT")
  | .char => .ok (c.withFirst "CHAR")
  | .varChar => .ok (c.withFirst "STRING")
  | .binary => .ok ((c.withFirst "CHAR").withModifier "BINARY")
  | .varBinary => .ok ((c.withFirst "STRING").withModifier "BINARY")
  | .tinyBlob => .ok (fixed "BLOB" "tiny")
  | .blob => .ok (c.withFirst "BLOB")
  | .mediumBlob => .ok (fixed "BLOB" "medium")
  | .longBlob => .ok (fixed "BLOB" "long")
  | .tinyText => .ok (fixed "TEXT" "tiny")
  | .text => .ok (c.withFirst "TEXT")
  | .mediumText => .ok (fixed "TEXT" "medium")
  | .longText => .ok (fixed "TEXT" "long")
  | .json => .ok { symbol := "JSON" }
  | .enum =>
    if c.params.isEmpty then .error .missingEnumValues
    else .ok { symbol := "ENUM", args := c.params.map Literal.escaped }
  | .set => .error (.unsupported c.name)
  | .geometry => .ok { symbol := "GEOMETRY" }
  | .point => .ok (fixed "GEOMETRY" "POINT")
  | .lineString => .ok (fixed "GEOMETRY" "LINESTRING")
  | .polygon => .ok (fixed "GEOMETRY" "POLYGON")
  | .multiPoint => .ok (fixed "GEOMETRY" "MULTIPOINT")
  | .multiLineString => .ok (fixed "GEOMETRY" "MULTILINESTRING")
  | .multiPolygon => .ok (fixed "GEOMETRY" "MULTIPOLYGON")
  | .geometryCollection => .ok (fixed "GEOMETRY" "GEOMETRYCOLLECTION")

def expression (c : ColumnType) : Except TypeError TypeExpression :=
  if c.name.isEmpty then .error .emptyType
  else
    match SqlType.ofKeyword? c.name with
    | some t => c.expressionFor t
    | none => .error (.unsupported c.name)

end ColumnType

end TableModel
