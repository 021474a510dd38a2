import TableModel.Text.Basic

/-!
# SQL types

The column types that a model can be made of, with their keywords. A keyword is recognised in capitals
only. A loaded value is a number in a script for the integer types, the other numeric types and the
year, and a string for everything else, also for a keyword that is not recognised.
-/

namespace TableModel

inductive SqlType where
  | tinyInt | smallInt | mediumInt | int | bigInt
  | decimal | float | double | bit
  | date | dateTime | timestamp | time | year
  | char | varChar | binary | varBinary
  | tinyBlob | blob | mediumBlob | longBlob
  | tinyText | text | mediumText | longText
  | json | enum | set
  | geometry | point | lineString | polygon
  | multiPoint | multiLineString | multiPolygon | geometryCollection
  deriving DecidableEq, Repr

/-- The type that a loaded value has in a script. -/
inductive ScriptType where
  | number
  | string
  deriving DecidableEq, Repr

def ScriptType.name : ScriptType → Text
  | number => "number"
  | string => "string"

namespace SqlType

def all : List SqlType := [
  tinyInt, smallInt, mediumInt, int, bigInt,
  decimal, float, double, bit,
  date, dateTime, timestamp, time, year,
  char, varChar, binary, varBinary,
  tinyBlob, blob, mediumBlob, longBlob,
  tinyText, text, mediumText, longText,
  json, enum, set,
  geometry, point, lineString, polygon,
  multiPoint, multiLineString, multiPolygon, geometryCollection]

def keyword : SqlType → Text
  | tinyInt => "TINYINT"
  | smallInt => "SMALLINT"
  | mediumInt => "MEDIUMINT"
  | int => "INT"
  | bigInt => "BIGINT"
  | decimal => "DECIMAL"
  | float => "FLOAT"
  | double => "DOUBLE"
  | bit => "BIT"
  | date => "DATE"
  | dateTime => "DATETIME"
  | timestamp => "TIMESTAMP"
  | time => "TIME"
  | year => "YEAR"
  | char => "CHAR"
  | varChar => "VARCHAR"
  | binary => "BINARY"
  | varBinary => "VARBINARY"
  | tinyBlob => "TINYBLOB"
  | blob => "BLOB"
  | mediumBlob => "MEDIUMBLOB"
  | longBlob => "LONGBLOB"
  | tinyText => "TINYTEXT"
  | text => "TEXT"
  | mediumText => "MEDIUMTEXT"
  | longText => "LONGTEXT"
  | json => "JSON"
  | enum => "ENUM"
  | set => "SET"
  | geometry => "GEOMETRY"
  | point => "POINT"
  | lineString => "LINESTRING"
  | polygon => "POLYGON"
  | multiPoint => "MULTIPOINT"
  | multiLineString => "MULTILINESTRING"
  | multiPolygon => "MULTIPOLYGON"
  | geometryCollection => "GEOMETRYCOLLECTION"

def ofKeyword? (name : Text) : Option SqlType :=
  all.find? (·.keyword == name)

def scriptType : SqlType → ScriptType
  | tinyInt | smallInt | mediumInt | int | bigInt | decimal | float | double | year => .number
  | _ => .string

end SqlType

/-- The script type of a column by its keyword. -/
def ScriptType.ofKeyword (name : Text) : ScriptType :=
  match SqlType.ofKeyword? name with
  | some t => t.scriptType
  | none => .string

end TableModel
