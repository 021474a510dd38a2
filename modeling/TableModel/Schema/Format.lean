import TableModel.Json.Record
import TableModel.Json.Tagged
import TableModel.Schema.Statement

/-!
# The schema format

How the parts of a schema document are written in JSON. Every record may leave out its fields, only an
option needs its key. The titles are the words that messages use for the parts.
-/

namespace TableModel

def ColumnType.format : RecordFormat ColumnType where
  title := "struct RawDataType"
  fields := [
    .of "type" .string fun r name => { r with name },
    .of "params" (.list "a sequence" Literal.decoder) fun r params => { r with params },
    .of "unsigned" .boolean fun r unsigned => { r with unsigned },
    .of "zerofill" .boolean fun r zerofill => { r with zerofill }]
  start := {}

def Column.format : RecordFormat Column where
  title := "struct RawColumn"
  fields := [
    .of "name" .string fun r name => { r with name },
    .of "data_type" ColumnType.format.decoder fun r dataType => { r with dataType },
    .of "allow_null" .boolean fun r allowNull => { r with allowNull },
    .of "auto_increment" .boolean fun r autoIncrement => { r with autoIncrement },
    .of "default_value" (.optional Literal.decoder) fun r defaultValue => { r with defaultValue },
    .of "comment" (.optional .string) fun r comment => { r with comment }]
  start := {}

/-- A primary key: the set of its columns. -/
def primaryKeyFormat : RecordFormat (List Text) where
  title := "struct PrimaryKeyDecl"
  fields := [.of "fields" (.map List.eraseDups (.list "a set" .string)) fun _ fields => fields]
  start := []

def TableEntry.format : TaggedFormat TableEntry where
  title := "internally tagged enum RawTableEntry"
  variants := [
    ("column", Column.format.decoder.map .column),
    ("primary_key", primaryKeyFormat.decoder.map .primaryKey)]
  other := .other

def TableOption.format : RecordFormat TableOption where
  title := "struct RawOption"
  fields := [
    .of "key" .string (fun r key => { r with key }) true,
    .of "value" (.optional Literal.decoder) fun r value => { r with value }]
  start := {}

def Table.format : RecordFormat Table where
  title := "struct RawTable"
  fields := [
    .of "name" .string fun r name => { r with name },
    .of "columns" (.list "a sequence" TableEntry.format.decoder) fun r entries => { r with entries },
    .of "options" (.list "a sequence" TableOption.format.decoder) fun r options => { r with options }]
  start := {}

def Statement.format : TaggedFormat Statement where
  title := "internally tagged enum RawStatement"
  variants := [("create_table", Table.format.decoder.map .createTable)]
  other := .other

def statementsDecoder : Decoder (List Statement) :=
  .list "a sequence" Statement.format.decoder

end TableModel
