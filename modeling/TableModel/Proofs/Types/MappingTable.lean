import Mathlib.Data.List.Basic
import TableModel.Proofs.Model.Imports

/-!
# The table of type expressions

Which expression declares a column of each type, written down as a table: a row for each keyword, with the symbol that
the expression starts with and the shape of what stands behind it. A shape takes the parameters of the type, or the
first of them, or none, and only the shape of integers takes the flags. So what an expression does not take cannot
change it.
-/

namespace TableModel

variable {c other : ColumnType} {e : TypeExpression} {t : SqlType} {name : Text}

/-! ### The table -/

/-- What stands behind the symbol of an expression. -/
inductive ExpressionShape where
  /-- Nothing, whatever the parameters are. -/
  | bare
  /-- The first parameter. -/
  | first
  /-- The first parameter, and the modifier of a type of bytes. -/
  | binary
  /-- The first parameter, and a modifier for each flag that is set. -/
  | integer
  /-- All parameters. -/
  | all
  /-- All parameters, as the values of an enumeration. -/
  | values
  /-- An argument in quotes that does not come from the parameters. -/
  | fixed (argument : Text)
  deriving DecidableEq, Repr

def firstText : List Literal → Text
  | [] => ""
  | parameter :: _ => "(" ++ parameter.toText ++ ")"

/-- Parameters in parentheses with commas between them, if there are any. -/
def allText (print : Literal → Text) : List Literal → Text
  | [] => ""
  | parameters => "(" ++ List.intercalate "," (parameters.map print) ++ ")"

def flagText (flag : Bool) (modifier : Text) : Text :=
  if flag then "." ++ modifier else ""

/-- A value of an enumeration. A text has its first quote escaped. -/
def valueText : Literal → Text
  | .number n => n.text
  | .text t => t.escapeQuote

def ExpressionShape.text (c : ColumnType) : ExpressionShape → Text
  | bare => ""
  | first => firstText c.params
  | binary => firstText c.params ++ ".BINARY"
  | integer => firstText c.params ++ flagText c.unsigned "UNSIGNED" ++ flagText c.zerofill "ZEROFILL"
  | all => allText Literal.toText c.params
  | values => allText valueText c.params
  | fixed argument => "('" ++ argument ++ "')"

structure Mapping where
  keyword : Text
  symbol : Text
  shape : ExpressionShape
  deriving DecidableEq, Repr

/-- The keyword of the type that is known and has no row. -/
def setKeyword : Text := "SET"

/-- The keyword of the type that has no expression without parameters. -/
def enumKeyword : Text := "ENUM"

def mappingTable : List Mapping := [
  ⟨"TINYINT", "TINYINT", .integer⟩,
  ⟨"SMALLINT", "SMALLINT", .integer⟩,
  ⟨"MEDIUMINT", "MEDIUMINT", .integer⟩,
  ⟨"INT", "INTEGER", .integer⟩,
  ⟨"BIGINT", "BIGINT", .integer⟩,
  ⟨"DECIMAL", "DECIMAL", .all⟩,
  ⟨"FLOAT", "FLOAT", .all⟩,
  ⟨"DOUBLE", "DOUBLE", .all⟩,
  ⟨"BIT", "BIT", .all⟩,
  ⟨"DATE", "DATEONLY", .first⟩,
  ⟨"DATETIME", "DATE", .first⟩,
  ⟨"TIMESTAMP", "DATE", .first⟩,
  ⟨"TIME", "TIME", .first⟩,
  ⟨"YEAR", "SMALLINT", .first⟩,
  ⟨"CHAR", "CHAR", .first⟩,
  ⟨"VARCHAR", "STRING", .first⟩,
  ⟨"BINARY", "CHAR", .binary⟩,
  ⟨"VARBINARY", "STRING", .binary⟩,
  ⟨"TINYBLOB", "BLOB", .fixed "tiny"⟩,
  ⟨"BLOB", "BLOB", .first⟩,
  ⟨"MEDIUMBLOB", "BLOB", .fixed "medium"⟩,
  ⟨"LONGBLOB", "BLOB", .fixed "long"⟩,
  ⟨"TINYTEXT", "TEXT", .fixed "tiny"⟩,
  ⟨"TEXT", "TEXT", .first⟩,
  ⟨"MEDIUMTEXT", "TEXT", .fixed "medium"⟩,
  ⟨"LONGTEXT", "TEXT", .fixed "long"⟩,
  ⟨"JSON", "JSON", .bare⟩,
  ⟨"ENUM", "ENUM", .values⟩,
  ⟨"GEOMETRY", "GEOMETRY", .bare⟩,
  ⟨"POINT", "GEOMETRY", .fixed "POINT"⟩,
  ⟨"LINESTRING", "GEOMETRY", .fixed "LINESTRING"⟩,
  ⟨"POLYGON", "GEOMETRY", .fixed "POLYGON"⟩,
  ⟨"MULTIPOINT", "GEOMETRY", .fixed "MULTIPOINT"⟩,
  ⟨"MULTILINESTRING", "GEOMETRY", .fixed "MULTILINESTRING"⟩,
  ⟨"MULTIPOLYGON", "GEOMETRY", .fixed "MULTIPOLYGON"⟩,
  ⟨"GEOMETRYCOLLECTION", "GEOMETRY", .fixed "GEOMETRYCOLLECTION"⟩]

def recognisedKeywords : List Text :=
  setKeyword :: mappingTable.map (·.keyword)

/-- Two column types have all in common that a shape takes of them. -/
def ExpressionShape.Agree (c other : ColumnType) : ExpressionShape → Prop
  | bare | fixed _ => True
  | first | binary => c.params.head? = other.params.head?
  | integer => c.params.head? = other.params.head? ∧ c.unsigned = other.unsigned ∧ c.zerofill = other.zerofill
  | all | values => c.params = other.params

/-! ### The rows of types -/

namespace SqlType

/-- The shape of the expressions for a type. There is none for a set. -/
def shape : SqlType → ExpressionShape
  | tinyInt | smallInt | mediumInt | int | bigInt => .integer
  | decimal | float | double | bit => .all
  | date | dateTime | timestamp | time | year | char | varChar | blob | text => .first
  | binary | varBinary => .binary
  | tinyBlob | tinyText => .fixed "tiny"
  | mediumBlob | mediumText => .fixed "medium"
  | longBlob | longText => .fixed "long"
  | json | geometry | set => .bare
  | enum => .values
  | point => .fixed "POINT"
  | lineString => .fixed "LINESTRING"
  | polygon => .fixed "POLYGON"
  | multiPoint => .fixed "MULTIPOINT"
  | multiLineString => .fixed "MULTILINESTRING"
  | multiPolygon => .fixed "MULTIPOLYGON"
  | geometryCollection => .fixed "GEOMETRYCOLLECTION"

theorem mem_all (t : SqlType) : t ∈ all := by
  cases t <;> decide

theorem ofKeyword?_keyword (t : SqlType) : ofKeyword? t.keyword = some t := by
  have hall : ∀ t ∈ all, ofKeyword? t.keyword = some t := by decide +kernel
  exact hall t t.mem_all

/-- No two types have the same keyword. -/
theorem ofKeyword?_eq_some_iff : ofKeyword? name = some t ↔ t.keyword = name := by
  constructor
  · intro h
    exact beq_iff_eq.1 (List.find?_some (p := fun t => keyword t == name) h)
  · rintro rfl
    exact t.ofKeyword?_keyword

theorem ofKeyword?_eq_none_iff : ofKeyword? name = none ↔ ∀ t : SqlType, t.keyword ≠ name := by
  rw [Option.eq_none_iff_forall_ne_some]
  exact forall_congr' fun t => not_congr ofKeyword?_eq_some_iff

end SqlType

theorem mappingTable_eq : mappingTable =
    (SqlType.all.filter (· ≠ .set)).map fun t => ⟨t.keyword, t.symbol, t.shape⟩ := by
  decide +kernel

theorem mem_mappingTable {row : Mapping} :
    row ∈ mappingTable ↔ ∃ t : SqlType, t ≠ .set ∧ row = ⟨t.keyword, t.symbol, t.shape⟩ := by
  rw [mappingTable_eq, List.mem_map]
  constructor
  · rintro ⟨t, ht, rfl⟩
    exact ⟨t, by simpa using (List.mem_filter.1 ht).2, rfl⟩
  · rintro ⟨t, ht, rfl⟩
    exact ⟨t, List.mem_filter.2 ⟨t.mem_all, by simpa using ht⟩, rfl⟩

theorem mem_recognisedKeywords : name ∈ recognisedKeywords ↔ ∃ t : SqlType, t.keyword = name := by
  rw [recognisedKeywords, List.mem_cons, List.mem_map]
  constructor
  · rintro (rfl | ⟨row, hrow, rfl⟩)
    · exact ⟨.set, rfl⟩
    · obtain ⟨t, -, rfl⟩ := mem_mappingTable.1 hrow
      exact ⟨t, rfl⟩
  · rintro ⟨t, rfl⟩
    by_cases hset : t = .set
    · rw [hset]
      exact .inl rfl
    · exact .inr ⟨_, mem_mappingTable.2 ⟨t, hset, rfl⟩, rfl⟩

theorem SqlType.keyword_inj {other : SqlType} (h : t.keyword = other.keyword) : t = other := by
  rw [← ofKeyword?_eq_some_iff, ofKeyword?_keyword] at h
  exact (Option.some.inj h).symm

/-! ### The texts of expressions -/

theorem TypeExpression.text_withModifier (e : TypeExpression) (modifier : Text) :
    (e.withModifier modifier).text = e.text ++ '.' :: modifier := by
  simp [text, withModifier, List.flatMap_append, List.append_assoc]

theorem TypeExpression.text_withModifierIf (e : TypeExpression) (condition : Bool) (modifier : Text) :
    (e.withModifierIf condition modifier).text = e.text ++ flagText condition modifier := by
  cases condition with
  | false => exact (List.append_nil e.text).symm
  | true => exact e.text_withModifier modifier

namespace ColumnType

theorem text_withFirst (c : ColumnType) (symbol : Text) :
    (c.withFirst symbol).text = symbol ++ firstText c.params := by
  rw [withFirst, TypeExpression.text]
  cases c.params with
  | nil => exact List.append_nil _
  | cons parameter rest => simp [TypeExpression.argsText, firstText]

theorem text_args {print : Literal → Text} (symbol : Text) (parameters : List Literal) :
    TypeExpression.text { symbol, args := parameters.map print } = symbol ++ allText print parameters := by
  rw [TypeExpression.text]
  cases parameters with
  | nil => exact List.append_nil _
  | cons parameter rest => exact List.append_nil _

theorem text_fixed (symbol argument : Text) : (fixed symbol argument).text = symbol ++ ("('" ++ argument ++ "')") := by
  simp [fixed, TypeExpression.text, TypeExpression.argsText]

theorem text_integer (c : ColumnType) (symbol : Text) :
    (c.integer symbol).text = symbol ++ ExpressionShape.integer.text c := by
  rw [integer, TypeExpression.text_withModifierIf, TypeExpression.text_withModifierIf, text_withFirst,
    ExpressionShape.text, List.append_assoc, List.append_assoc, List.append_assoc]

theorem escaped_eq (parameter : Literal) : parameter.escaped = valueText parameter := by
  cases parameter <;> rfl

theorem text_of_expressionFor (h : c.expressionFor t = .ok e) : e.text = t.symbol ++ t.shape.text c := by
  cases t with
  | tinyInt | smallInt | mediumInt | int | bigInt =>
    cases h
    exact c.text_integer _
  | decimal | float | double | bit =>
    cases h
    exact text_args _ c.params
  | date | dateTime | timestamp | time | year | char | varChar | blob | text =>
    cases h
    exact c.text_withFirst _
  | binary | varBinary =>
    cases h
    rw [TypeExpression.text_withModifier, text_withFirst, List.append_assoc]
    rfl
  | json | geometry =>
    cases h
    rfl
  | enum =>
    rw [expressionFor] at h
    split at h
    · cases h
    · cases h
      rw [funext escaped_eq]
      exact text_args _ c.params
  | set => cases h
  | _ =>
    cases h
    exact text_fixed _ _

/-! ### Which types have an expression -/

theorem expressionFor_eq_error_iff {cause : TypeError} : c.expressionFor t = .error cause ↔
    t = .set ∧ cause = .unsupported c.name ∨ t = .enum ∧ c.params = [] ∧ cause = .missingEnumValues := by
  cases t with
  | enum =>
    rw [expressionFor]
    by_cases hparams : c.params = []
    · simp [hparams, eq_comm]
    · simp [hparams]
  | set => simp [expressionFor, eq_comm]
  | _ => simp [expressionFor]

theorem expression_of_keyword (h : t.keyword = c.name) : c.expression = c.expressionFor t := by
  have hname : c.name.isEmpty = false := by
    rw [← h]
    cases t <;> rfl
  rw [expression, hname, if_neg Bool.false_ne_true, SqlType.ofKeyword?_eq_some_iff.2 h]

theorem expression_of_unknown (hname : c.name ≠ []) (h : c.name ∉ recognisedKeywords) :
    c.expression = .error (.unsupported c.name) := by
  have hnone : SqlType.ofKeyword? c.name = none := by
    rw [SqlType.ofKeyword?_eq_none_iff]
    exact fun t ht => h (mem_recognisedKeywords.2 ⟨t, ht⟩)
  rw [expression, List.isEmpty_eq_false_iff.2 hname, if_neg Bool.false_ne_true, hnone]

/-- The reasons for which a column type has no expression. -/
theorem expression_eq_error_iff {cause : TypeError} : c.expression = .error cause ↔
    c.name = [] ∧ cause = .emptyType ∨
    c.name ≠ [] ∧ (c.name ∉ recognisedKeywords ∨ c.name = setKeyword) ∧ cause = .unsupported c.name ∨
    c.name = enumKeyword ∧ c.params = [] ∧ cause = .missingEnumValues := by
  by_cases hname : c.name = []
  · have hexpression : c.expression = .error .emptyType := by
      rw [expression, hname]
      rfl
    have henum : [] ≠ enumKeyword := by decide
    simp [hexpression, hname, henum, eq_comm]
  by_cases hknown : c.name ∈ recognisedKeywords
  · obtain ⟨t, ht⟩ := mem_recognisedKeywords.1 hknown
    have hset : c.name = setKeyword ↔ t = .set := by
      rw [← ht]
      exact ⟨@SqlType.keyword_inj t .set, fun h => h ▸ rfl⟩
    have henum : c.name = enumKeyword ↔ t = .enum := by
      rw [← ht]
      exact ⟨@SqlType.keyword_inj t .enum, fun h => h ▸ rfl⟩
    rw [expression_of_keyword ht, expressionFor_eq_error_iff, hset, henum]
    simp [hname, hknown]
  · have henum : c.name ≠ enumKeyword := by
      intro h
      exact hknown (mem_recognisedKeywords.2 ⟨.enum, h.symm⟩)
    simp [expression_of_unknown hname hknown, hname, hknown, henum, eq_comm]

theorem expression_of_row {row : Mapping} (hrow : row ∈ mappingTable) (h : row.keyword = c.name)
    (hvalues : ¬(c.name = enumKeyword ∧ c.params = [])) :
    ∃ e, c.expression = .ok e ∧ e.symbol = row.symbol ∧ e.text = row.symbol ++ row.shape.text c := by
  obtain ⟨t, hset, rfl⟩ := mem_mappingTable.1 hrow
  rw [expression_of_keyword h]
  cases hexpression : c.expressionFor t with
  | error cause =>
    rcases expressionFor_eq_error_iff.1 hexpression with ⟨hsame, -⟩ | ⟨rfl, hparams, -⟩
    · exact absurd hsame hset
    · exact absurd ⟨h.symm, hparams⟩ hvalues
  | ok e => exact ⟨e, rfl, symbol_of_expressionFor hexpression, text_of_expressionFor hexpression⟩

/-! ### What an expression depends on -/

theorem expressionFor_congr (hname : c.name = other.name) (h : t.shape.Agree c other) :
    c.expressionFor t = other.expressionFor t := by
  have hfirst (hhead : c.params.head? = other.params.head?) (symbol : Text) :
      c.withFirst symbol = other.withFirst symbol := by
    rw [withFirst, withFirst, hhead]
  cases t with
  | tinyInt | smallInt | mediumInt | int | bigInt =>
    obtain ⟨hhead, hunsigned, hzerofill⟩ := h
    simp only [expressionFor, integer, hfirst hhead, hunsigned, hzerofill]
  | decimal | float | double | bit =>
    have hparams : c.params = other.params := h
    simp only [expressionFor, withAll, hparams]
  | date | dateTime | timestamp | time | year | char | varChar | blob | text | binary | varBinary =>
    simp only [expressionFor, hfirst h]
  | enum =>
    have hparams : c.params = other.params := h
    simp only [expressionFor, hparams]
  | set => rw [expressionFor, expressionFor, hname]
  | _ => rfl

/-- An expression depends on the name and on what the shape in the row of the name takes. -/
theorem expression_congr (hname : c.name = other.name)
    (h : ∀ row ∈ mappingTable, row.keyword = c.name → row.shape.Agree c other) :
    c.expression = other.expression := by
  by_cases hempty : c.name = []
  · rw [expression, expression, ← hname, hempty]
    rfl
  by_cases hknown : c.name ∈ recognisedKeywords
  · obtain ⟨t, ht⟩ := mem_recognisedKeywords.1 hknown
    rw [expression_of_keyword ht, expression_of_keyword (ht.trans hname)]
    apply expressionFor_congr hname
    by_cases hset : t = .set
    · rw [hset]
      trivial
    · exact h _ (mem_mappingTable.2 ⟨t, hset, rfl⟩) ht
  · rw [expression_of_unknown hempty hknown, expression_of_unknown (hname ▸ hempty) (hname ▸ hknown), hname]

/-- A column type has the expression that the row of its keyword says, and fails for one of three reasons otherwise. The
flags count for integers alone, and only where all parameters are taken does any parameter behind the first count. -/
theorem expression_table (c : ColumnType) :
    (c.expression = .error .emptyType ↔ c.name = []) ∧
    (∀ name, c.expression = .error (.unsupported name) ↔
      name = c.name ∧ c.name ≠ [] ∧ (c.name ∉ recognisedKeywords ∨ c.name = setKeyword)) ∧
    (c.expression = .error .missingEnumValues ↔ c.name = enumKeyword ∧ c.params = []) ∧
    (∀ row ∈ mappingTable, row.keyword = c.name → ¬(c.name = enumKeyword ∧ c.params = []) →
      ∃ e, c.expression = .ok e ∧ e.symbol = row.symbol ∧ e.text = row.symbol ++ row.shape.text c) ∧
    ((∀ row ∈ mappingTable, row.keyword = c.name → row.shape ≠ .integer) →
      ∀ unsigned zerofill, { c with unsigned, zerofill }.expression = c.expression) ∧
    ((∀ row ∈ mappingTable, row.keyword = c.name → row.shape ≠ .all ∧ row.shape ≠ .values) →
      ∀ params, params.head? = c.params.head? → { c with params }.expression = c.expression) := by
  refine ⟨?_, fun name => ?_, ?_, fun row => expression_of_row, ?_, ?_⟩
  · simp [expression_eq_error_iff]
  · rw [expression_eq_error_iff]
    simp [and_comm, and_left_comm]
  · simp [expression_eq_error_iff]
  · intro hshape unsigned zerofill
    refine expression_congr (c := { c with unsigned, zerofill }) ?_ fun row hrow hkeyword => ?_
    · rfl
    cases hsame : row.shape with
    | integer => exact absurd hsame (hshape row hrow hkeyword)
    | bare | fixed => trivial
    | _ => rfl
  · intro hshape params hparams
    refine expression_congr (c := { c with params }) ?_ fun row hrow hkeyword => ?_
    · rfl
    cases hsame : row.shape with
    | all => exact absurd hsame (hshape row hrow hkeyword).1
    | values => exact absurd hsame (hshape row hrow hkeyword).2
    | bare | fixed => trivial
    | first | binary => exact hparams
    | integer => exact ⟨hparams, rfl, rfl⟩

def flaggedType : ColumnType where
  name := "INT"
  params := [.ofNat 11, .ofNat 3]
  unsigned := true
  zerofill := true

def priceType : ColumnType where
  name := "DECIMAL"
  params := [.ofNat 10, .ofNat 2]
  unsigned := true

theorem expression_table_flaggedType :
    (∃ e, flaggedType.expression = .ok e ∧ e.symbol = "INTEGER" ∧ e.text = "INTEGER(11).UNSIGNED.ZEROFILL") ∧
      ({ flaggedType with params := [.ofNat 11] } : ColumnType).expression = flaggedType.expression ∧
      ({ priceType with unsigned := false, zerofill := true } : ColumnType).expression = priceType.expression := by
  obtain ⟨-, -, -, hrow, -, hparams⟩ := expression_table flaggedType
  obtain ⟨-, -, -, -, hflags, -⟩ := expression_table priceType
  have hmem : ⟨"INT", "INTEGER", .integer⟩ ∈ mappingTable := by decide
  refine ⟨?_, hparams (by decide) [.ofNat 11] rfl, hflags (by decide) false true⟩
  obtain ⟨e, hexpression, hsymbol, htext⟩ := hrow _ hmem rfl (by decide)
  exact ⟨e, hexpression, hsymbol, htext.trans (by decide)⟩

end ColumnType

end TableModel
