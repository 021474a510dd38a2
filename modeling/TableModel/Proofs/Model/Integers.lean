import TableModel.Proofs.Json.Printing
import TableModel.Proofs.Model.Literals
import TableModel.Proofs.Model.Reference
import TableModel.Proofs.Schema.Places
import TableModel.Proofs.Types.Building
import TableModel.Proofs.Types.MappingTable

/-!
# Integers from the document to the script

An integer of 64 bits, with or without a sign, is written in its own digits, and these digits are a form of nothing
else. So what stands in the place of a literal is read as that very integer, and a literal that is an integer is printed
in its digits again: as the default of a field, among the arguments of its type, and in the comment of the table. Where
its digits go they take no escape, because there is neither a quote nor a break among them.
-/

namespace TableModel

open Text Layout Json Read

/-! ### Models and files of a document -/

theorem Table.exists_field_of_assemble {inflect : Inflector} {table : Table} {column : Column} {made : Option Model}
    (h : table.assemble inflect = .ok made) (hname : table.name ≠ []) (hmem : .column column ∈ table.entries)
    (hcolumn : column.name ≠ []) :
    ∃ model field, made = some model ∧ table.field column = .ok field ∧ field ∈ model.fields := by
  have hnamed : column ∈ table.namedColumns := by
    rw [namedColumns, List.mem_filterMap]
    exact ⟨.column column, hmem, if_neg (by simpa using hcolumn)⟩
  rw [assemble, if_neg (by simpa using hname)] at h
  obtain ⟨fields, hfields, h⟩ := bind_eq_ok.1 h
  obtain ⟨field, hfield, hmade⟩ := exists_mem_of_mapM_eq_ok hfields hnamed
  rw [if_neg (by simpa using List.ne_nil_of_mem hfield)] at h
  split at h
  · cases h
  · cases h
    exact ⟨_, field, rfl, hmade, hfield⟩

/-- The field of a column stands in a model whose file is among these. -/
structure Options.Makes (options : Options) (files : List ModelFile) (table : Table) (column : Column) (model : Model)
    (file : ModelFile) (field : ModelField) : Prop where
  hmodel : table.assemble options.inflect = .ok (some model)
  hfile : file ∈ files
  hrender : options.render model = .ok file
  hfield : table.field column = .ok field
  hmem : field ∈ model.fields

theorem Options.exists_makes {options : Options} {s : Text} {files : List ModelFile} {statements : List Statement}
    {table : Table} {column : Column} (h : options.generate s = .ok files) (hread : readStatements s = .ok statements)
    (htable : .createTable table ∈ statements) (hname : table.name ≠ []) (hmem : .column column ∈ table.entries)
    (hcolumn : column.name ≠ []) :
    ∃ model file field, options.Makes files table column model file field := by
  rw [generate, hread] at h
  obtain ⟨models, hmodels, hfiles⟩ := bind_eq_ok.1 h
  obtain ⟨made, hmade, hall⟩ := exists_model_of_assembleAll hmodels htable
  obtain ⟨model, field, rfl, hfield, hfields⟩ := Table.exists_field_of_assemble hmade hname hmem hcolumn
  obtain ⟨file, hfile, hrender⟩ := exists_mem_of_mapM_eq_ok (renderAll_eq_ok.1 hfiles) (hall model rfl)
  exact ⟨model, file, field, hmade, hfile, hrender, hfield, hfields⟩

/-! ### Integers as they are written and printed -/

/-- The digits of an integer are a form of it and of nothing else. -/
theorem spelling_ofInt_iff {n : Int} (h : InRange n) {v : Json} :
    v.Spelling (Text.ofInt n) ↔ v = .number (.integer n) := by
  have hdocument {v : Json} (hv : v.Spelling (Text.ofInt n)) : DocumentSpelling v (Text.ofInt n) :=
    ⟨[], Text.ofInt n, [], (List.append_nil _).symm, List.forall_mem_nil _, List.forall_mem_nil _, hv⟩
  constructor
  · intro hv
    exact documentSpelling_unique (hdocument hv) (hdocument (.integer h))
  · intro hv
    rw [hv]
    exact .integer h

/-- A number takes no escape in quotes. -/
theorem quote_number (n : Number) : quote n.text = "'" ++ n.text ++ "'" := by
  rw [quote_of_unbroken n.text_unbroken, inQuotes, escapeQuote_eq_self (n.not_mem_text (by decide))]

/-! ### The arguments of a type -/

def ExpressionShape.Uses (k : Nat) : ExpressionShape → Prop
  | first | binary | integer => k = 0
  | all | values => True
  | bare | fixed _ => False

theorem TypeExpression.args_withModifierIf (e : TypeExpression) (condition : Bool) (modifier : Text) :
    (e.withModifierIf condition modifier).args = e.args := by
  cases condition <;> rfl

namespace ColumnType

variable {c : ColumnType} {e : TypeExpression} {t : SqlType} {k : Nat} {n : Number}

theorem args_withFirst (symbol : Text) (h : c.params[0]? = some (.number n)) :
    (c.withFirst symbol).args = [n.text] := by
  rw [withFirst, List.head?_eq_getElem?, h]
  rfl

/-- A number among the parameters that a type takes is printed among the arguments. -/
theorem args_of_expressionFor (h : c.expressionFor t = .ok e) (huses : t.shape.Uses k)
    (hparam : c.params[k]? = some (.number n)) : e.args[k]? = some n.text := by
  cases t with
  | tinyInt | smallInt | mediumInt | int | bigInt =>
    obtain rfl : k = 0 := huses
    cases h
    rw [integer, TypeExpression.args_withModifierIf, TypeExpression.args_withModifierIf, args_withFirst _ hparam]
    rfl
  | decimal | float | double | bit =>
    cases h
    rw [withAll, List.getElem?_map, hparam]
    rfl
  | date | dateTime | timestamp | time | year | char | varChar | blob | text =>
    obtain rfl : k = 0 := huses
    cases h
    rw [args_withFirst _ hparam]
    rfl
  | binary | varBinary =>
    obtain rfl : k = 0 := huses
    cases h
    rw [TypeExpression.withModifier, args_withFirst _ hparam]
    rfl
  | enum =>
    rw [expressionFor] at h
    split at h
    · cases h
    · cases h
      rw [List.getElem?_map, hparam]
      rfl
  | _ => exact huses.elim

theorem args_of_expression {row : Mapping} (h : c.expression = .ok e) (hrow : row ∈ mappingTable)
    (hkeyword : row.keyword = c.name) (huses : row.shape.Uses k) (hparam : c.params[k]? = some (.number n)) :
    e.args[k]? = some n.text := by
  obtain ⟨t, -, rfl⟩ := mem_mappingTable.1 hrow
  rw [expression_of_keyword hkeyword] at h
  exact args_of_expressionFor h huses hparam

end ColumnType

/-! ### The three places -/

namespace Options.Makes

variable {options : Options} {files : List ModelFile} {table : Table} {column : Column} {model : Model}
  {file : ModelFile} {field : ModelField} {n : Number} {k : Nat}

theorem block_infix (h : options.Makes files table column model file field) :
    (sink 3 field.layout).map (pad options.indentWidth) <:+: file.content.splitOn '\n' :=
  ((Model.sink_field h.hmem).map _).trans (codeLayout_prefix_of_render h.hrender).isInfix

theorem default_mem (h : options.Makes files table column model file field)
    (hdefault : column.defaultValue = some (.number n)) :
    pad options.indentWidth (4, "defaultValue: " ++ n.text ++ ",") ∈
      (sink 3 field.layout).map (pad options.indentWidth) := by
  have htext : field.defaultText = some n.text := by
    rw [ModelField.defaultText, (Table.fieldOf_iff.2 h.hfield).hdefault, hdefault]
    rfl
  have hpart := ModelField.sink_attribute_infix (ModelField.mem_pairs_of_defaultText htext)
  have hline : '\n' ∉ attributeLine "defaultValue" n.text :=
    (unbroken_attributeLine (by decide) n.text_unbroken).2
  rw [ofText_of_not_mem hline, sink_line] at hpart
  exact List.mem_map_of_mem ((List.singleton_infix_iff _ _).1 hpart)

theorem argument (h : options.Makes files table column model file field) {row : Mapping} (hrow : row ∈ mappingTable)
    (hkeyword : row.keyword = column.dataType.name) (huses : row.shape.Uses k)
    (hparam : column.dataType.params[k]? = some (.number n)) :
    let e := field.dataType
    e.args[k]? = some n.text ∧
      e.text = row.symbol ++ "(" ++ List.intercalate "," e.args ++ ")" ++ e.modifiers.flatMap ('.' :: ·) ∧
      (sink 4 (ofText ("type: " ++ e.text ++ ","))).map (pad options.indentWidth) <:+:
        (sink 3 field.layout).map (pad options.indentWidth) := by
  intro e
  have hexpression := Table.expression_of_field h.hfield
  have hargs := ColumnType.args_of_expression hexpression hrow hkeyword huses hparam
  have hsome : e.args ≠ [] := by
    intro hnil
    rw [hnil] at hargs
    cases hargs
  have hsymbol : e.symbol = row.symbol := by
    obtain ⟨t, -, rfl⟩ := mem_mappingTable.1 hrow
    rw [ColumnType.expression_of_keyword hkeyword] at hexpression
    exact ColumnType.symbol_of_expressionFor hexpression
  refine ⟨hargs, hsymbol ▸ TypeExpression.text_of_some_args hsome, ?_⟩
  exact (ModelField.sink_attribute_infix List.mem_cons_self).map _

theorem comment_mem (h : options.Makes files table column model file field)
    (hcomment : FirstComment table.options (.number n)) :
    model.comment = some n.text ∧
      pad options.indentWidth (3, "comment: '" ++ n.text ++ "',") ∈ file.content.splitOn '\n' := by
  have hmodel : model.comment = some n.text := by
    obtain ⟨fields, baseName, -, -, -, rfl⟩ := Table.assemble_eq_some h.hmodel
    exact Table.comment_eq_some_iff.2 ⟨.number n, hcomment, rfl⟩
  have hline := Model.mem_codeLayout_comment hmodel
  have hquoted : attributeLine "comment" (quote n.text) = "comment: '" ++ n.text ++ "'," := by
    rw [quote_number, attributeLine]
    simp
  rw [hquoted] at hline
  exact ⟨hmodel, (codeLayout_prefix_of_render h.hrender).subset (List.mem_map_of_mem hline)⟩

end Options.Makes

/-- An integer of 64 bits that stands in its digits where a literal may stand comes out in the same digits: as the
default of the field, among the arguments of its type if the type takes the parameter, and as the comment of the table
if it is the value of the first comment option that has one. -/
theorem Options.generate_integers {options : Options} {s : Text} {v : Json} {files : List ModelFile} {n : Int}
    (hn : InRange n) (hs : DocumentSpelling v s) (hgenerate : options.generate s = .ok files) :
    let digits := Text.ofInt n
    let literal := Json.number (.integer n)
    let width := options.indentWidth
    (∀ w, w.Spelling digits ↔ w = literal) ∧
    ∃ statements, readStatements s = .ok statements ∧
      (∀ i j, v.defaultAt i j = some literal → ∃ table column,
        statements[i]? = some (.createTable table) ∧ table.entries[j]? = some (.column column) ∧
        (table.name ≠ [] → column.name ≠ [] → ∃ model file field,
          options.Makes files table column model file field ∧
          (sink 3 field.layout).map (pad width) <:+: file.content.splitOn '\n' ∧
          pad width (4, "defaultValue: " ++ digits ++ ",") ∈ (sink 3 field.layout).map (pad width))) ∧
      (∀ i j k, v.parameterAt i j k = some literal → ∃ table column,
        statements[i]? = some (.createTable table) ∧ table.entries[j]? = some (.column column) ∧
        (table.name ≠ [] → column.name ≠ [] →
          ∀ row ∈ mappingTable, row.keyword = column.dataType.name → row.shape.Uses k → ∃ model file field,
            options.Makes files table column model file field ∧
            (sink 3 field.layout).map (pad width) <:+: file.content.splitOn '\n' ∧
            let e := field.dataType
            e.args[k]? = some digits ∧
            e.text = row.symbol ++ "(" ++ List.intercalate "," e.args ++ ")" ++ e.modifiers.flatMap ('.' :: ·) ∧
            (sink 4 (ofText ("type: " ++ e.text ++ ","))).map (pad width) <:+:
              (sink 3 field.layout).map (pad width))) ∧
      ∀ i k, v.optionAt i k = some literal → ∃ table option,
        statements[i]? = some (.createTable table) ∧ table.options[k]? = some option ∧
        (table.name ≠ [] → option.key = commentKey →
          (∀ earlier ∈ table.options.take k, earlier.key = commentKey → earlier.value = none) →
          ∀ column, .column column ∈ table.entries → column.name ≠ [] → ∃ model file field,
            options.Makes files table column model file field ∧ model.comment = some digits ∧
            pad width (3, "comment: '" ++ digits ++ "',") ∈ file.content.splitOn '\n') := by
  intro digits literal width
  have hread : ∃ statements, readStatements s = .ok statements := by
    rw [generate] at hgenerate
    cases hread : readStatements s with
    | error cause =>
      rw [hread] at hgenerate
      cases hgenerate
    | ok statements => exact ⟨statements, rfl⟩
  obtain ⟨statements, hread⟩ := hread
  obtain ⟨w, hw, hlists⟩ := readStatements_iff.1 hread
  obtain rfl := documentSpelling_unique hw hs
  refine ⟨fun w => spelling_ofInt_iff hn, statements, hread, ?_, ?_, ?_⟩
  · intro i j hvalue
    obtain ⟨table, column, htable, hcolumn, hdefault⟩ := hlists.default_at hvalue
    refine ⟨table, column, htable, hcolumn, ?_⟩
    intro hname hcname
    obtain ⟨model, file, field, hmakes⟩ := exists_makes hgenerate hread (List.mem_of_getElem? htable) hname
      (List.mem_of_getElem? hcolumn) hcname
    exact ⟨model, file, field, hmakes, hmakes.block_infix, hmakes.default_mem hdefault⟩
  · intro i j k hvalue
    obtain ⟨table, column, htable, hcolumn, hparam⟩ := hlists.parameter_at hvalue
    refine ⟨table, column, htable, hcolumn, ?_⟩
    intro hname hcname row hrow hkeyword huses
    obtain ⟨model, file, field, hmakes⟩ := exists_makes hgenerate hread (List.mem_of_getElem? htable) hname
      (List.mem_of_getElem? hcolumn) hcname
    exact ⟨model, file, field, hmakes, hmakes.block_infix, hmakes.argument hrow hkeyword huses hparam⟩
  · intro i k hvalue
    obtain ⟨table, option, htable, hoption, hnumber⟩ := hlists.option_at hvalue
    refine ⟨table, option, htable, hoption, ?_⟩
    intro hname hkey hfirst column hcolumn hcname
    obtain ⟨model, file, field, hmakes⟩ := exists_makes hgenerate hread (List.mem_of_getElem? htable) hname hcolumn
      hcname
    have hsplit := eq_append_of_getElem? hoption
    exact ⟨model, file, field, hmakes, hmakes.comment_mem ⟨_, option, _, hsplit, hkey, hnumber, hfirst⟩⟩

/-- A table with the least and the greatest integers, and one between them, in the three places. The second comment
option is given as a list. -/
def integerDocument : Json :=
  .array [.object [("type", .string "create_table"), ("name", .string "limits"), ("columns", .array [
      .object [("type", .string "column"), ("name", .string "low"),
        ("data_type", .object [("type", .string "DECIMAL"),
          ("params", .array [.number (.integer 2), .number (.integer 18446744073709551615)])]),
        ("default_value", .number (.integer (-9223372036854775808)))]]),
    ("options", .array [.object [("key", .string "COMMENT"), ("value", .null)],
      .array [.string "COMMENT", .number (.integer 9223372036854775808)]])]]

def integerTable : Table where
  name := "limits"
  entries := [.column {
    name := "low"
    dataType := {
      name := "DECIMAL", params := [.number (.integer 2), .number (.integer 18446744073709551615)] }
    defaultValue := some (.number (.integer (-9223372036854775808))) }]
  options := [{ key := "COMMENT" }, { key := "COMMENT", value := some (.number (.integer 9223372036854775808)) }]

def integerFiles : List ModelFile :=
  (({} : Options).generate integerDocument.print).toOption.getD []

theorem Options.generate_integers_integerDocument :
    ({} : Options).generate integerDocument.print = .ok integerFiles ∧
      (∃ file ∈ integerFiles, pad 4 (4, "defaultValue: -9223372036854775808,") ∈ file.content.splitOn '\n') ∧
      (∃ model field, integerTable.assemble English.singular = .ok (some model) ∧ field ∈ model.fields ∧
        field.dataType.args[1]? = some "18446744073709551615".toList) ∧
      ∃ file ∈ integerFiles, pad 4 (3, "comment: '9223372036854775808',") ∈ file.content.splitOn '\n' := by
  have hgenerate : ({} : Options).generate integerDocument.print = .ok integerFiles ∧
      readStatements integerDocument.print = .ok [.createTable integerTable] := by decide +kernel
  obtain ⟨hfiles, hstatements⟩ := hgenerate
  have hs : DocumentSpelling integerDocument integerDocument.print :=
    documentSpelling_print (by simp [integerDocument, InRange])
  have hlow : InRange (-9223372036854775808) := ⟨by decide, by decide⟩
  have hhigh : InRange 18446744073709551615 := ⟨by decide, by decide⟩
  have hbetween : InRange 9223372036854775808 := ⟨by decide, by decide⟩
  refine ⟨hfiles, ?_, ?_, ?_⟩
  · obtain ⟨-, statements, hread, hdefault, -⟩ := generate_integers hlow hs hfiles
    obtain ⟨table, column, htable, hcolumn, hmade⟩ := hdefault 0 0 rfl
    rw [hstatements] at hread
    cases hread
    cases htable
    cases hcolumn
    obtain ⟨model, file, field, hmakes, hblock, hline⟩ := hmade (by decide) (by decide)
    exact ⟨file, hmakes.hfile, hblock.subset hline⟩
  · obtain ⟨-, statements, hread, -, hparam, -⟩ := generate_integers hhigh hs hfiles
    obtain ⟨table, column, htable, hcolumn, hmade⟩ := hparam 0 0 1 rfl
    rw [hstatements] at hread
    cases hread
    cases htable
    cases hcolumn
    have hrow : ⟨"DECIMAL", "DECIMAL", .all⟩ ∈ mappingTable := by decide
    obtain ⟨model, file, field, hmakes, -, harg, -⟩ := hmade (by decide) (by decide) _ hrow rfl trivial
    exact ⟨model, field, hmakes.hmodel, hmakes.hmem, harg⟩
  · obtain ⟨-, statements, hread, -, -, hoption⟩ := generate_integers hbetween hs hfiles
    obtain ⟨table, option, htable, hget, hmade⟩ := hoption 0 1 rfl
    rw [hstatements] at hread
    cases hread
    cases htable
    cases hget
    obtain ⟨model, file, field, hmakes, -, hline⟩ :=
      hmade (by decide) rfl (by decide) _ List.mem_cons_self (by decide)
    exact ⟨file, hmakes.hfile, hline⟩

end TableModel
