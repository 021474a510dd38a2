import TableModel.Model.Listing
import TableModel.Proofs.English.Breaks
import TableModel.Proofs.Model.Assembled
import TableModel.Proofs.Model.Failures

/-!
# When the generator gives up

The run for a schema document breaks down, rather than end with files or with a failure of its own, in one situation
only. A table is reached that gives a model, and its name has no singular.
-/

namespace TableModel

variable {inflect : Inflector} {options : Options} {cause : Fault}

/-- A table that gives a model if only its name has a singular. -/
structure Table.Complete (table : Table) : Prop where
  hname : table.name.isEmpty = false
  hcolumns : table.namedColumns ≠ []
  htypes : ∀ column ∈ table.namedColumns, ∃ e, column.dataType.expression = .ok e

theorem Table.fields_isOk_iff {table : Table} : (∃ fields, table.namedColumns.mapM table.field = .ok fields) ↔
    ∀ column ∈ table.namedColumns, ∃ e, column.dataType.expression = .ok e := by
  rw [mapM_isOk_iff]
  exact forall₂_congr fun _ _ => field_isOk_iff

theorem Table.fields_isEmpty {table : Table} {fields : List ModelField}
    (h : table.namedColumns.mapM table.field = .ok fields) : fields.isEmpty = false ↔ table.namedColumns ≠ [] := by
  rw [List.isEmpty_eq_false_iff]
  exact not_congr (fields_eq_nil_iff h)

/-- A table is given up on exactly if it gives a model but for the singular of its name. -/
theorem Table.assemble_fault_iff {table : Table} : table.assemble inflect = .error (.fault cause) ↔
    table.Complete ∧ inflect table.name = .error cause := by
  rw [assemble_error_iff]
  constructor
  · rintro ⟨hname, hfields | ⟨fields, other, hfields, hnonempty, hinflect, ⟨⟩⟩⟩
    · obtain ⟨column, -, hcolumn⟩ := mapM_eq_error hfields
      obtain ⟨other, -, ⟨⟩⟩ := field_eq_error_iff.1 hcolumn
    · exact ⟨⟨hname, (fields_isEmpty hfields).1 hnonempty, fields_isOk_iff.1 ⟨fields, hfields⟩⟩, hinflect⟩
  · rintro ⟨⟨hname, hcolumns, htypes⟩, hinflect⟩
    obtain ⟨fields, hfields⟩ := fields_isOk_iff.2 htypes
    exact ⟨hname, .inr ⟨fields, cause, hfields, (fields_isEmpty hfields).2 hcolumns, hinflect, rfl⟩⟩

theorem Statement.assemble_fault_iff {statement : Statement} : statement.assemble inflect = .error (.fault cause) ↔
    ∃ table : Table, statement = .createTable table ∧ table.Complete ∧ inflect table.name = .error cause := by
  cases statement with
  | createTable table =>
    rw [assemble, Table.assemble_fault_iff]
    simp
  | other => simp [assemble]

/-- Statements are given up on at the first table that is, unless an earlier one has a column that cannot be mapped. -/
theorem assembleAll_fault_iff {statements : List Statement} : assembleAll inflect statements = .error (.fault cause) ↔
    ∃ front table back, statements = front ++ .createTable table :: back ∧
      (∀ statement ∈ front, ∃ model, statement.assemble inflect = .ok model) ∧
        table.Complete ∧ inflect table.name = .error cause := by
  induction statements with
  | nil => simp [assembleAll]
  | cons statement statements ih =>
    constructor
    · intro h
      rcases bind_eq_error.1 h with h | ⟨model, hmodel, h⟩
      · obtain ⟨table, rfl, htable⟩ := Statement.assemble_fault_iff.1 h
        exact ⟨[], table, statements, rfl, by simp, htable⟩
      · rcases bind_eq_error.1 h with h | ⟨models, -, ⟨⟩⟩
        obtain ⟨front, table, back, rfl, hfront, htable⟩ := ih.1 h
        exact ⟨statement :: front, table, back, rfl, List.forall_mem_cons.2 ⟨⟨model, hmodel⟩, hfront⟩, htable⟩
    · rintro ⟨front, table, back, heq, hfront, htable⟩
      cases front with
      | nil =>
        cases heq
        exact bind_eq_error.2 (.inl (Table.assemble_fault_iff.2 htable))
      | cons first front =>
        cases heq
        obtain ⟨⟨model, hmodel⟩, hfront⟩ := List.forall_mem_cons.1 hfront
        have hrest := ih.2 ⟨front, table, back, rfl, hfront, htable⟩
        exact bind_eq_error.2 (.inr ⟨model, hmodel, bind_eq_error.2 (.inl hrest)⟩)

theorem Options.renderAll_isOk (h : options.indentWidth ≤ greatestIndentWidth) (models : List Model) :
    ∃ files, options.renderAll models = .ok files := by
  have hrender (model) (_ : model ∈ models) : ∃ file, options.render model = .ok file :=
    ⟨_, render_eq_ok_iff.2 ⟨h, rfl⟩⟩
  obtain ⟨files, hfiles⟩ := mapM_isOk_iff.2 hrender
  exact ⟨files, by rw [renderAll, hfiles]⟩

theorem Options.generateStatements_fault_iff (h : options.indentWidth ≤ greatestIndentWidth)
    {statements : List Statement} : options.generateStatements statements = .error (.fault cause) ↔
      assembleAll options.inflect statements = .error (.fault cause) := by
  refine ⟨fun hgenerate => ?_, fun hassemble => bind_eq_error.2 (.inl hassemble)⟩
  rcases bind_eq_error.1 hgenerate with hassemble | ⟨models, -, hrender⟩
  · exact hassemble
  · obtain ⟨files, hfiles⟩ := renderAll_isOk h models
    rw [hfiles] at hrender
    cases hrender

theorem Options.generate_fault_iff (h : options.indentWidth ≤ greatestIndentWidth) {schema : Text} :
    options.generate schema = .error (.fault cause) ↔ ∃ statements, readStatements schema = .ok statements ∧
      assembleAll options.inflect statements = .error (.fault cause) := by
  rw [generate]
  cases readStatements schema with
  | error cause => simp [generateChunk]
  | ok statements => simp [generateChunk, generateStatements_fault_iff h]

theorem generateListing_error_iff {schema : Text} {failure : Failure} :
    generateListing schema = .error failure ↔ ({} : Options).generate schema = .error failure := by
  rw [generateListing, bind_eq_error]
  simp

/-- The run for a document with the usual options, and so the listing, breaks down exactly if a table is reached that
gives a model and has a name that the search for a singular breaks down on. -/
theorem generate_breaks_iff (schema : Text) (cause : Fault) :
    (({} : Options).generate schema = .error (.fault cause) ↔ cause = .longInitial ∧
      ∃ front table back, readStatements schema = .ok (front ++ .createTable table :: back) ∧
        (∀ statement ∈ front, ∃ model, statement.assemble English.singular = .ok model) ∧
          table.Complete ∧ English.Breaks table.name) ∧
    (generateListing schema = .error (.fault cause) ↔ ({} : Options).generate schema = .error (.fault cause)) := by
  refine ⟨?_, generateListing_error_iff⟩
  have hwidth : ({} : Options).indentWidth ≤ Options.greatestIndentWidth := by decide
  rw [Options.generate_fault_iff hwidth]
  constructor
  · rintro ⟨statements, hread, h⟩
    obtain ⟨front, table, back, rfl, hfront, hcomplete, hname⟩ := assembleAll_fault_iff.1 h
    obtain ⟨rfl, hbreaks⟩ := English.singular_error_iff.1 hname
    exact ⟨rfl, front, table, back, hread, hfront, hcomplete, hbreaks⟩
  · rintro ⟨rfl, front, table, back, hread, hfront, hcomplete, hbreaks⟩
    have hname := English.singular_error_iff.2 ⟨rfl, hbreaks⟩
    exact ⟨_, hread, assembleAll_fault_iff.2 ⟨front, table, back, rfl, hfront, hcomplete, hname⟩⟩

/-- A table that has a column, with an accented letter before the ending of its capitalised name. -/
def accentedSchema : Text :=
  Json.print (.array [.object [("type", .string "create_table"), ("name", .string "X\u00e9us"), ("columns", .array [
    .object [("type", .string "column"), ("name", .string "a"), ("data_type", .object [("type", .string "INT")])]])]])

theorem accentedSchema_breaks : ({} : Options).generate accentedSchema = .error (.fault .longInitial) ∧
    generateListing accentedSchema = .error (.fault .longInitial) := by
  decide +kernel

/-- Documents whose tables have names without characters of several bytes never break anything down. -/
theorem generate_ne_fault {schema : Text} {statements : List Statement}
    (hread : readStatements schema = .ok statements)
    (hnames : ∀ table, .createTable table ∈ statements → ∀ c ∈ table.name, c.utf8Size ≤ 1) (cause : Fault) :
    ({} : Options).generate schema ≠ .error (.fault cause) := by
  intro h
  have hwidth : ({} : Options).indentWidth ≤ Options.greatestIndentWidth := by decide
  obtain ⟨read, hsame, h⟩ := (Options.generate_fault_iff hwidth).1 h
  cases hread.symm.trans hsame
  obtain ⟨front, table, back, rfl, -, -, hname⟩ := assembleAll_fault_iff.1 h
  obtain ⟨c, hmem, hlong⟩ := (English.singular_error_iff.1 hname).2.exists_long
  exact absurd (hnames table (by simp) c hmem) (Nat.not_le_of_lt hlong)

end TableModel
