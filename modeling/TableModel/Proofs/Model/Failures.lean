import TableModel.Model.Generate
import TableModel.Proofs.Results

/-!
# Where failures come from

Each stage between a text and its files fails in its own way: reading with an unreadable document, assembling with a
column, and the singular of a name and the layout with a fault. Statements are taken in order, and the columns of a
table in order before its name is looked at. So, unless something breaks down, what statements fail with is told by a
search that makes no model: the first column with a name, in the first table with a name, whose type cannot be mapped.
-/

namespace TableModel

variable {inflect : Inflector} {options : Options} {failure : Failure} {failing : Option Failure}

/-! ### The first column that fails -/

/-- The failure of the first column of a table that cannot be mapped. -/
def Table.failingColumn (table : Table) : Option Failure :=
  if table.name.isEmpty then none
  else table.namedColumns.findSome? fun column =>
    match column.dataType.expression with
    | .ok _ => none
    | .error cause => some (.column table.name column.name cause)

/-- The failure of the first column of statements that cannot be mapped. -/
def failingColumn (statements : List Statement) : Option Failure :=
  statements.findSome? fun
    | .createTable table => table.failingColumn
    | .other => none

theorem exists_column_of_failingColumn {statements : List Statement}
    (h : failingColumn statements = some failure) : ∃ table column cause, failure = .column table column cause := by
  obtain ⟨statement, -, hstatement⟩ := List.exists_of_findSome?_eq_some h
  cases statement with
  | other => cases hstatement
  | createTable table =>
    change table.failingColumn = some failure at hstatement
    rw [Table.failingColumn] at hstatement
    split at hstatement
    · cases hstatement
    · obtain ⟨column, -, hcolumn⟩ := List.exists_of_findSome?_eq_some hstatement
      cases hexpression : column.dataType.expression with
      | ok e =>
        rw [hexpression] at hcolumn
        cases hcolumn
      | error cause =>
        rw [hexpression] at hcolumn
        exact ⟨table.name, column.name, cause, (Option.some.inj hcolumn).symm⟩

/-! ### How steps end -/

/-- How a step ends: with a fault, or as a search for a failure does. -/
inductive Ends {α : Type} (result : Except Failure α) (failing : Option Failure) : Prop
  | fault (cause : Fault) (h : result = .error (.fault cause))
  | failed (failure : Failure) (h : result = .error failure) (hfailing : failing = some failure)
  | made (a : α) (h : result = .ok a) (hfailing : failing = none)

namespace Ends

variable {α β : Type} {result : Except Failure α} {next : α → Except Failure β}

/-- The search goes on behind the first step if that has not failed. -/
theorem bind {more : Option Failure} (h : Ends result failing) (hnext : ∀ a, Ends (next a) more) :
    Ends (result >>= next) (failing.or more) := by
  cases h with
  | fault cause h => exact .fault cause (by rw [h]; rfl)
  | failed failure h hfailing => exact .failed failure (by rw [h]; rfl) (by rw [hfailing]; rfl)
  | made a h hfailing =>
    rw [h, hfailing]
    exact hnext a

/-- What can only break down does not change the search. -/
theorem bind_none (h : Ends result failing) (hnext : ∀ a, Ends (next a) none) : Ends (result >>= next) failing := by
  have hbind := h.bind hnext
  rwa [Option.or_none] at hbind

theorem failing_of_error (h : Ends result failing) (hresult : result = .error failure)
    (hfault : ∀ cause, failure ≠ .fault cause) : failing = some failure := by
  cases h with
  | fault cause h =>
    cases h.symm.trans hresult
    exact absurd rfl (hfault cause)
  | failed other h hfailing =>
    cases h.symm.trans hresult
    exact hfailing
  | made a h hfailing => cases h.symm.trans hresult

theorem failing_of_ok {a : α} (h : Ends result failing) (hresult : result = .ok a) : failing = none := by
  cases h with
  | fault cause h => cases h.symm.trans hresult
  | failed failure h hfailing => cases h.symm.trans hresult
  | made a h hfailing => exact hfailing

end Ends

/-! ### How statements end -/

private theorem findSome?_cons_eq_or {α : Type} (f : α → Option Failure) (a : α) (as : List α) :
    (a :: as).findSome? f = (f a).or (as.findSome? f) := by
  rw [List.findSome?_cons]
  cases f a <;> rfl

theorem Table.field_isOk_iff {table : Table} {column : Column} :
    (∃ field, table.field column = .ok field) ↔ ∃ e, column.dataType.expression = .ok e := by
  unfold field
  cases column.dataType.expression with
  | ok e => simp
  | error cause => simp

theorem Table.field_eq_error_iff {table : Table} {column : Column} : table.field column = .error failure ↔
    ∃ cause, column.dataType.expression = .error cause ∧ failure = .column table.name column.name cause := by
  unfold field
  cases column.dataType.expression with
  | ok e => simp
  | error cause => simp [eq_comm]

theorem Table.fields_eq_nil_iff {table : Table} {columns : List Column} {fields : List ModelField}
    (h : columns.mapM table.field = .ok fields) : fields = [] ↔ columns = [] := by
  rw [← List.length_eq_zero_iff, ← (mapM_eq_ok_iff.1 h).length_eq, List.length_eq_zero_iff]

theorem Table.fields_ends (table : Table) (columns : List Column) :
    Ends (columns.mapM table.field) (columns.findSome? fun column =>
      match column.dataType.expression with
      | .ok _ => none
      | .error cause => some (.column table.name column.name cause)) := by
  induction columns with
  | nil => exact .made [] rfl rfl
  | cons column columns ih =>
    rw [List.mapM_cons, findSome?_cons_eq_or]
    refine .bind ?_ fun _ => ih.bind_none fun _ => .made _ rfl rfl
    rw [field]
    cases column.dataType.expression with
    | error cause => exact .failed _ rfl rfl
    | ok dataType => exact .made _ rfl rfl

/-- A table with a name fails at the first column that does, and else, if there is any column, with its name. -/
theorem Table.assemble_error_iff {table : Table} : table.assemble inflect = .error failure ↔
    table.name.isEmpty = false ∧ (table.namedColumns.mapM table.field = .error failure ∨
      ∃ fields cause, table.namedColumns.mapM table.field = .ok fields ∧ fields.isEmpty = false ∧
        inflect table.name = .error cause ∧ failure = .fault cause) := by
  unfold assemble
  cases table.name.isEmpty with
  | true => simp
  | false =>
    rw [if_neg Bool.false_ne_true, bind_eq_error]
    refine Iff.trans (or_congr_right (exists_congr fun fields => ?_)) (and_iff_right rfl).symm
    cases fields.isEmpty <;> cases inflect table.name <;> simp [eq_comm]

theorem Table.assemble_ends (inflect : Inflector) (table : Table) :
    Ends (table.assemble inflect) table.failingColumn := by
  rw [assemble, failingColumn]
  split
  · exact .made none rfl rfl
  · refine (fields_ends table table.namedColumns).bind_none fun fields => ?_
    split
    · exact .made none rfl rfl
    · cases inflect table.name with
      | error cause => exact .fault cause rfl
      | ok baseName => exact .made _ rfl rfl

theorem assembleAll_ends (inflect : Inflector) (statements : List Statement) :
    Ends (assembleAll inflect statements) (failingColumn statements) := by
  induction statements with
  | nil => exact .made [] rfl rfl
  | cons statement statements ih =>
    rw [assembleAll, failingColumn, findSome?_cons_eq_or]
    refine .bind ?_ fun _ => ih.bind_none fun _ => .made _ rfl rfl
    cases statement with
    | createTable table => exact table.assemble_ends inflect
    | other => exact .made none rfl rfl

namespace Options

theorem generateStatements_ends (options : Options) (statements : List Statement) :
    Ends (options.generateStatements statements) (failingColumn statements) := by
  refine (assembleAll_ends options.inflect statements).bind_none fun models => ?_
  rw [renderAll]
  cases models.mapM options.render with
  | error cause => exact .fault cause rfl
  | ok files => exact .made files rfl rfl

end Options

theorem Options.generateChunk_unreadable {chunk : Chunk} {cause : ReadError}
    (h : options.generateChunk chunk = .error (.unreadable cause)) : chunk = .error cause := by
  cases chunk with
  | error other =>
    cases h
    rfl
  | ok statements =>
    have hfailing := (options.generateStatements_ends statements).failing_of_error h fun _ => Failure.noConfusion
    obtain ⟨table, column, other, ⟨⟩⟩ := exists_column_of_failingColumn hfailing

end TableModel
