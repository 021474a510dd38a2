import TableModel.Model.Generate
import TableModel.Proofs.Results
import TableModel.Proofs.Text.Lines

/-!
# Assembled models

What is known of a model because it was assembled from a table: it has a field, its symbols are those of
its fields, and the words in a type expression that do not come from the table are words of a type.
-/

namespace TableModel

variable {inflect : Inflector} {table : Table} {model : Model} {e : TypeExpression}

/-- The words of an expression that are not arguments stay on one line. -/
structure TypeExpression.Fixed (e : TypeExpression) : Prop where
  hsymbol : e.symbol.Unbroken
  hmodifiers : ∀ modifier ∈ e.modifiers, modifier.Unbroken

namespace TypeExpression.Fixed

theorem of_symbol {symbol : Text} (h : symbol.Unbroken) (args : List Text) :
    Fixed { symbol, args } :=
  ⟨h, fun _ hmodifier => absurd hmodifier List.not_mem_nil⟩

theorem withModifier (h : Fixed e) {modifier : Text} (hmodifier : modifier.Unbroken) :
    Fixed (e.withModifier modifier) := by
  refine ⟨h.hsymbol, ?_⟩
  intro other hother
  rcases List.mem_append.1 hother with hother | hother
  · exact h.hmodifiers other hother
  · rw [List.mem_singleton.1 hother]
    exact hmodifier

theorem withModifierIf (h : Fixed e) (condition : Bool) {modifier : Text}
    (hmodifier : modifier.Unbroken) : Fixed (e.withModifierIf condition modifier) := by
  rw [TypeExpression.withModifierIf]
  split
  · exact h.withModifier hmodifier
  · exact h

theorem integer (c : ColumnType) {symbol : Text} (h : symbol.Unbroken) : Fixed (c.integer symbol) :=
  ((of_symbol h _).withModifierIf _ (by decide)).withModifierIf _ (by decide)

theorem expressionFor {c : ColumnType} {t : SqlType} (h : c.expressionFor t = .ok e) : Fixed e := by
  cases t with
  | tinyInt | smallInt | mediumInt | int | bigInt =>
    cases h
    exact integer c (by decide)
  | binary | varBinary =>
    cases h
    exact (of_symbol (by decide) _).withModifier (by decide)
  | enum =>
    rw [ColumnType.expressionFor] at h
    split at h
    · cases h
    · cases h
      exact of_symbol (by decide) _
  | set => cases h
  | _ =>
    cases h
    exact of_symbol (by decide) _

theorem expression {c : ColumnType} (h : c.expression = .ok e) : Fixed e := by
  rw [ColumnType.expression] at h
  split at h
  · cases h
  · split at h
    · exact expressionFor h
    · cases h

end TypeExpression.Fixed

theorem Table.expression_of_field {column : Column} {field : ModelField} (h : table.field column = .ok field) :
    column.dataType.expression = .ok field.dataType := by
  rw [Table.field] at h
  split at h
  · cases h
  · rename_i dataType hdataType
    cases h
    exact hdataType

structure Model.Assembled (model : Model) : Prop where
  hfields : model.fields ≠ []
  hfixed : ∀ field ∈ model.fields, field.dataType.Fixed
  hsymbols : model.requiredSymbols = (model.fields.map (·.dataType.symbol)).eraseDups

/-- What the model of a table is made of. -/
theorem Table.assemble_eq_some (h : table.assemble inflect = .ok (some model)) :
    ∃ fields baseName, table.namedColumns.mapM table.field = .ok fields ∧ fields ≠ [] ∧
      inflect table.name = .ok baseName ∧
      model = {
        tableName := table.name
        baseName
        fields
        comment := table.comment
        requiredSymbols := (fields.map (·.dataType.symbol)).eraseDups } := by
  rw [Table.assemble] at h
  split at h
  · cases h
  · obtain ⟨fields, hfields, h⟩ := bind_eq_ok.1 h
    split at h
    · cases h
    · rename_i hempty
      split at h
      · cases h
      · rename_i baseName hname
        cases h
        exact ⟨fields, baseName, hfields, fun hnil => hempty (List.isEmpty_iff.2 hnil), hname, rfl⟩

theorem Table.assemble_assembled (h : table.assemble inflect = .ok (some model)) : model.Assembled := by
  obtain ⟨fields, baseName, hfields, hne, -, rfl⟩ := assemble_eq_some h
  refine ⟨hne, ?_, rfl⟩
  intro field hfield
  obtain ⟨column, -, hcolumn⟩ := mem_of_mapM_eq_ok hfields hfield
  exact .expression (Table.expression_of_field hcolumn)

theorem Table.assemble_baseName (h : table.assemble inflect = .ok (some model)) :
    inflect table.name = .ok model.baseName := by
  obtain ⟨fields, baseName, -, -, hname, rfl⟩ := assemble_eq_some h
  exact hname

theorem exists_table_of_assembleAll {statements : List Statement} {models : List Model}
    (h : assembleAll inflect statements = .ok models) (hmodel : model ∈ models) :
    ∃ table, .createTable table ∈ statements ∧ table.assemble inflect = .ok (some model) := by
  induction statements generalizing models with
  | nil =>
    cases h
    exact absurd hmodel List.not_mem_nil
  | cons statement rest ih =>
    obtain ⟨first, hfirst, h⟩ := bind_eq_ok.1 h
    obtain ⟨others, hothers, h⟩ := bind_eq_ok.1 h
    cases h
    rcases List.mem_append.1 hmodel with hmodel | hmodel
    · rw [Option.mem_toList] at hmodel
      cases hmodel
      cases statement with
      | createTable table => exact ⟨table, List.mem_cons_self, hfirst⟩
      | other => cases hfirst
    · obtain ⟨table, hmem, htable⟩ := ih hothers hmodel
      exact ⟨table, List.mem_cons_of_mem statement hmem, htable⟩

/-- The model of every table, if it has one, is among the models. -/
theorem exists_model_of_assembleAll {statements : List Statement} {models : List Model}
    (h : assembleAll inflect statements = .ok models) (hmem : .createTable table ∈ statements) :
    ∃ made, table.assemble inflect = .ok made ∧ ∀ model ∈ made, model ∈ models := by
  induction statements generalizing models with
  | nil => exact absurd hmem List.not_mem_nil
  | cons statement rest ih =>
    obtain ⟨first, hfirst, h⟩ := bind_eq_ok.1 h
    obtain ⟨others, hothers, h⟩ := bind_eq_ok.1 h
    cases h
    rcases List.mem_cons.1 hmem with rfl | hmem
    · refine ⟨first, hfirst, fun model hmodel => List.mem_append_left _ ?_⟩
      rwa [Option.mem_toList]
    · obtain ⟨made, hmade, hall⟩ := ih hothers hmem
      exact ⟨made, hmade, fun model hmodel => List.mem_append_right _ (hall model hmodel)⟩

theorem assembleAll_assembled {statements : List Statement} {models : List Model}
    (h : assembleAll inflect statements = .ok models) : ∀ model ∈ models, model.Assembled := by
  intro model hmodel
  obtain ⟨table, -, htable⟩ := exists_table_of_assembleAll h hmodel
  exact Table.assemble_assembled htable

/-- A file is made exactly if the indentation can be. -/
theorem Options.render_eq_ok_iff {options : Options} {model : Model} {file : ModelFile} :
    options.render model = .ok file ↔ options.indentWidth ≤ greatestIndentWidth ∧ file = {
      name := options.fileName model.baseName
      content := model.render (Text.spaces options.indentWidth) } := by
  rw [render, bind_eq_ok, indentUnit]
  by_cases hwidth : options.indentWidth ≤ greatestIndentWidth
  · simp [hwidth, eq_comm]
  · simp [hwidth]

theorem Options.content_of_render {options : Options} {model : Model} {file : ModelFile}
    (h : options.render model = .ok file) : file.content = model.render (Text.spaces options.indentWidth) := by
  rw [(render_eq_ok_iff.1 h).2]

theorem Options.renderAll_eq_ok {options : Options} {models : List Model} {files : List ModelFile} :
    options.renderAll models = .ok files ↔ models.mapM options.render = .ok files := by
  rw [renderAll]
  cases models.mapM options.render with
  | error cause => exact iff_of_false nofun nofun
  | ok made => rw [Except.ok.injEq, Except.ok.injEq]

theorem Options.exists_model_of_generateChunk {options : Options} {chunk : Chunk} {files : List ModelFile}
    (h : options.generateChunk chunk = .ok files) {file : ModelFile} (hfile : file ∈ files) :
    ∃ statements table model, chunk = .ok statements ∧ .createTable table ∈ statements ∧
      table.assemble options.inflect = .ok (some model) ∧ options.render model = .ok file := by
  cases chunk with
  | error cause => cases h
  | ok statements =>
    obtain ⟨models, hmodels, h⟩ := bind_eq_ok.1 h
    obtain ⟨model, hmodel, hrender⟩ := mem_of_mapM_eq_ok (renderAll_eq_ok.1 h) hfile
    obtain ⟨table, hmem, htable⟩ := exists_table_of_assembleAll hmodels hmodel
    exact ⟨statements, table, model, rfl, hmem, htable, hrender⟩

theorem Options.name_of_generateChunk {options : Options} {chunk : Chunk} {files : List ModelFile}
    (h : options.generateChunk chunk = .ok files) {file : ModelFile} (hfile : file ∈ files) :
    ∃ statements table baseName, chunk = .ok statements ∧ .createTable table ∈ statements ∧
      options.inflect table.name = .ok baseName ∧ file.name = options.fileName baseName := by
  obtain ⟨statements, table, model, hchunk, hmem, htable, hrender⟩ := exists_model_of_generateChunk h hfile
  have hname : file.name = options.fileName model.baseName := by rw [(render_eq_ok_iff.1 hrender).2]
  exact ⟨statements, table, model.baseName, hchunk, hmem, Table.assemble_baseName htable, hname⟩

end TableModel
