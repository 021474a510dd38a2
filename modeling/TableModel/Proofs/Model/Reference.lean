import Mathlib.Data.List.Forall2
import Mathlib.Logic.Relation
import TableModel.Proofs.Model.Failures

/-!
# What comes of a table

The result of assembling a table, told without a way to compute it: which columns count, which primary key and which
comment is the first, and which column is to blame. The function that assembles a table gives that result and no other.
What the account does not look at, such as the places of the primary keys among the columns, can be edited freely.
-/

namespace TableModel

variable {inflect : Inflector} {table other : Table} {entries : List TableEntry} {columns : List Column}
variable {column : Column} {field : ModelField} {singular : Text}

/-! ### The account -/

/-- The columns of entries that have a name, in the order of the entries. -/
inductive NamedColumns : List TableEntry → List Column → Prop
  | nil : NamedColumns [] []
  | named {column : Column} {entries : List TableEntry} {columns : List Column} (hname : column.name ≠ [])
      (h : NamedColumns entries columns) : NamedColumns (.column column :: entries) (column :: columns)
  | unnamed {column : Column} {entries : List TableEntry} {columns : List Column} (hname : column.name = [])
      (h : NamedColumns entries columns) : NamedColumns (.column column :: entries) columns
  | primaryKey {entries : List TableEntry} {columns : List Column} (fields : List Text)
      (h : NamedColumns entries columns) : NamedColumns (.primaryKey fields :: entries) columns
  | other {entries : List TableEntry} {columns : List Column}
      (h : NamedColumns entries columns) : NamedColumns (.other :: entries) columns

/-- The first primary key among entries has such fields. -/
def FirstKey (entries : List TableEntry) (fields : List Text) : Prop :=
  ∃ front back, entries = front ++ .primaryKey fields :: back ∧ ∀ earlier, .primaryKey earlier ∉ front

/-- The first comment option that has a value has such a one. -/
def FirstComment (options : List TableOption) (value : Literal) : Prop :=
  ∃ front option back, options = front ++ option :: back ∧ option.key = commentKey ∧ option.value = some value ∧
    ∀ earlier ∈ front, earlier.key = commentKey → earlier.value = none

namespace Table

structure FieldOf (table : Table) (column : Column) (field : ModelField) : Prop where
  hname : field.name = column.name
  htype : column.dataType.expression = .ok field.dataType
  hkey : field.isPrimaryKey = true ↔ ∃ fields, FirstKey table.entries fields ∧ column.name ∈ fields
  hnull : field.allowNull = column.allowNull
  hincrement : field.autoIncrement = column.autoIncrement
  hdefault : field.defaultValue = column.defaultValue
  hcomment : ∀ comment, field.comment = some comment ↔ column.comment = some comment ∧ comment ≠ []
  hscript : field.scriptType = ScriptType.ofKeyword column.dataType.name

/-- The model that is to come of a table with such columns. -/
structure ModelOf (table : Table) (singular : Text) (columns : List Column) (model : Model) : Prop where
  hname : model.tableName = table.name
  hbase : model.baseName = singular
  hfields : List.Forall₂ table.FieldOf columns model.fields
  hcomment : ∀ comment, model.comment = some comment ↔
    ∃ value, FirstComment table.options value ∧ comment = value.toText
  hsymbols : model.requiredSymbols = (model.fields.map (·.dataType.symbol)).eraseDups

/-- The results that may come of a table whose name has a singular. -/
inductive Yields (table : Table) (singular : Text) : Except Failure (Option Model) → Prop
  | unnamed (hname : table.name = []) : Yields table singular (.ok none)
  | empty (hcolumns : NamedColumns table.entries []) : Yields table singular (.ok none)
  | failed {front back : List Column} {column : Column} {cause : TypeError} (hname : table.name ≠ [])
      (hcolumns : NamedColumns table.entries (front ++ column :: back))
      (hfront : ∀ earlier ∈ front, ∃ e, earlier.dataType.expression = .ok e)
      (hcolumn : column.dataType.expression = .error cause) :
      Yields table singular (.error (.column table.name column.name cause))
  | made {columns : List Column} {model : Model} (hname : table.name ≠ [])
      (hcolumns : NamedColumns table.entries columns) (hne : columns ≠ [])
      (hmodel : table.ModelOf singular columns model) : Yields table singular (.ok (some model))

/-! ### Each part of the account -/

theorem namedColumns_iff : NamedColumns table.entries columns ↔ table.namedColumns = columns := by
  obtain ⟨name, entries, options⟩ := table
  show NamedColumns entries columns ↔ _
  constructor
  · intro h
    induction h with
    | nil => rfl
    | named hname h ih => simpa [namedColumns, hname] using ih
    | unnamed hname h ih => simpa [namedColumns, hname] using ih
    | primaryKey fields h ih => simpa [namedColumns] using ih
    | other h ih => simpa [namedColumns] using ih
  · intro h
    subst h
    induction entries with
    | nil => exact .nil
    | cons entry entries ih =>
      cases entry with
      | column column =>
        by_cases hname : column.name = []
        · simpa [namedColumns, hname] using NamedColumns.unnamed hname ih
        · simpa [namedColumns, hname] using NamedColumns.named hname ih
      | primaryKey fields => simpa [namedColumns] using NamedColumns.primaryKey fields ih
      | other => simpa [namedColumns] using NamedColumns.other ih

theorem primaryKey_of_firstKey {fields : List Text} (h : FirstKey table.entries fields) :
    table.primaryKey = fields := by
  obtain ⟨front, back, hentries, hfront⟩ := h
  rw [primaryKey, Option.getD_eq_iff]
  refine .inl (List.findSome?_eq_some_iff.2 ⟨front, .primaryKey fields, back, hentries, rfl, ?_⟩)
  intro entry hentry
  cases entry with
  | primaryKey earlier => exact absurd hentry (hfront earlier)
  | _ => rfl

theorem firstKey_of_ne_nil (h : table.primaryKey ≠ []) : FirstKey table.entries table.primaryKey := by
  rcases Option.getD_eq_iff.1 (Eq.refl table.primaryKey) with hfind | ⟨-, hnil⟩
  · obtain ⟨front, entry, back, hentries, hentry, hfront⟩ := List.findSome?_eq_some_iff.1 hfind
    cases entry with
    | primaryKey fields =>
      rw [Option.some.inj hentry] at hentries
      refine ⟨front, back, hentries, fun earlier hmem => ?_⟩
      cases hfront _ hmem
    | _ => cases hentry
  · exact absurd hnil.symm h

theorem mem_primaryKey_iff {name : Text} :
    name ∈ table.primaryKey ↔ ∃ fields, FirstKey table.entries fields ∧ name ∈ fields := by
  constructor
  · intro hname
    exact ⟨_, firstKey_of_ne_nil (List.ne_nil_of_mem hname), hname⟩
  · intro h
    obtain ⟨fields, hfirst, hname⟩ := h
    rw [primaryKey_of_firstKey hfirst]
    exact hname

theorem comment_eq_some_iff {comment : Text} : table.comment = some comment ↔
    ∃ value, FirstComment table.options value ∧ comment = value.toText := by
  rw [Table.comment, Option.map_eq_some_iff]
  refine exists_congr fun value => and_congr ?_ eq_comm
  rw [List.findSome?_eq_some_iff, FirstComment]
  simp only [Option.ite_none_right_eq_some, ite_eq_right_iff, and_assoc]

theorem contains_primaryKey_iff {name : Text} : table.primaryKey.contains name = true ↔
    ∃ fields, FirstKey table.entries fields ∧ name ∈ fields := by
  rw [List.contains_iff_mem, mem_primaryKey_iff]

theorem filter_comment_iff {kept : Option Text} : column.comment.filter (!·.isEmpty) = kept ↔
    ∀ comment, kept = some comment ↔ column.comment = some comment ∧ comment ≠ [] := by
  rw [eq_comm, Option.ext_iff]
  simp

theorem fieldOf_iff : table.FieldOf column field ↔ table.field column = .ok field := by
  constructor
  · intro h
    have hkey : table.primaryKey.contains column.name = field.isPrimaryKey := by
      rw [Bool.eq_iff_iff, contains_primaryKey_iff, h.hkey]
    rw [Table.field, h.htype, hkey, filter_comment_iff.2 h.hcomment, ← h.hname, ← h.hnull, ← h.hincrement,
      ← h.hdefault, ← h.hscript]
  · intro h
    rw [Table.field] at h
    cases hexpression : column.dataType.expression with
    | error cause =>
      rw [hexpression] at h
      cases h
    | ok e =>
      rw [hexpression] at h
      cases h
      exact ⟨rfl, hexpression, contains_primaryKey_iff, rfl, rfl, rfl, filter_comment_iff.1 rfl, rfl⟩

theorem fields_iff {fields : List ModelField} :
    List.Forall₂ table.FieldOf columns fields ↔ columns.mapM table.field = .ok fields := by
  have hfield : table.FieldOf = fun column field => table.field column = .ok field := by
    funext column field
    exact propext fieldOf_iff
  rw [hfield, mapM_eq_ok_iff]

theorem modelOf_iff {model : Model} : table.ModelOf singular columns model ↔
    ∃ fields, columns.mapM table.field = .ok fields ∧ model = {
      tableName := table.name
      baseName := singular
      fields
      comment := table.comment
      requiredSymbols := (fields.map (·.dataType.symbol)).eraseDups } := by
  constructor
  · intro h
    have hcomment : model.comment = table.comment := by
      apply Option.ext
      intro comment
      rw [h.hcomment, comment_eq_some_iff]
    refine ⟨model.fields, fields_iff.1 h.hfields, ?_⟩
    rw [← h.hname, ← h.hbase, ← hcomment, ← h.hsymbols]
  · intro h
    obtain ⟨fields, hfields, rfl⟩ := h
    exact ⟨rfl, rfl, fields_iff.2 hfields, fun comment => comment_eq_some_iff, rfl⟩

theorem assemble_of_unnamed (hname : table.name = []) : table.assemble inflect = .ok none := by
  rw [assemble, if_pos (List.isEmpty_iff.2 hname)]

theorem assemble_of_fields {fields : List ModelField} (hname : table.name ≠ [])
    (hfields : table.namedColumns.mapM table.field = .ok fields) (hsingular : inflect table.name = .ok singular) :
    table.assemble inflect = .ok (if fields = [] then none else some {
      tableName := table.name
      baseName := singular
      fields
      comment := table.comment
      requiredSymbols := (fields.map (·.dataType.symbol)).eraseDups }) := by
  rw [assemble, if_neg (by simpa using hname)]
  refine bind_eq_ok.2 ⟨fields, hfields, ?_⟩
  rw [hsingular]
  cases fields <;> rfl

/-- The function yields a result that the account allows. -/
theorem yields_assemble (h : inflect table.name = .ok singular) : table.Yields singular (table.assemble inflect) := by
  by_cases hname : table.name = []
  · rw [assemble_of_unnamed hname]
    exact .unnamed hname
  have hcolumns : NamedColumns table.entries table.namedColumns := namedColumns_iff.2 rfl
  cases hfields : table.namedColumns.mapM table.field with
  | error failure =>
    have hresult : table.assemble inflect = .error failure :=
      assemble_error_iff.2 ⟨List.isEmpty_eq_false_iff.2 hname, .inl hfields⟩
    obtain ⟨front, column, back, hsplit, hfront, hcolumn⟩ := mapM_eq_error_iff.1 hfields
    obtain ⟨cause, hcause, rfl⟩ := field_eq_error_iff.1 hcolumn
    rw [hsplit] at hcolumns
    rw [hresult]
    exact .failed hname hcolumns (fun earlier hmem => field_isOk_iff.1 (hfront earlier hmem)) hcause
  | ok fields =>
    rw [assemble_of_fields hname hfields h]
    by_cases hnil : fields = []
    · rw [if_pos hnil]
      rw [(fields_eq_nil_iff hfields).1 hnil] at hcolumns
      exact .empty hcolumns
    · rw [if_neg hnil]
      have hne := mt (fields_eq_nil_iff hfields).2 hnil
      exact .made hname hcolumns hne (modelOf_iff.2 ⟨fields, hfields, rfl⟩)

/-- The account allows no other result. -/
theorem Yields.eq {result : Except Failure (Option Model)} (h : table.Yields singular result)
    (hsingular : inflect table.name = .ok singular) : table.assemble inflect = result := by
  cases h with
  | unnamed hname => exact assemble_of_unnamed hname
  | empty hcolumns =>
    by_cases hname : table.name = []
    · exact assemble_of_unnamed hname
    · have hfields : table.namedColumns.mapM table.field = .ok [] := by
        rw [namedColumns_iff.1 hcolumns]
        rfl
      rw [assemble_of_fields hname hfields hsingular, if_pos rfl]
  | @failed front back column cause hname hcolumns hfront hcolumn =>
    refine assemble_error_iff.2 ⟨List.isEmpty_eq_false_iff.2 hname, .inl ?_⟩
    rw [namedColumns_iff.1 hcolumns, mapM_eq_error_iff]
    have hfields : ∀ earlier ∈ front, ∃ field, table.field earlier = .ok field := fun earlier hmem =>
      field_isOk_iff.2 (hfront earlier hmem)
    exact ⟨front, column, back, rfl, hfields, field_eq_error_iff.2 ⟨cause, hcolumn, rfl⟩⟩
  | made hname hcolumns hne hmodel =>
    obtain ⟨fields, hfields, rfl⟩ := modelOf_iff.1 hmodel
    have hnil := mt (fields_eq_nil_iff hfields).1 hne
    rw [← namedColumns_iff.1 hcolumns] at hfields
    rw [assemble_of_fields hname hfields hsingular, if_neg hnil]

/-! ### Edits that do not show -/

/-- A table after an edit that its model does not show. -/
inductive Edit : Table → Table → Prop
  /-- A primary key moves behind the column that it stood before. -/
  | moveKey {name : Text} {options : List TableOption} (front : List TableEntry) (fields : List Text) (column : Column)
      (back : List TableEntry) : Edit { name, entries := front ++ .primaryKey fields :: .column column :: back, options }
        { name, entries := front ++ .column column :: .primaryKey fields :: back, options }
  /-- A primary key comes in behind another. -/
  | addKey {name : Text} {options : List TableOption} {front : List TableEntry} {fields : List Text}
      (hfirst : .primaryKey fields ∈ front) (later : List Text) (back : List TableEntry) :
      Edit { name, entries := front ++ back, options } { name, entries := front ++ .primaryKey later :: back, options }
  /-- A column without a name comes in. -/
  | addColumn {name : Text} {options : List TableOption} (front : List TableEntry) {column : Column}
      (hname : column.name = []) (back : List TableEntry) :
      Edit { name, entries := front ++ back, options } { name, entries := front ++ .column column :: back, options }
  /-- Another key comes in. -/
  | addOther {name : Text} {options : List TableOption} (front back : List TableEntry) :
      Edit { name, entries := front ++ back, options } { name, entries := front ++ .other :: back, options }
  /-- An option comes in that is no comment, or has no value, or stands behind a comment that has. -/
  | addOption {name : Text} {entries : List TableEntry} {front : List TableOption} {option : TableOption}
      (hidden : option.key ≠ commentKey ∨ option.value = none ∨
        ∃ earlier ∈ front, earlier.key = commentKey ∧ earlier.value ≠ none) (back : List TableOption) :
      Edit { name, entries, options := front ++ back } { name, entries, options := front ++ option :: back }

theorem assemble_congr (hname : table.name = other.name) (hcolumns : table.namedColumns = other.namedColumns)
    (hkey : table.primaryKey = other.primaryKey) (hcomment : table.comment = other.comment) :
    table.assemble inflect = other.assemble inflect := by
  have hfield : table.field = other.field := by
    funext column
    rw [field, field, hname, hkey]
  rw [assemble, assemble, hname, hcolumns, hcomment, hfield]

/-- A search does not see what it passes over, nor what stands behind a hit. -/
theorem findSome?_insert {α β : Type} {f : α → Option β} {front : List α} {a : α}
    (h : f a = none ∨ ∃ b ∈ front, f b ≠ none) (back : List α) :
    (front ++ back).findSome? f = (front ++ a :: back).findSome? f := by
  rw [List.findSome?_append, List.findSome?_append, List.findSome?_cons]
  rcases h with ha | ⟨b, hmem, hb⟩
  · rw [ha]
  · cases hfind : front.findSome? f with
    | none => exact absurd (List.findSome?_eq_none_iff.1 hfind b hmem) hb
    | some hit => rfl

theorem Edit.assemble_eq (h : Edit table other) : table.assemble inflect = other.assemble inflect := by
  cases h with
  | moveKey front fields column back =>
    refine assemble_congr rfl ?_ ?_ rfl
    · by_cases hname : column.name = []
      · simp [namedColumns, hname]
      · simp [namedColumns, hname]
    · simp [primaryKey, List.findSome?_append]
  | @addKey _ _ _ fields hfirst later back =>
    refine assemble_congr rfl ?_ ?_ rfl
    · simp [namedColumns]
    · exact congrArg (Option.getD · []) (findSome?_insert (.inr ⟨_, hfirst, Option.some_ne_none fields⟩) back)
  | addColumn front hname back =>
    refine assemble_congr rfl ?_ ?_ rfl
    · simp [namedColumns, hname]
    · exact congrArg (Option.getD · []) (findSome?_insert (.inl rfl) back)
  | addOther front back =>
    refine assemble_congr rfl ?_ ?_ rfl
    · simp [namedColumns]
    · exact congrArg (Option.getD · []) (findSome?_insert (.inl rfl) back)
  | addOption hidden back =>
    refine assemble_congr rfl rfl rfl (congrArg (Option.map Literal.toText) (findSome?_insert ?_ back))
    rcases hidden with hkey | hvalue | ⟨earlier, hmem, hkey, hvalue⟩
    · exact .inl (if_neg hkey)
    · refine .inl ?_
      rw [hvalue, ite_self]
    · refine .inr ⟨earlier, hmem, ?_⟩
      rw [if_pos hkey]
      exact hvalue

/-- A result depends on a table only as the account of it does: it is the one that the account allows, and edits that
the account does not look at do not change it. -/
theorem assemble_reference (h : inflect table.name = .ok singular) :
    (∀ result, table.assemble inflect = result ↔ table.Yields singular result) ∧
    ∀ other, Relation.EqvGen Edit table other → other.assemble inflect = table.assemble inflect := by
  refine ⟨fun result => ⟨?_, fun hresult => hresult.eq h⟩, fun other hedits => ?_⟩
  · intro hresult
    rw [← hresult]
    exact yields_assemble h
  · clear h
    induction hedits with
    | rel table other hedit => exact hedit.assemble_eq.symm
    | refl table => rfl
    | symm table other hedits ih => exact ih.symm
    | trans table between other hfirst hsecond ih ih' => exact ih'.trans ih

def idColumn : Column :=
  { name := "id", dataType := { name := "INT" } }

def plainTable : Table where
  name := "people"
  entries := [.column idColumn, .primaryKey ["id"]]

/-- The same table with the primary key in front of the column, and behind it a column without a name that has no type
and a second primary key. -/
def mixedTable : Table where
  name := "people"
  entries := [.primaryKey ["id"], .column idColumn, .column {}, .primaryKey []]

theorem mixedTable_reference : English.singular plainTable.name = .ok "person" ∧
    plainTable.Yields "person" (plainTable.assemble English.singular) ∧
    mixedTable.assemble English.singular = plainTable.assemble English.singular := by
  have hsingular : English.singular plainTable.name = .ok "person" := by decide +kernel
  obtain ⟨hyields, hedits⟩ := assemble_reference hsingular
  refine ⟨hsingular, (hyields _).1 rfl, hedits mixedTable ?_⟩
  let front : List TableEntry := [.primaryKey ["id"], .column idColumn]
  have hfirst : TableEntry.primaryKey ["id"] ∈ front ++ [.column {}] := by simp [front]
  have hmove : Edit { plainTable with entries := front } plainTable := .moveKey [] ["id"] idColumn []
  have hcolumn : Edit { plainTable with entries := front } { plainTable with entries := front ++ [.column {}] } :=
    .addColumn front rfl []
  have hkey : Edit { plainTable with entries := front ++ [.column {}] } mixedTable := .addKey hfirst [] []
  exact ((Relation.EqvGen.rel _ _ hmove).symm.trans _ _ _ (.rel _ _ hcolumn)).trans _ _ _ (.rel _ _ hkey)

/-- The second primary key and the column without a name leave no trace. -/
example : mixedTable.assemble .verbatim = .ok (some {
    tableName := "people"
    baseName := "people"
    fields := [{ name := "id", dataType := { symbol := "INTEGER" }, isPrimaryKey := true, scriptType := .number }]
    requiredSymbols := ["INTEGER"] }) := by
  decide +kernel

end Table

end TableModel
