import TableModel.Proofs.Json.Printing
import TableModel.Proofs.Schema.Parts
import TableModel.Proofs.Schema.Trees

/-!
# How statements are written

The forms of statements as JSON values, in which every record is an object. Its members may stand in any order, the
tag among them, and those that have their default may be left out. The columns of a primary key may be repeated,
of which only the first counts. A statement or an entry of an ignored kind may hold anything that is not nested too
deep. Together with the forms of values this gives the texts that write a list of statements, and each of them is
read back as this list.
-/

namespace TableModel

open Read Json

/-! ### The forms -/

/-- Members that write all fields of a record come down to other members: some with their default are left out, and
the rest stands in any order. -/
def RecordKind.Writes (kind : RecordKind) (all members : List (Text × Json)) : Prop :=
  ∃ omitted, all.Perm (omitted ++ members) ∧
    ∀ m ∈ omitted, ∃ field ∈ kind.fields, field.key = m.1 ∧ field.default = some m.2

def Literal.toJson : Literal → Json
  | .number n => .number n
  | .text t => .string t

def Json.ofOption {α : Type} (toJson : α → Json) : Option α → Json
  | none => .null
  | some a => toJson a

def ColumnType.members (t : ColumnType) : List (Text × Json) :=
  [("type", .string t.name), ("params", .array (t.params.map Literal.toJson)), ("unsigned", .boolean t.unsigned),
    ("zerofill", .boolean t.zerofill)]

inductive ColumnType.Form (t : ColumnType) : Json → Prop
  | object {members : List (Text × Json)} (h : RecordKind.columnType.Writes t.members members) :
      Form t (.object members)

def Column.members (c : Column) (dataType : Json) : List (Text × Json) :=
  [("name", .string c.name), ("data_type", dataType), ("allow_null", .boolean c.allowNull),
    ("auto_increment", .boolean c.autoIncrement), ("default_value", .ofOption Literal.toJson c.defaultValue),
    ("comment", .ofOption .string c.comment)]

def primaryKeyMembers (names : List Text) : List (Text × Json) :=
  [("fields", .array (names.map .string))]

def entryLevels : Nat := nestingLimit - 4

def statementLevels : Nat := nestingLimit - 2

inductive TableEntry.Form : TableEntry → Json → Prop
  | column {c : Column} {dataType : Json} {front back : List (Text × Json)} (htype : c.dataType.Form dataType)
      (h : RecordKind.column.Writes (c.members dataType) (front ++ back)) :
      Form (.column c) (.object (front ++ (tagField, .string "column") :: back))
  | primaryKey {names : List Text} {front back : List (Text × Json)}
      (h : RecordKind.primaryKey.Writes (primaryKeyMembers names) (front ++ back)) :
      Form (.primaryKey names.eraseDups) (.object (front ++ (tagField, .string "primary_key") :: back))
  | other {name : Text} {front back : List (Text × Json)} (hname : name ≠ "column" ∧ name ≠ "primary_key")
      (htag : ∀ m ∈ front ++ back, m.1 ≠ tagField) (hfits : ∀ m ∈ front ++ back, Fits entryLevels m.2) :
      Form .other (.object (front ++ (tagField, .string name) :: back))

def TableOption.members (o : TableOption) : List (Text × Json) :=
  [("key", .string o.key), ("value", .ofOption Literal.toJson o.value)]

inductive TableOption.Form (o : TableOption) : Json → Prop
  | object {members : List (Text × Json)} (h : RecordKind.option.Writes o.members members) : Form o (.object members)

def Table.members (t : Table) (entries options : List Json) : List (Text × Json) :=
  [("name", .string t.name), ("columns", .array entries), ("options", .array options)]

inductive Statement.Form : Statement → Json → Prop
  | createTable {t : Table} {entries options : List Json} {front back : List (Text × Json)}
      (hentries : List.Forall₂ TableEntry.Form t.entries entries)
      (hoptions : List.Forall₂ TableOption.Form t.options options)
      (h : RecordKind.table.Writes (t.members entries options) (front ++ back)) :
      Form (.createTable t) (.object (front ++ (tagField, .string "create_table") :: back))
  | other {name : Text} {front back : List (Text × Json)} (hname : name ≠ "create_table")
      (htag : ∀ m ∈ front ++ back, m.1 ≠ tagField) (hfits : ∀ m ∈ front ++ back, Fits statementLevels m.2) :
      Form .other (.object (front ++ (tagField, .string name) :: back))

/-! ### Records are read back -/

namespace RecordKind.Writes

variable {kind : RecordKind} {all members : List (Text × Json)}

theorem refl (kind : RecordKind) (all : List (Text × Json)) : kind.Writes all all :=
  ⟨[], .refl all, by simp⟩

theorem forall_mem {p : Text × Json → Prop} (h : kind.Writes all members) (hall : ∀ m ∈ all, p m) :
    ∀ m ∈ members, p m := by
  obtain ⟨omitted, hperm, -⟩ := h
  exact fun m hm => hall m (hperm.mem_iff.2 (List.mem_append_right omitted hm))

theorem ofMembers {r : kind.type} (h : kind.Writes all members) (hall : kind.format.ofMembers all = .ok r) :
    kind.format.ofMembers members = .ok r := by
  obtain ⟨omitted, hperm, hdefaults⟩ := h
  replace hall := RecordFormat.ofMembers_perm kind.independent hperm hall
  clear hperm
  induction omitted with
  | nil => exact hall
  | cons m omitted ih =>
    obtain ⟨hfirst, hdefaults⟩ := List.forall_mem_cons.1 hdefaults
    obtain ⟨field, hfield, hkey, hdefault⟩ := hfirst
    obtain ⟨f, hf, hdescribes⟩ := describes_mem hfield
    obtain ⟨hrequired, hstart⟩ := hdescribes.hdefault hdefault
    rw [hkey] at hf
    exact ih hdefaults (@RecordFormat.ofMembers_default _ _ [] _ _ _ _ _ kind.independent hf hrequired hstart hall)

end RecordKind.Writes

theorem Literal.decoder_toJson (l : Literal) : decoder.ofJson l.toJson = .ok l := by
  cases l <;> rfl

theorem Decoder.mapM_of_forall₂ {α : Type} {d : Decoder α} {as : List α} {values : List Json}
    (h : List.Forall₂ (fun a v => d.ofJson v = .ok a) as values) : values.mapM d.ofJson = .ok as := by
  induction h with
  | nil => rfl
  | cons hfirst _ ih => exact mapM_cons_eq_ok.2 ⟨_, _, hfirst, ih, rfl⟩

theorem Decoder.mapM_toJson {α : Type} {d : Decoder α} {toJson : α → Json} (h : ∀ a, d.ofJson (toJson a) = .ok a)
    (as : List α) : (as.map toJson).mapM d.ofJson = .ok as :=
  mapM_of_forall₂ (List.forall₂_map_right_iff.2 (List.forall₂_same.2 fun a _ => h a))

theorem Decoder.optional_toJson {α : Type} {d : Decoder α} {toJson : α → Json} (h : ∀ a, d.ofJson (toJson a) = .ok a)
    (hnull : ∀ a, toJson a ≠ .null) (a : Option α) : (optional d).ofJson (.ofOption toJson a) = .ok a := by
  cases a with
  | none => rfl
  | some a => exact optional_eq_ok.2 (.inr ⟨hnull a, a, h a, rfl⟩)

theorem ColumnType.ofMembers (t : ColumnType) : ColumnType.format.ofMembers t.members = .ok t := by
  apply RecordFormat.ofMembers_of_names (RecordKind.independent .columnType) rfl
  have hparams := Decoder.mapM_toJson Literal.decoder_toJson t.params
  refine bind_eq_ok.2 ⟨{ name := t.name }, rfl, ?_⟩
  refine bind_eq_ok.2 ⟨{ name := t.name, params := t.params }, Field.of_eq_ok.2 ⟨_, hparams, rfl⟩, ?_⟩
  exact bind_eq_ok.2 ⟨_, rfl, bind_eq_ok.2 ⟨_, rfl, rfl⟩⟩

theorem ColumnType.Form.read {t : ColumnType} {v : Json} (h : t.Form v) :
    ColumnType.format.decoder.ofJson v = .ok t := by
  cases h with
  | object h => exact h.ofMembers t.ofMembers

theorem Column.ofMembers (c : Column) {dataType : Json} (htype : c.dataType.Form dataType) :
    Column.format.ofMembers (c.members dataType) = .ok c := by
  apply RecordFormat.ofMembers_of_names (RecordKind.independent .column) rfl
  have hdefault := Decoder.optional_toJson Literal.decoder_toJson (by rintro (_ | _) ⟨⟩) c.defaultValue
  have hcomment := @Decoder.optional_toJson _ Decoder.string .string (fun _ => rfl) (by rintro _ ⟨⟩) c.comment
  refine bind_eq_ok.2 ⟨{ name := c.name }, rfl, ?_⟩
  refine bind_eq_ok.2 ⟨{ name := c.name, dataType := c.dataType }, Field.of_eq_ok.2 ⟨_, htype.read, rfl⟩, ?_⟩
  refine bind_eq_ok.2 ⟨_, rfl, bind_eq_ok.2 ⟨_, rfl, ?_⟩⟩
  refine bind_eq_ok.2 ⟨_, Field.of_eq_ok.2 ⟨_, hdefault, rfl⟩, ?_⟩
  exact bind_eq_ok.2 ⟨_, Field.of_eq_ok.2 ⟨_, hcomment, rfl⟩, rfl⟩

theorem primaryKey_ofMembers (names : List Text) :
    primaryKeyFormat.ofMembers (primaryKeyMembers names) = .ok names.eraseDups := by
  apply RecordFormat.ofMembers_of_names (RecordKind.independent .primaryKey) rfl
  have hnames : (names.map Json.string).mapM Decoder.string.ofJson = .ok names :=
    Decoder.mapM_toJson (fun _ => rfl) names
  have hlist : (Decoder.list "a set" Decoder.string).ofJson (.array (names.map .string)) = .ok names := hnames
  exact bind_eq_ok.2 ⟨_, Field.of_eq_ok.2 ⟨_, Decoder.map_eq_ok.2 ⟨_, hlist, rfl⟩, rfl⟩, rfl⟩

theorem TableOption.ofMembers (o : TableOption) : TableOption.format.ofMembers o.members = .ok o := by
  apply RecordFormat.ofMembers_of_names (RecordKind.independent .option) rfl
  have hvalue := Decoder.optional_toJson Literal.decoder_toJson (by rintro (_ | _) ⟨⟩) o.value
  exact bind_eq_ok.2 ⟨{ key := o.key }, rfl, bind_eq_ok.2 ⟨_, Field.of_eq_ok.2 ⟨_, hvalue, rfl⟩, rfl⟩⟩

theorem TableOption.Form.read {o : TableOption} {v : Json} (h : o.Form v) :
    TableOption.format.decoder.ofJson v = .ok o := by
  cases h with
  | object h => exact h.ofMembers o.ofMembers

/-! ### Tagged values are read back -/

/-- Of the members of a record beside a tag none is taken for the tag. -/
theorem RecordKind.Writes.ne_tag {kind : RecordKind} {all members : List (Text × Json)} (h : kind.Writes all members)
    (hall : all.map Prod.fst = kind.fields.map FieldPart.key) (hkind : ∀ field ∈ kind.fields, field.key ≠ tagField) :
    ∀ m ∈ members, m.1 ≠ tagField := by
  refine h.forall_mem fun m hm => ?_
  have hmem := List.mem_map_of_mem (f := Prod.fst) hm
  rw [hall] at hmem
  obtain ⟨field, hfield, hkey⟩ := List.mem_map.1 hmem
  rw [← hkey]
  exact hkind field hfield

theorem TaggedKind.ofBody_none {kind : TaggedKind} {name : Text} (h : kind.select (.string name) = none)
    (members : List (Text × Json)) : kind.format.ofBody (.name name) (.object members) = .ok kind.format.other := by
  have htag : Tag.ofJson (.string name) = .ok (.name name) := rfl
  unfold TaggedFormat.ofBody
  rw [TaggedKind.variant?_eq_none htag h]

theorem TableEntry.Form.read {entry : TableEntry} {v : Json} (h : entry.Form v) :
    TableEntry.format.ofJson v = .ok entry := by
  cases h with
  | column htype h =>
    refine (TaggedFormat.ofJson_tag_eq_ok (h.ne_tag rfl (by decide))).2 ⟨_, rfl, ?_⟩
    exact Decoder.map_eq_ok.2 ⟨_, h.ofMembers (Column.ofMembers _ htype), rfl⟩
  | primaryKey h =>
    refine (TaggedFormat.ofJson_tag_eq_ok (h.ne_tag rfl (by decide))).2 ⟨_, rfl, ?_⟩
    exact Decoder.map_eq_ok.2 ⟨_, h.ofMembers (primaryKey_ofMembers _), rfl⟩
  | @other name front back hname htag _ =>
    have hselect : TaggedKind.entry.select (.string name) = none := by
      simp only [TaggedKind.select, TaggedKind.kinds, List.lookup_cons, List.lookup_nil, beq_false_of_ne hname.1,
        beq_false_of_ne hname.2]
    exact (TaggedFormat.ofJson_tag_eq_ok htag).2 ⟨_, rfl, TaggedKind.ofBody_none hselect _⟩

theorem Table.ofMembers (t : Table) {entries options : List Json}
    (hentries : List.Forall₂ TableEntry.Form t.entries entries)
    (hoptions : List.Forall₂ TableOption.Form t.options options) :
    Table.format.ofMembers (t.members entries options) = .ok t := by
  apply RecordFormat.ofMembers_of_names (RecordKind.independent .table) rfl
  have hcolumns : entries.mapM TableEntry.format.decoder.ofJson = .ok t.entries :=
    Decoder.mapM_of_forall₂ (hentries.imp fun _ _ h => h.read)
  have hvalues := Decoder.mapM_of_forall₂ (hoptions.imp fun _ _ h => h.read)
  refine bind_eq_ok.2 ⟨{ name := t.name }, rfl, ?_⟩
  refine bind_eq_ok.2 ⟨{ name := t.name, entries := t.entries }, Field.of_eq_ok.2 ⟨_, hcolumns, rfl⟩, ?_⟩
  exact bind_eq_ok.2 ⟨_, Field.of_eq_ok.2 ⟨_, hvalues, rfl⟩, rfl⟩

theorem Statement.Form.read {statement : Statement} {v : Json} (h : statement.Form v) :
    Statement.format.ofJson v = .ok statement := by
  cases h with
  | createTable hentries hoptions h =>
    refine (TaggedFormat.ofJson_tag_eq_ok (h.ne_tag rfl (by decide))).2 ⟨_, rfl, ?_⟩
    exact Decoder.map_eq_ok.2 ⟨_, h.ofMembers (Table.ofMembers _ hentries hoptions), rfl⟩
  | @other name front back hname htag _ =>
    have hselect : TaggedKind.statement.select (.string name) = none := by
      simp only [TaggedKind.select, TaggedKind.kinds, List.lookup_cons, List.lookup_nil, beq_false_of_ne hname]
    exact (TaggedFormat.ofJson_tag_eq_ok htag).2 ⟨_, rfl, TaggedKind.ofBody_none hselect _⟩

/-! ### No form is nested too deep -/

theorem Literal.isScalar_toJson (l : Literal) : IsScalar l.toJson := by
  cases l <;> trivial

theorem isScalar_ofOption {α : Type} {toJson : α → Json} (h : ∀ a, IsScalar (toJson a)) (a : Option α) :
    IsScalar (.ofOption toJson a) := by
  cases a with
  | none => trivial
  | some a => exact h a

theorem ColumnType.Form.fits {t : ColumnType} {v : Json} (h : t.Form v) : Fits 2 v := by
  cases h with
  | object h =>
    refine fits_object.2 ⟨1, rfl, h.forall_mem ?_⟩
    simp only [ColumnType.members, List.forall_mem_cons, List.not_mem_nil, false_implies, implies_true, and_true]
    refine ⟨trivial, List.forall_mem_map.2 fun l _ => ?_, trivial, trivial⟩
    exact fits_of_isScalar l.isScalar_toJson 0

theorem Column.fits_members (c : Column) {dataType : Json} (htype : c.dataType.Form dataType) :
    ∀ m ∈ c.members dataType, Fits 2 m.2 := by
  simp only [Column.members, List.forall_mem_cons, List.not_mem_nil, false_implies, implies_true, and_true]
  refine ⟨trivial, htype.fits, trivial, trivial, ?_, ?_⟩
  · exact fits_of_isScalar (isScalar_ofOption Literal.isScalar_toJson _) 2
  · exact fits_of_isScalar (@isScalar_ofOption _ Json.string (fun _ => trivial) c.comment) 2

theorem fits_primaryKeyMembers (names : List Text) : ∀ m ∈ primaryKeyMembers names, Fits 1 m.2 := by
  simp only [primaryKeyMembers, List.forall_mem_cons, List.not_mem_nil, false_implies, implies_true, and_true]
  exact List.forall_mem_map.2 fun _ _ => trivial

theorem TableOption.Form.fits {o : TableOption} {v : Json} (h : o.Form v) : Fits 1 v := by
  cases h with
  | object h =>
    refine fits_object.2 ⟨0, rfl, h.forall_mem ?_⟩
    simp only [TableOption.members, List.forall_mem_cons, List.not_mem_nil, false_implies, implies_true, and_true]
    exact ⟨trivial, fits_of_isScalar (isScalar_ofOption Literal.isScalar_toJson _) 0⟩

theorem fits_tagged {levels : Nat} {name : Text} {front back : List (Text × Json)}
    (h : ∀ m ∈ front ++ back, Fits levels m.2) :
    Fits (levels + 1) (.object (front ++ (tagField, .string name) :: back)) := by
  obtain ⟨hfront, hback⟩ := List.forall_mem_append.1 h
  have hname : Fits levels (.string name) := fits_of_isScalar (v := .string name) trivial levels
  exact List.forall_mem_append.2 ⟨hfront, List.forall_mem_cons.2 ⟨hname, hback⟩⟩

theorem TableEntry.Form.fits {entry : TableEntry} {v : Json} (h : entry.Form v) : Fits (entryLevels + 1) v := by
  cases h with
  | @column c _ _ _ htype h =>
    exact fits_tagged fun m hm => fits_mono (h.forall_mem (c.fits_members htype) m hm) (by decide)
  | @primaryKey names _ _ h =>
    exact fits_tagged fun m hm => fits_mono (h.forall_mem (fits_primaryKeyMembers names) m hm) (by decide)
  | other _ _ hfits => exact fits_tagged hfits

theorem forall_mem_of_forall₂ {α β : Type} {R : α → β → Prop} {p : β → Prop} {as : List α} {bs : List β}
    (h : List.Forall₂ R as bs) (hp : ∀ {a b}, R a b → p b) : ∀ b ∈ bs, p b := by
  induction h with
  | nil => simp
  | cons hfirst _ ih => exact List.forall_mem_cons.2 ⟨hp hfirst, ih⟩

theorem Table.fits_members (t : Table) {entries options : List Json}
    (hentries : List.Forall₂ TableEntry.Form t.entries entries)
    (hoptions : List.Forall₂ TableOption.Form t.options options) :
    ∀ m ∈ t.members entries options, Fits statementLevels m.2 := by
  simp only [Table.members, List.forall_mem_cons, List.not_mem_nil, false_implies, implies_true, and_true]
  refine ⟨trivial, fits_array.2 ⟨entryLevels + 1, rfl, ?_⟩, fits_array.2 ⟨entryLevels + 1, rfl, ?_⟩⟩
  · exact forall_mem_of_forall₂ hentries fun h => h.fits
  · exact forall_mem_of_forall₂ hoptions fun h => fits_mono h.fits (by decide)

theorem Statement.Form.fits {statement : Statement} {v : Json} (h : statement.Form v) :
    Fits (statementLevels + 1) v := by
  cases h with
  | @createTable t _ _ _ _ hentries hoptions h => exact fits_tagged (h.forall_mem (t.fits_members hentries hoptions))
  | other _ _ hfits => exact fits_tagged hfits

/-! ### Documents are read back -/

theorem namedTag_tagged {name : Text} {front back : List (Text × Json)} (h : ∀ m ∈ front ++ back, m.1 ≠ tagField) :
    NamedTag (.object (front ++ (tagField, .string name) :: back)) := by
  obtain ⟨hfront, hback⟩ := List.forall_mem_append.1 h
  refine List.forall_mem_append.2 ⟨fun m hm htag => absurd htag (hfront m hm), List.forall_mem_cons.2 ⟨?_, ?_⟩⟩
  · exact fun _ => ⟨name, rfl⟩
  · exact fun m hm htag => absurd htag (hback m hm)

theorem Statement.Form.namedTag {statement : Statement} {v : Json} (h : statement.Form v) : v.NamedTag := by
  cases h with
  | createTable _ _ h => exact namedTag_tagged (h.ne_tag rfl (by decide))
  | other _ htag _ => exact namedTag_tagged htag

theorem lists_of_forms {statements : List Statement} {values : List Json}
    (h : List.Forall₂ Statement.Form statements values) : (Json.array values).Lists statements where
  hfits := fits_array.2 ⟨statementLevels + 1, rfl, forall_mem_of_forall₂ h fun h => h.fits⟩
  hnamed := by
    rintro _ ⟨⟩
    exact forall_mem_of_forall₂ h fun h => h.namedTag
  hread := Decoder.mapM_of_forall₂ (h.imp fun _ _ hform => hform.read)

/-- Every text that writes a list of statements is read back as this list. -/
theorem readStatements_of_forms {statements : List Statement} {values : List Json} {s : Text}
    (h : List.Forall₂ Statement.Form statements values) (hs : DocumentSpelling (.array values) s) :
    readStatements s = .ok statements :=
  readStatements_iff.2 ⟨.array values, hs, lists_of_forms h⟩

/-- A table with a primary key that repeats a column, a column that leaves out fields, and an ignored key. -/
def writtenTable : Table :=
  { name := "users"
    entries := [
      .primaryKey ["id", "town"],
      .column {
        name := "id", defaultValue := some (.number (.integer (-9223372036854775808))), comment := some "\u00e9" },
      .other] }

def writtenStatements : List Statement :=
  [.createTable writtenTable, .other]

def writtenEntries : List Json :=
  [.object [("type", .string "primary_key"), ("fields", .array [.string "id", .string "town", .string "id"])],
    .object [("default_value", .number (.integer (-9223372036854775808))), ("type", .string "column"),
      ("comment", .string "\u00e9"), ("name", .string "id"), ("data_type", .object [])],
    .object [("type", .string "unique_key"), ("fields", .null)]]

def writtenValues : List Json :=
  [.object [("columns", .array writtenEntries), ("name", .string "users"), ("type", .string "create_table")],
    .object [("type", .string "drop_table"), ("name", .array [])]]

theorem writtenEntries_forms : List.Forall₂ TableEntry.Form writtenTable.entries writtenEntries := by
  refine .cons (@TableEntry.Form.primaryKey ["id", "town", "id"] [] _ (.refl _ _)) (.cons ?_ (.cons ?_ .nil))
  · have htype : ColumnType.Form {} (.object []) := by
      refine .object ⟨_, List.Perm.of_eq (List.append_nil _).symm, ?_⟩
      refine List.forall_mem_cons.2 ⟨⟨_, List.mem_of_getElem? (i := 0) rfl, rfl, rfl⟩, ?_⟩
      refine List.forall_mem_cons.2 ⟨⟨_, List.mem_of_getElem? (i := 1) rfl, rfl, rfl⟩, ?_⟩
      refine List.forall_mem_cons.2 ⟨⟨_, List.mem_of_getElem? (i := 2) rfl, rfl, rfl⟩, ?_⟩
      exact List.forall_mem_singleton.2 ⟨_, List.mem_of_getElem? (i := 3) rfl, rfl, rfl⟩
    refine @TableEntry.Form.column _ (.object []) [_] [_, _, _] htype
      ⟨[("allow_null", .boolean false), ("auto_increment", .boolean false)], ?_, ?_⟩
    · exact @List.perm_append_comm _ [_, _] [_, _, _, _]
    · refine List.forall_mem_cons.2 ⟨⟨_, List.mem_of_getElem? (i := 2) rfl, rfl, rfl⟩, ?_⟩
      exact List.forall_mem_singleton.2 ⟨_, List.mem_of_getElem? (i := 3) rfl, rfl, rfl⟩
  · exact @TableEntry.Form.other "unique_key" [] [_] (by decide) (by simp; decide) (by simp [Fits])

theorem writtenValues_forms : List.Forall₂ Statement.Form writtenStatements writtenValues := by
  refine .cons ?_ (.cons ?_ .nil)
  · refine @Statement.Form.createTable _ _ [] [_, _] [] writtenEntries_forms .nil ⟨[("options", .array [])], ?_, ?_⟩
    · exact (List.reverse_perm _).symm
    · exact List.forall_mem_singleton.2 ⟨_, List.mem_of_getElem? (i := 2) rfl, rfl, rfl⟩
  · have hfits : Fits statementLevels (.array []) := fits_array.2 ⟨_, rfl, List.forall_mem_nil _⟩
    exact @Statement.Form.other "drop_table" [] [_] (by decide) (by simp; decide) (List.forall_mem_singleton.2 hfits)

/-- Blanks may surround the document. -/
theorem readStatements_of_forms_written :
    readStatements (" \n" ++ (Json.array writtenValues).print ++ "\t") = .ok writtenStatements := by
  have hintegral : (Json.array writtenValues).Integral := by simp [writtenValues, writtenEntries, InRange]
  exact readStatements_of_forms writtenValues_forms
    ⟨" \n", _, "\t", rfl, by simp [Text.Blank], by simp [Text.Blank], spelling_print hintegral⟩

/-! ### Every list of statements can be written -/

/-- The numbers are integers of 64 bits, and no primary key names a column twice. -/
def TableEntry.Writable : TableEntry → Prop
  | column c => (∀ l ∈ c.dataType.params, l.toJson.Integral) ∧ ∀ l ∈ c.defaultValue, l.toJson.Integral
  | primaryKey fields => fields.Nodup
  | other => True

def Statement.Writable : Statement → Prop
  | createTable t => (∀ entry ∈ t.entries, entry.Writable) ∧ ∀ o ∈ t.options, ∀ l ∈ o.value, l.toJson.Integral
  | other => True

theorem exists_forall₂ {α β : Type} {R : α → β → Prop} {p : β → Prop} {as : List α}
    (h : ∀ a ∈ as, ∃ b, R a b ∧ p b) : ∃ bs, List.Forall₂ R as bs ∧ ∀ b ∈ bs, p b := by
  induction as with
  | nil => exact ⟨[], .nil, by simp⟩
  | cons a as ih =>
    obtain ⟨⟨b, hb, hp⟩, has⟩ := List.forall_mem_cons.1 h
    obtain ⟨bs, hbs, hall⟩ := ih has
    exact ⟨b :: bs, .cons hb hbs, List.forall_mem_cons.2 ⟨hp, hall⟩⟩

theorem eraseDups_of_nodup {names : List Text} (h : names.Nodup) : names.eraseDups = names := by
  induction names with
  | nil => rfl
  | cons name names ih =>
    obtain ⟨hname, hnames⟩ := List.nodup_cons.1 h
    have hfilter : (names.filter fun other => !other == name) = names := by
      rw [List.filter_eq_self]
      intro other hother
      have hne : other ≠ name := fun heq => hname (heq ▸ hother)
      simpa using hne
    rw [List.eraseDups_cons, hfilter, ih hnames]

theorem integral_ofOption {α : Type} {toJson : α → Json} {a : Option α} (h : ∀ x ∈ a, (toJson x).Integral) :
    (ofOption toJson a).Integral := by
  cases a with
  | none => exact .null
  | some a => exact h a rfl

theorem integral_tagged {name : Text} {members : List (Text × Json)} (h : ∀ m ∈ members, m.2.Integral) :
    (Json.object ([] ++ (tagField, .string name) :: members)).Integral :=
  .object (List.forall_mem_cons.2 ⟨.string name, h⟩)

theorem TableEntry.exists_form {entry : TableEntry} (h : entry.Writable) : ∃ v, entry.Form v ∧ v.Integral := by
  cases entry with
  | column c =>
    obtain ⟨hparams, hdefault⟩ := h
    refine ⟨_, .column (.object (.refl _ _)) (.refl _ _), integral_tagged ?_⟩
    simp only [ColumnType.members, List.forall_mem_cons, List.not_mem_nil, false_implies, implies_true, and_true]
    have hcomment := @integral_ofOption _ Json.string c.comment fun t _ => .string t
    refine ⟨.string _, .object ?_, .boolean _, .boolean _, integral_ofOption hdefault, hcomment⟩
    simp only [List.forall_mem_cons, List.not_mem_nil, false_implies, implies_true, and_true]
    exact ⟨.string _, .array (List.forall_mem_map.2 hparams), .boolean _, .boolean _⟩
  | primaryKey fields =>
    rw [← eraseDups_of_nodup h]
    refine ⟨_, .primaryKey (.refl _ _), integral_tagged ?_⟩
    simp only [List.forall_mem_cons, List.not_mem_nil, false_implies, implies_true, and_true]
    exact .array (List.forall_mem_map.2 fun t _ => .string t)
  | other =>
    have hname : ("key" : Text) ≠ "column" ∧ ("key" : Text) ≠ "primary_key" := by decide
    exact ⟨_, @TableEntry.Form.other "key" [] [] hname (by simp) (by simp), integral_tagged (by simp)⟩

theorem TableOption.exists_form {o : TableOption} (h : ∀ l ∈ o.value, l.toJson.Integral) :
    ∃ v, o.Form v ∧ v.Integral := by
  refine ⟨_, .object (.refl _ _), .object ?_⟩
  simp only [TableOption.members, List.forall_mem_cons, List.not_mem_nil, false_implies, implies_true, and_true]
  exact ⟨.string _, integral_ofOption h⟩

theorem Statement.exists_form {statement : Statement} (h : statement.Writable) :
    ∃ v, statement.Form v ∧ v.Integral := by
  cases statement with
  | createTable t =>
    obtain ⟨hentries, hoptions⟩ := h
    obtain ⟨entries, hentries, hcolumns⟩ :=
      exists_forall₂ fun entry hmem => TableEntry.exists_form (hentries entry hmem)
    obtain ⟨options, hoptions, hvalues⟩ := exists_forall₂ fun o hmem => TableOption.exists_form (hoptions o hmem)
    refine ⟨_, .createTable hentries hoptions (.refl _ _), integral_tagged ?_⟩
    simp only [List.forall_mem_cons, List.not_mem_nil, false_implies, implies_true, and_true]
    exact ⟨.string _, .array hcolumns, .array hvalues⟩
  | other =>
    have hname : ("drop_table" : Text) ≠ "create_table" := by decide
    exact ⟨_, @Statement.Form.other "drop_table" [] [] hname (by simp) (by simp), integral_tagged (by simp)⟩

/-- Statements that can be written are read from some text. -/
theorem exists_readStatements {statements : List Statement} (h : ∀ statement ∈ statements, statement.Writable) :
    ∃ values s, List.Forall₂ Statement.Form statements values ∧ DocumentSpelling (.array values) s := by
  obtain ⟨values, hforms, hintegral⟩ :=
    exists_forall₂ fun statement hmem => Statement.exists_form (h statement hmem)
  exact ⟨values, _, hforms, documentSpelling_print (.array hintegral)⟩

end TableModel
