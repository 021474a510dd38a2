import TableModel.Model.Generate
import TableModel.Proofs.Schema.Forms
import TableModel.Proofs.Schema.Mirrors

/-!
# Tables without a tag

A table may be read straight from the text of one object, or as a statement, whose object is read as a tree first and
then taken apart. On an object without members that a table or an option does not know the two routes agree. So with a
tag put in at any place the object is a statement that holds the same table, and all that is made of the statement is
what the table alone would give.
-/

namespace TableModel

open Json Read

/-! ### Tables -/

/-- An object has no keys but these. -/
def Json.KeysIn (keys : List Text) : Json → Prop
  | .object members => ∀ m ∈ members, m.1 ∈ keys
  | _ => True

theorem TableOption.mirrors : TableOption.format.decoder.Mirrors (KeysIn ["key", "value"]) := by
  have hvalue : (Decoder.optional Literal.decoder).Mirrors fun _ => True := by
    apply Decoder.Mirrors.optional (Decoder.mirrors_ofTree _)
    intro a h
    cases h
  have hdecoder : TableOption.format.decoder.Mirrors (TableOption.format.Admits fun _ _ => True) := by
    apply RecordFormat.decoder_mirrors
    refine List.forall_mem_cons.2 ⟨?_, List.forall_mem_singleton.2 ?_⟩
    · exact Field.mirrors_of (Decoder.mirrors_ofScalar _ _) _ _ _
    · exact Field.mirrors_of hvalue _ _ _
  apply hdecoder.mono
  intro v hv
  cases v with
  | object members => exact fun m hm => ⟨hv m hm, trivial⟩
  | array values => exact fun _ _ => trivial
  | _ => trivial

/-- What may stand under the keys of a table: anything, but no unknown keys in its options. -/
def Json.KnownOptions (key : Text) (v : Json) : Prop :=
  key = "options" → ∀ values, v = .array values → ∀ option ∈ values, option.KeysIn ["key", "value"]

theorem Table.mirrors : Table.format.decoder.Mirrors (Table.format.Admits KnownOptions) := by
  apply RecordFormat.decoder_mirrors
  refine List.forall_mem_cons.2 ⟨?_, List.forall_mem_cons.2 ⟨?_, List.forall_mem_singleton.2 ?_⟩⟩
  · exact Field.mirrors_of (Decoder.mirrors_ofScalar _ _) _ _ _
  · have hentries : TableEntry.format.decoder.Mirrors fun _ => True := TableEntry.format.readsTrees.mirrors
    apply (Field.mirrors_of (hentries.list _) _ _ _).mono
    exact fun _ _ _ _ _ _ => trivial
  · apply (Field.mirrors_of (TableOption.mirrors.list _) _ _ _).mono
    exact fun _ hv => hv rfl

/-- What is read directly is what the object holds as a tree. -/
theorem Table.ofMembers_of_document {members : List (Text × Json)} {s : Text} {t : Table}
    (hs : DocumentSpelling (.object members) s) (hfits : Fits nestingLimit (.object members))
    (hkeys : ∀ m ∈ members, m.1 ∈ Table.format.fields.map Field.name ∧ KnownOptions m.1 m.2)
    (ht : Table.format.decoder.document s = .ok t) : Table.format.ofMembers members = .ok t := by
  obtain ⟨rest, hread, -⟩ := Decoder.document_eq_ok.1 ht
  obtain ⟨rest', htree, -⟩ := read_document_iff.2 ⟨hs, hfits⟩
  exact (Table.mirrors nestingLimit hread htree hkeys).2

theorem Json.Lists.insert {before after : List Json} {earlier later : List Statement} {value : Json}
    {statement : Statement} (hbefore : (Json.array before).Lists earlier) (hafter : (Json.array after).Lists later)
    (hfits : Fits (nestingLimit - 1) value) (hnamed : value.NamedTag)
    (hvalue : Statement.format.ofJson value = .ok statement) :
    (Json.array (before ++ value :: after)).Lists (earlier ++ statement :: later) where
  hfits := List.forall_mem_append.2 ⟨hbefore.hfits, List.forall_mem_cons.2 ⟨hfits, hafter.hfits⟩⟩
  hnamed := by
    intro values heq
    cases heq
    refine List.forall_mem_append.2 ⟨hbefore.hnamed _ rfl, List.forall_mem_cons.2 ⟨hnamed, hafter.hnamed _ rfl⟩⟩
  hread := by
    have hfront := mapM_eq_ok_iff.1 hbefore.hread
    have hback := mapM_eq_ok_iff.1 hafter.hread
    exact mapM_eq_ok_iff.2 (List.rel_append hfront (.cons hvalue hback))

theorem Options.assemble_table (options : Options) (t : Table) :
    options.assemble [.createTable t] = Option.toList <$> t.assemble options.inflect := by
  rw [assemble, assembleAll, Statement.assemble]
  cases t.assemble options.inflect with
  | error cause => rfl
  | ok model => exact congrArg Except.ok (List.append_nil model.toList)

/-- A table that is read straight from the text of an object without unknown keys is the table of the statement that
the object is with its tag, wherever the tag stands among the members and the statement among others. -/
theorem Table.readStatements_of_document {front back : List (Text × Json)} {s : Text} {t : Table}
    (hs : DocumentSpelling (.object (front ++ back)) s) (hfits : Fits (nestingLimit - 1) (.object (front ++ back)))
    (hkeys : (Json.object (front ++ back)).KeysIn ["name", "columns", "options"])
    (hoptions : ∀ values, (("options" : Text), Json.array values) ∈ front ++ back →
      ∀ option ∈ values, option.KeysIn ["key", "value"])
    (ht : Table.format.decoder.document s = .ok t) :
    (∀ before after earlier later s', (Json.array before).Lists earlier → (Json.array after).Lists later →
      DocumentSpelling (.array (before ++ .object (front ++ (tagField, .string "create_table") :: back) :: after)) s' →
        readStatements s' = .ok (earlier ++ .createTable t :: later)) ∧
    ∀ options : Options, options.assemble [.createTable t] = Option.toList <$> t.assemble options.inflect := by
  have hmembers : Table.format.ofMembers (front ++ back) = .ok t := by
    refine ofMembers_of_document hs (fits_mono hfits (Nat.sub_le _ _)) (fun m hm => ⟨hkeys m hm, ?_⟩) ht
    intro hkey values hvalue
    exact hoptions values (hkey ▸ hvalue ▸ hm)
  have hnone : ∀ m ∈ front ++ back, m.1 ≠ tagField := by
    intro m hm
    exact ne_of_mem_of_not_mem (hkeys m hm) (by decide)
  have hvalue : Statement.format.ofJson (.object (front ++ (tagField, .string "create_table") :: back)) =
      .ok (.createTable t) := by
    rw [TaggedFormat.ofJson_tag_eq_ok hnone]
    exact ⟨.name "create_table", rfl, Decoder.map_eq_ok.2 ⟨t, hmembers, rfl⟩⟩
  refine ⟨?_, fun options => options.assemble_table t⟩
  intro before after earlier later s' hbefore hafter hs'
  refine readStatements_iff.2 ⟨_, hs', hbefore.insert hafter ?_ (namedTag_tagged hnone) hvalue⟩
  exact fits_tagged hfits

/-- Members of a table in an order of their own: entries of all kinds, a default of `null`, and options as an object and
as a list. -/
def directFront : List (Text × Json) :=
  [("options", .array [.object [("value", .null), ("key", .string "COMMENT")],
      .array [.string "COMMENT", .number (.integer 7)]]),
    ("columns", .array [
      .object [("type", .string "column"), ("name", .string "id"), ("default_value", .null),
        ("data_type", .object [("params", .array [.number (.integer 11)]), ("type", .string "INT")])],
      .object [("fields", .array [.string "id", .string "id"]), ("type", .string "primary_key")],
      .object [("type", .string "unique_key"), ("fields", .boolean false)]])]

def directBack : List (Text × Json) :=
  [("name", .string "users")]

def directTable : Table :=
  { name := "users"
    entries := [
      .column { name := "id", dataType := { name := "INT", params := [.number (.integer 11)] } },
      .primaryKey ["id"], .other]
    options := [{ key := "COMMENT" }, { key := "COMMENT", value := some (.number (.integer 7)) }] }

theorem Table.readStatements_of_document_directTable :
    Table.format.decoder.document (Json.object (directFront ++ directBack)).print = .ok directTable ∧
      readStatements (Json.array [.object [(tagField, .string "drop_table")],
        .object (directFront ++ (tagField, .string "create_table") :: directBack)]).print =
          .ok [.other, .createTable directTable] := by
  have hdirect : Table.format.decoder.document (Json.object (directFront ++ directBack)).print = .ok directTable := by
    decide +kernel
  have hintegral : (Json.object (directFront ++ directBack)).Integral := by
    simp [directFront, directBack, InRange]
  have htagged : (Json.array [.object [(tagField, .string "drop_table")],
      .object (directFront ++ (tagField, .string "create_table") :: directBack)]).Integral := by
    simp [directFront, directBack, InRange]
  have hfits : Fits (nestingLimit - 1) (.object (directFront ++ directBack)) := by
    simp [directFront, directBack, nestingLimit, Fits]
  have hkeys : (Json.object (directFront ++ directBack)).KeysIn ["name", "columns", "options"] := by
    show ∀ m ∈ directFront ++ directBack, m.1 ∈ _
    simp [directFront, directBack]
  have hoptions : ∀ values, (("options" : Text), Json.array values) ∈ directFront ++ directBack →
      ∀ option ∈ values, option.KeysIn ["key", "value"] := by
    simp [directFront, directBack, KeysIn]
    grind
  have hother : Statement.other.Form (.object ([] ++ (tagField, .string "drop_table") :: [])) :=
    .other (by decide) (by simp) (by simp)
  obtain ⟨hread, -⟩ := readStatements_of_document (documentSpelling_print hintegral) hfits hkeys hoptions hdirect
  have hbefore := lists_of_forms (.cons hother .nil)
  exact ⟨hdirect, hread _ _ _ _ _ hbefore (lists_of_forms .nil) (documentSpelling_print htagged)⟩

end TableModel
