import TableModel.Proofs.Number.Rounding
import TableModel.Proofs.Schema.Parts
import TableModel.Proofs.Schema.Trees

/-!
# Numbers of a document

However a document writes its numbers, the statements read from it hold them as the format has them. This
is known of the value of a numeral, hence of every value that has a form, and a decoder puts no other number
into what it makes than one that stands in the value it is given. So a record needs only be looked at field by
field, and a tagged value variant by variant.
-/

namespace TableModel

/-- Every number in a value is held as the format has it. -/
inductive Json.Canonical : Json → Prop
  | null : Canonical .null
  | boolean (b : Bool) : Canonical (.boolean b)
  | number {n : Number} (h : n.Canonical) : Canonical (.number n)
  | string (t : Text) : Canonical (.string t)
  | array {values : List Json} (h : ∀ v ∈ values, Canonical v) : Canonical (.array values)
  | object {members : List (Text × Json)} (h : ∀ m ∈ members, Canonical m.2) : Canonical (.object members)

theorem Json.Spelling.canonical {v : Json} {t : Text} (h : v.Spelling t) : v.Canonical := by
  induction h with
  | null => exact .null
  | true | false => exact .boolean _
  | integer => exact .number trivial
  | numeral _ hvalue => exact .number (Numeral.value?_canonical hvalue)
  | string => exact .string _
  | array _ _ _ ih => exact .array (List.forall_mem_map.2 ih)
  | object _ _ _ ih => exact .object (List.forall_mem_map.2 ih)

/-! ### Decoders -/

/-- What the decoder makes of a value with such numbers has a property. -/
def Decoder.Keeps {α : Type} (d : Decoder α) (holds : α → Prop) : Prop :=
  ∀ ⦃v a⦄, v.Canonical → d.ofJson v = .ok a → holds a

namespace Decoder

variable {α β : Type} {d : Decoder α} {holds : α → Prop}

theorem keeps_true (d : Decoder α) : d.Keeps fun _ => True :=
  fun _ _ _ _ => trivial

theorem Keeps.map (h : d.Keeps holds) {f : α → β} {target : β → Prop} (hf : ∀ a, holds a → target (f a)) :
    (map f d).Keeps target := by
  intro v b hv hb
  obtain ⟨a, ha, rfl⟩ := map_eq_ok.1 hb
  exact hf a (h hv ha)

theorem Keeps.optional (h : d.Keeps holds) : (optional d).Keeps fun a? => ∀ a ∈ a?, holds a := by
  intro v result hv hresult a ha
  rcases optional_eq_ok.1 hresult with ⟨-, rfl⟩ | ⟨-, b, hb, rfl⟩
  · cases ha
  · cases ha
    exact h hv hb

theorem Keeps.list (h : d.Keeps holds) (expected : Text) : (list expected d).Keeps fun as => ∀ a ∈ as, holds a := by
  intro v as hv has a ha
  obtain ⟨values, rfl, hvalues⟩ := list_eq_ok.1 has
  obtain ⟨value, hmem, hvalue⟩ := mem_of_mapM_eq_ok hvalues ha
  cases hv with
  | array hall => exact h (hall value hmem) hvalue

end Decoder

def Field.Keeps {σ : Type} (field : Field σ) (holds : σ → Prop) : Prop :=
  ∀ ⦃v r result⦄, v.Canonical → holds r → field.ofJson r v = .ok result → holds result

theorem Field.keeps_of {α σ : Type} {d : Decoder α} {part : α → Prop} {holds : σ → Prop} {name : Text}
    {set : σ → α → σ} {required : Bool} (h : d.Keeps part) (hset : ∀ r a, holds r → part a → holds (set r a)) :
    (Field.of name d set required).Keeps holds := by
  intro v r result hv hr hresult
  obtain ⟨a, ha, rfl⟩ := Field.of_eq_ok.1 hresult
  exact hset r a hr (h hv ha)

/-- The value of a field that has no part in the property may be any. -/
theorem Field.keeps_of_any {α σ : Type} {d : Decoder α} {holds : σ → Prop} {name : Text} {set : σ → α → σ}
    {required : Bool} (hset : ∀ r a, holds r → holds (set r a)) : (Field.of name d set required).Keeps holds :=
  keeps_of d.keeps_true fun r a hr _ => hset r a hr

theorem RecordFormat.decoder_keeps {σ : Type} {format : RecordFormat σ} {holds : σ → Prop}
    (hstart : holds format.start) (hfields : ∀ field ∈ format.fields, field.Keeps holds) :
    format.decoder.Keeps holds := by
  intro v record hv hrecord
  cases hv with
  | object hmembers =>
    obtain ⟨-, -, hput⟩ := ofMembers_eq_ok.1 hrecord
    refine foldlM_invariant hstart (fun member hmember r next hr hnext => ?_) hput
    cases hfield : format.field? member.1 with
    | none =>
      rw [put_of_none hfield] at hnext
      cases hnext
      exact hr
    | some field =>
      rw [put_of_some hfield] at hnext
      exact hfields field (mem_of_field? hfield) (hmembers member hmember) hr hnext
  | array hvalues =>
    obtain ⟨result, hfold, hrest⟩ := bind_eq_ok.1 hrecord
    have hresult : holds result := by
      refine foldlM_invariant hstart (fun pair hpair r next hr hnext => ?_) hfold
      obtain ⟨hfield, hvalue⟩ := List.of_mem_zip hpair
      exact hfields pair.1 hfield (hvalues pair.2 hvalue) hr hnext
    split at hrest
    · cases hrest
    · split at hrest
      · cases hrest
      · cases hrest
        exact hresult
  | _ => cases hrecord

namespace TaggedFormat

variable {α : Type} {format : TaggedFormat α} {holds : α → Prop}

theorem ofBody_keeps (hvariants : ∀ variant ∈ format.variants, variant.2.Keeps holds) (hother : holds format.other)
    {tag : Tag} {body : Json} {a : α} (hbody : body.Canonical) (h : format.ofBody tag body = .ok a) : holds a := by
  unfold ofBody at h
  split at h
  · rename_i d hd
    have hmem : ∃ variant ∈ format.variants, variant.2 = d := by
      cases tag with
      | name t =>
        obtain ⟨front, back, hvariants, -⟩ := List.lookup_eq_some_iff.1 hd
        exact ⟨(t, d), hvariants ▸ List.mem_append_right front List.mem_cons_self, rfl⟩
      | position n =>
        obtain ⟨variant, hvariant, hd⟩ := Option.map_eq_some_iff.1 hd
        exact ⟨variant, List.mem_of_getElem? hvariant, hd⟩
    obtain ⟨variant, hvariant, rfl⟩ := hmem
    exact hvariants variant hvariant hbody h
  · split at h
    · cases h
    · cases h
      exact hother

theorem decoder_keeps (hvariants : ∀ variant ∈ format.variants, variant.2.Keeps holds) (hother : holds format.other) :
    format.decoder.Keeps holds := by
  intro v a hv ha
  cases hv with
  | object hmembers =>
    obtain ⟨m, tag, -, -, hbody⟩ := ofJson_object_eq_ok.1 ha
    exact ofBody_keeps hvariants hother (.object fun m hm => hmembers m (List.mem_filter.1 hm).1) hbody
  | @array values hvalues =>
    cases values with
    | nil => cases ha
    | cons first values =>
      obtain ⟨tag, -, hbody⟩ := bind_eq_ok.1 ha
      exact ofBody_keeps hvariants hother (.array (List.forall_mem_cons.1 hvalues).2) hbody
  | _ => cases ha

end TaggedFormat

/-! ### The schema format -/

def Literal.Canonical : Literal → Prop
  | number n => n.Canonical
  | text _ => True

structure Column.Canonical (column : Column) : Prop where
  hparams : ∀ literal ∈ column.dataType.params, literal.Canonical
  hdefault : ∀ literal ∈ column.defaultValue, literal.Canonical

/-- The literals of a table, those of its columns and the values of its options, are held so. -/
structure Table.Canonical (table : Table) : Prop where
  hcolumns : ∀ column, .column column ∈ table.entries → column.Canonical
  hoptions : ∀ option ∈ table.options, ∀ literal ∈ option.value, literal.Canonical

theorem Literal.decoder_keeps : Literal.decoder.Keeps Literal.Canonical := by
  intro v literal hv hliteral
  cases hv with
  | number hn =>
    cases hliteral
    exact hn
  | string =>
    cases hliteral
    trivial
  | _ => cases hliteral

theorem ColumnType.decoder_keeps :
    ColumnType.format.decoder.Keeps fun dataType => ∀ literal ∈ dataType.params, literal.Canonical := by
  refine RecordFormat.decoder_keeps (fun _ hmem => absurd hmem List.not_mem_nil) ?_
  change ∀ field ∈ [_, _, _, _], Field.Keeps field _
  simp only [List.forall_mem_cons]
  refine ⟨?hname, ?hparams, ?hunsigned, ?hzerofill, List.forall_mem_nil _⟩
  case hparams => exact Field.keeps_of (Literal.decoder_keeps.list _) fun _ _ _ hparams => hparams
  all_goals exact Field.keeps_of_any fun _ _ hr => hr

theorem Column.decoder_keeps : Column.format.decoder.Keeps Column.Canonical := by
  refine RecordFormat.decoder_keeps ⟨fun _ hmem => absurd hmem List.not_mem_nil, nofun⟩ ?_
  change ∀ field ∈ [_, _, _, _, _, _], Field.Keeps field _
  simp only [List.forall_mem_cons]
  refine ⟨?hname, ?hdataType, ?hallowNull, ?hautoIncrement, ?hdefault, ?hcomment, List.forall_mem_nil _⟩
  case hdataType => exact Field.keeps_of ColumnType.decoder_keeps fun _ _ hr hparams => ⟨hparams, hr.hdefault⟩
  case hdefault =>
    exact Field.keeps_of Literal.decoder_keeps.optional fun _ _ hr hdefault => ⟨hr.hparams, hdefault⟩
  all_goals exact Field.keeps_of_any fun _ _ hr => ⟨hr.hparams, hr.hdefault⟩

theorem TableEntry.decoder_keeps :
    TableEntry.format.decoder.Keeps fun entry => ∀ column, entry = .column column → column.Canonical := by
  refine TaggedFormat.decoder_keeps ?_ nofun
  change ∀ variant ∈ [(_, _), (_, _)], Decoder.Keeps variant.2 _
  simp only [List.forall_mem_cons]
  refine ⟨?hcolumn, ?hprimaryKey, List.forall_mem_nil _⟩
  case hcolumn =>
    refine Column.decoder_keeps.map ?_
    rintro column hcolumn _ ⟨⟩
    exact hcolumn
  case hprimaryKey => exact (Decoder.keeps_true _).map fun _ _ => nofun

theorem TableOption.decoder_keeps :
    TableOption.format.decoder.Keeps fun option => ∀ literal ∈ option.value, literal.Canonical := by
  refine RecordFormat.decoder_keeps nofun ?_
  change ∀ field ∈ [_, _], Field.Keeps field _
  simp only [List.forall_mem_cons]
  refine ⟨?hkey, ?hvalue, List.forall_mem_nil _⟩
  case hkey => exact Field.keeps_of_any fun _ _ hr => hr
  case hvalue => exact Field.keeps_of Literal.decoder_keeps.optional fun _ _ _ hvalue => hvalue

theorem Table.decoder_keeps : Table.format.decoder.Keeps Table.Canonical := by
  have hstart : Table.format.start.Canonical :=
    ⟨fun _ hmem => absurd hmem List.not_mem_nil, fun _ hmem => absurd hmem List.not_mem_nil⟩
  refine RecordFormat.decoder_keeps hstart ?_
  change ∀ field ∈ [_, _, _], Field.Keeps field _
  simp only [List.forall_mem_cons]
  refine ⟨?hname, ?hentries, ?hoptions, List.forall_mem_nil _⟩
  case hname => exact Field.keeps_of_any fun _ _ hr => ⟨hr.hcolumns, hr.hoptions⟩
  case hentries =>
    exact Field.keeps_of (TableEntry.decoder_keeps.list _) fun _ _ hr hentries =>
      ⟨fun column hmem => hentries _ hmem column rfl, hr.hoptions⟩
  case hoptions =>
    exact Field.keeps_of (TableOption.decoder_keeps.list _) fun _ _ hr hoptions => ⟨hr.hcolumns, hoptions⟩

theorem Statement.decoder_keeps :
    Statement.format.decoder.Keeps fun statement => ∀ table, statement = .createTable table → table.Canonical := by
  refine TaggedFormat.decoder_keeps ?_ nofun
  change ∀ variant ∈ [(_, _)], Decoder.Keeps variant.2 _
  rw [List.forall_mem_singleton]
  refine Table.decoder_keeps.map ?_
  rintro table htable _ ⟨⟩
  exact htable

/-- The literals of every table read from a document are held as the format has them. -/
theorem canonical_of_readStatements {s : Text} {statements : List Statement} (h : readStatements s = .ok statements)
    {table : Table} (hmem : .createTable table ∈ statements) : table.Canonical := by
  obtain ⟨v, ⟨before, text, after, -, -, -, hspelling⟩, hlists⟩ := readStatements_iff.1 h
  exact Statement.decoder_keeps.list _ hspelling.canonical hlists.hread _ hmem table rfl

end TableModel
