import Mathlib.Data.List.Forall2
import TableModel.Proofs.Json.Documents
import TableModel.Proofs.Json.Records
import TableModel.Schema.Format

/-!
# The parts of a document

What the values inside a schema document stand for. A part is a scalar, a list of parts, a record with its
fields, or a tagged value, whose tag selects the record that the other members make up. Every field has a default
except the key of an option. The tables at the start say this once more, apart from the decoders, and what follows
checks them against the decoders.
-/

namespace TableModel

open Json

inductive RecordKind where
  | table
  | column
  | columnType
  | primaryKey
  | option
  deriving DecidableEq, Repr

inductive TaggedKind where
  | statement
  | entry
  deriving DecidableEq, Repr

/-- What a value inside a document stands for. -/
inductive Part where
  | scalar
  | list (element : Part)
  | record (kind : RecordKind)
  | tagged (kind : TaggedKind)
  deriving DecidableEq, Repr

/-- A field of a record: what its value stands for, and the value that it has if it is left out. -/
structure FieldPart where
  key : Text
  part : Part
  default : Option Json

def RecordKind.fields : RecordKind → List FieldPart
  | table => [
    { key := "name", part := .scalar, default := some (.string []) },
    { key := "columns", part := .list (.tagged .entry), default := some (.array []) },
    { key := "options", part := .list (.record .option), default := some (.array []) }]
  | column => [
    { key := "name", part := .scalar, default := some (.string []) },
    { key := "data_type", part := .record .columnType, default := some (.object []) },
    { key := "allow_null", part := .scalar, default := some (.boolean false) },
    { key := "auto_increment", part := .scalar, default := some (.boolean false) },
    { key := "default_value", part := .scalar, default := some .null },
    { key := "comment", part := .scalar, default := some .null }]
  | columnType => [
    { key := "type", part := .scalar, default := some (.string []) },
    { key := "params", part := .list .scalar, default := some (.array []) },
    { key := "unsigned", part := .scalar, default := some (.boolean false) },
    { key := "zerofill", part := .scalar, default := some (.boolean false) }]
  | primaryKey => [{ key := "fields", part := .list .scalar, default := some (.array []) }]
  | option => [
    { key := "key", part := .scalar, default := none },
    { key := "value", part := .scalar, default := some .null }]

def TaggedKind.kinds : TaggedKind → List (Text × RecordKind)
  | statement => [("create_table", .table)]
  | entry => [("column", .column), ("primary_key", .primaryKey)]

/-- The record that a tag selects, unless it stands for an ignored kind. -/
def TaggedKind.select (kind : TaggedKind) : Json → Option RecordKind
  | .string name => kind.kinds.lookup name
  | .number (.integer (.ofNat n)) => (kind.kinds[n]?).map Prod.snd
  | _ => none

namespace RecordKind

def type : RecordKind → Type
  | table => Table
  | column => Column
  | columnType => ColumnType
  | primaryKey => List Text
  | option => TableOption

def format : (kind : RecordKind) → RecordFormat kind.type
  | table => Table.format
  | column => Column.format
  | columnType => ColumnType.format
  | primaryKey => primaryKeyFormat
  | option => TableOption.format

theorem format_names (kind : RecordKind) : kind.format.fields.map Field.name = kind.fields.map FieldPart.key := by
  cases kind <;> rfl

/-- Every two fields of a record are put into it side by side. -/
theorem independent (kind : RecordKind) : kind.format.Independent := by
  constructor
  · rw [format_names]
    cases kind <;> decide
  · cases kind
    case' table => change List.Pairwise (@Field.Commutes Table) [_, _, _]
    case' column => change List.Pairwise (@Field.Commutes Column) [_, _, _, _, _, _]
    case' columnType => change List.Pairwise (@Field.Commutes ColumnType) [_, _, _, _]
    case' primaryKey => change List.Pairwise (@Field.Commutes (List Text)) [_]
    case' option => change List.Pairwise (@Field.Commutes TableOption) [_, _]
    all_goals
      simp only [List.pairwise_cons, List.forall_mem_cons, List.not_mem_nil, false_implies, List.Pairwise.nil,
        Field.of_commutes, implies_true, and_self]

end RecordKind

namespace TaggedKind

def type : TaggedKind → Type
  | statement => Statement
  | entry => TableEntry

def format : (kind : TaggedKind) → TaggedFormat kind.type
  | statement => Statement.format
  | entry => TableEntry.format

end TaggedKind

/-! ### Values for values -/

open Read in
/-- Where the first value is accepted the second is, too, and stands for the same. -/
def Part.Follows : Part → Json → Json → Prop
  | .scalar, v, w => IsScalar v → w = v
  | .list element, v, w =>
    ∀ values, v = .array values → ∃ other, w = .array other ∧ List.Forall₂ element.Follows values other
  | .record kind, v, w => ∀ r, kind.format.decoder.ofJson v = .ok r → kind.format.decoder.ofJson w = .ok r
  | .tagged kind, v, w => ∀ a, kind.format.ofJson v = .ok a → kind.format.ofJson w = .ok a

theorem Part.Follows.refl (part : Part) (v : Json) : part.Follows v v := by
  induction part generalizing v with
  | scalar => exact fun _ => rfl
  | list element ih =>
    rintro values rfl
    exact ⟨values, rfl, List.forall₂_same.2 fun v _ => ih v⟩
  | record kind => exact fun r h => h
  | tagged kind => exact fun a h => h

def Decoder.Tracks {α : Type} (d : Decoder α) (part : Part) : Prop :=
  ∀ ⦃v w a⦄, part.Follows v w → d.ofJson v = .ok a → d.ofJson w = .ok a

namespace Decoder

variable {α β : Type} {d : Decoder α} {part : Part}

def Scalar (d : Decoder α) : Prop :=
  ∀ ⦃v a⦄, d.ofJson v = .ok a → Read.IsScalar v

theorem scalar_string : string.Scalar := by
  rintro (_ | _ | _ | _ | _ | _) a ⟨⟩
  trivial

theorem scalar_boolean : boolean.Scalar := by
  rintro (_ | _ | _ | _ | _ | _) a ⟨⟩
  trivial

theorem scalar_literal : Literal.decoder.Scalar := by
  rintro (_ | _ | _ | _ | _ | _) a ⟨⟩ <;> trivial

theorem map_eq_ok {f : α → β} {v : Json} {b : β} : (map f d).ofJson v = .ok b ↔ ∃ a, d.ofJson v = .ok a ∧ f a = b := by
  simp only [map]
  cases d.ofJson v with
  | ok a => simp [Functor.map, Except.map]
  | error cause => simp [Functor.map, Except.map]

theorem optional_eq_ok {v : Json} {result : Option α} : (optional d).ofJson v = .ok result ↔
    (v = .null ∧ result = none) ∨ (v ≠ .null ∧ ∃ a, d.ofJson v = .ok a ∧ result = some a) := by
  have hsome (v : Json) : ((some <$> d.ofJson v : Except ShapeError (Option α)) = .ok result) ↔
      ∃ a, d.ofJson v = .ok a ∧ result = some a := by
    cases d.ofJson v with
    | ok a => simp [Functor.map, Except.map, eq_comm]
    | error cause => simp [Functor.map, Except.map]
  cases v <;> simp [optional, hsome, eq_comm]

theorem scalar_optional (h : d.Scalar) : (optional d).Scalar := by
  intro v a hv
  rcases optional_eq_ok.1 hv with ⟨rfl, -⟩ | ⟨-, a, ha, -⟩
  · trivial
  · exact h ha

theorem Scalar.tracks (h : d.Scalar) : d.Tracks .scalar := by
  intro v w a hfollows hv
  rw [hfollows (h hv), hv]

theorem list_eq_ok {expected : Text} {v : Json} {as : List α} : (list expected d).ofJson v = .ok as ↔
    ∃ values, v = .array values ∧ values.mapM d.ofJson = .ok as := by
  cases v with
  | array values => simp [list]
  | _ => simp [list, wrongType]

theorem mapM_of_follows (h : d.Tracks part) {values other : List Json}
    (hvalues : List.Forall₂ part.Follows values other)
    {as : List α} (has : values.mapM d.ofJson = .ok as) : other.mapM d.ofJson = .ok as := by
  induction hvalues generalizing as with
  | nil => exact has
  | cons hfirst _ ih =>
    obtain ⟨a, rest, ha, hrest, rfl⟩ := mapM_cons_eq_ok.1 has
    exact mapM_cons_eq_ok.2 ⟨a, rest, h hfirst ha, ih hrest, rfl⟩

theorem Tracks.list (h : d.Tracks part) (expected : Text) : (list expected d).Tracks (.list part) := by
  intro v w as hfollows hv
  obtain ⟨values, rfl, has⟩ := list_eq_ok.1 hv
  obtain ⟨other, rfl, hvalues⟩ := hfollows values rfl
  exact list_eq_ok.2 ⟨other, rfl, mapM_of_follows h hvalues has⟩

theorem Tracks.map (h : d.Tracks part) (f : α → β) : (map f d).Tracks part := by
  intro v w b hfollows hv
  obtain ⟨a, ha, hb⟩ := map_eq_ok.1 hv
  exact map_eq_ok.2 ⟨a, h hfollows ha, hb⟩

theorem tracks_record (kind : RecordKind) : kind.format.decoder.Tracks (.record kind) :=
  fun _ _ a hfollows hv => hfollows a hv

theorem tracks_tagged (kind : TaggedKind) : kind.format.decoder.Tracks (.tagged kind) :=
  fun _ _ a hfollows hv => hfollows a hv

end Decoder

structure FieldPart.Describes {σ : Type} (part : FieldPart) (field : Field σ) (start : σ) : Prop where
  hkey : field.name = part.key
  hfollows : ∀ {v w r result}, part.part.Follows v w → field.ofJson r v = .ok result → field.ofJson r w = .ok result
  hdefault : ∀ {v}, part.default = some v → field.required = false ∧ field.ofJson start v = .ok start

namespace FieldPart.Describes

variable {α σ : Type} {key : Text} {part : Part} {d : Decoder α} {set : σ → α → σ} {start : σ}

theorem follows_of {required : Bool} (h : d.Tracks part) {v w : Json} {r result : σ} (hfollows : part.Follows v w)
    (hv : (Field.of key d set required).ofJson r v = .ok result) :
    (Field.of key d set required).ofJson r w = .ok result := by
  obtain ⟨a, ha, hresult⟩ := Field.of_eq_ok.1 hv
  exact Field.of_eq_ok.2 ⟨a, h hfollows ha, hresult⟩

theorem defaulted {v : Json} {a : α} (h : d.Tracks part) (hv : d.ofJson v = .ok a) (hset : set start a = start) :
    Describes { key, part, default := some v } (Field.of key d set) start where
  hkey := rfl
  hfollows := follows_of h
  hdefault := by
    rintro _ ⟨⟩
    exact ⟨rfl, Field.of_eq_ok.2 ⟨a, hv, hset⟩⟩

theorem required (h : d.Tracks part) : Describes { key, part, default := none } (Field.of key d set true) start where
  hkey := rfl
  hfollows := follows_of h
  hdefault := by rintro _ ⟨⟩

end FieldPart.Describes

namespace RecordKind

open Decoder

theorem describes (kind : RecordKind) :
    List.Forall₂ (fun part field => part.Describes field kind.format.start) kind.fields kind.format.fields := by
  cases kind with
  | table =>
    refine .cons (.defaulted scalar_string.tracks rfl rfl) ?_
    refine .cons (.defaulted ((tracks_tagged .entry).list _) rfl rfl) ?_
    exact .cons (.defaulted ((tracks_record .option).list _) rfl rfl) .nil
  | column =>
    refine .cons (.defaulted scalar_string.tracks rfl rfl) ?_
    refine .cons (.defaulted (tracks_record .columnType) rfl rfl) ?_
    refine .cons (.defaulted scalar_boolean.tracks rfl rfl) ?_
    refine .cons (.defaulted scalar_boolean.tracks rfl rfl) ?_
    refine .cons (.defaulted (scalar_optional scalar_literal).tracks rfl rfl) ?_
    exact .cons (.defaulted (scalar_optional scalar_string).tracks rfl rfl) .nil
  | columnType =>
    refine .cons (.defaulted scalar_string.tracks rfl rfl) ?_
    refine .cons (.defaulted (scalar_literal.tracks.list _) rfl rfl) ?_
    refine .cons (.defaulted scalar_boolean.tracks rfl rfl) ?_
    exact .cons (.defaulted scalar_boolean.tracks rfl rfl) .nil
  | primaryKey => exact .cons (.defaulted ((scalar_string.tracks.list _).map _) rfl rfl) .nil
  | option =>
    refine .cons (.required scalar_string.tracks) ?_
    exact .cons (.defaulted (scalar_optional scalar_literal).tracks rfl rfl) .nil

theorem describes_getElem? {kind : RecordKind} {i : Nat} {part : FieldPart} (h : kind.fields[i]? = some part) :
    ∃ field, kind.format.fields[i]? = some field ∧ part.Describes field kind.format.start := by
  obtain ⟨hlt, rfl⟩ := List.getElem?_eq_some_iff.1 h
  have hlength := kind.describes.length_eq
  exact ⟨_, List.getElem?_eq_getElem (hlength ▸ hlt), kind.describes.get hlt (hlength ▸ hlt)⟩

theorem describes_mem {kind : RecordKind} {part : FieldPart} (h : part ∈ kind.fields) :
    ∃ field, kind.format.field? part.key = some field ∧ part.Describes field kind.format.start := by
  obtain ⟨i, hi⟩ := List.getElem?_of_mem h
  obtain ⟨field, hfield, hdescribes⟩ := describes_getElem? hi
  refine ⟨field, ?_, hdescribes⟩
  rw [← hdescribes.hkey]
  exact RecordFormat.field?_of_mem kind.independent (List.mem_of_getElem? hfield)

theorem field?_eq_none {kind : RecordKind} {key : Text} (h : key ∉ kind.fields.map FieldPart.key) :
    kind.format.field? key = none := by
  rwa [RecordFormat.field?_eq_none, format_names]

end RecordKind

namespace TaggedKind

/-- The variants are the kinds that are not ignored, each read as the record that it is. -/
def Variant (kind : TaggedKind) (name : Text × RecordKind) (variant : Text × Decoder kind.type) : Prop :=
  variant.1 = name.1 ∧ ∃ f, variant.2 = name.2.format.decoder.map f

theorem variants (kind : TaggedKind) : List.Forall₂ kind.Variant kind.kinds kind.format.variants := by
  cases kind with
  | statement => exact .cons ⟨rfl, Statement.createTable, rfl⟩ .nil
  | entry => exact .cons ⟨rfl, TableEntry.column, rfl⟩ (.cons ⟨rfl, TableEntry.primaryKey, rfl⟩ .nil)

def Selects (kind : TaggedKind) (record? : Option RecordKind) (variant? : Option (Decoder kind.type)) : Prop :=
  match record? with
  | none => variant? = none
  | some record => ∃ f, variant? = some (record.format.decoder.map f)

theorem selects_lookup {kind : TaggedKind} {kinds : List (Text × RecordKind)}
    {variants : List (Text × Decoder kind.type)}
    (h : List.Forall₂ kind.Variant kinds variants) (name : Text) :
    kind.Selects (kinds.lookup name) (variants.lookup name) := by
  induction h with
  | nil => rfl
  | @cons k v kinds variants hfirst _ ih =>
    obtain ⟨hname, f, hf⟩ := hfirst
    rw [List.lookup_cons, List.lookup_cons, hname]
    cases name == k.1 with
    | true => exact ⟨f, by rw [← hf]⟩
    | false => exact ih

theorem selects_getElem? {kind : TaggedKind} {kinds : List (Text × RecordKind)}
    {variants : List (Text × Decoder kind.type)} (h : List.Forall₂ kind.Variant kinds variants) (n : Nat) :
    kind.Selects ((kinds[n]?).map Prod.snd) ((variants[n]?).map Prod.snd) := by
  induction h generalizing n with
  | nil => rfl
  | cons hfirst _ ih =>
    obtain ⟨-, f, hf⟩ := hfirst
    cases n with
    | zero => exact ⟨f, by rw [← hf]; rfl⟩
    | succ n => exact ih n

theorem selects {kind : TaggedKind} {value : Json} {tag : Tag} (htag : Tag.ofJson value = .ok tag) :
    kind.Selects (kind.select value) (kind.format.variant? tag) := by
  unfold Tag.ofJson at htag
  split at htag
  · cases htag
    exact selects_lookup kind.variants _
  · cases htag
    exact selects_getElem? kind.variants _
  · cases htag

theorem variant?_eq_none {kind : TaggedKind} {value : Json} {tag : Tag} (htag : Tag.ofJson value = .ok tag)
    (h : kind.select value = none) : kind.format.variant? tag = none := by
  have hselects : kind.Selects _ _ := selects htag
  rwa [h] at hselects

/-- What stands beside a tag is read as the record that the tag selects. -/
theorem exists_read {kind : TaggedKind} {value : Json} {tag : Tag} {record : RecordKind}
    (htag : Tag.ofJson value = .ok tag) (h : kind.select value = some record) :
    ∃ f, kind.format.variant? tag = some (record.format.decoder.map f) ∧ ∀ body a,
      kind.format.ofBody tag body = .ok a ↔ ∃ r, record.format.decoder.ofJson body = .ok r ∧ f r = a := by
  have hselects : kind.Selects _ _ := selects htag
  rw [h] at hselects
  obtain ⟨f, hf⟩ := hselects
  refine ⟨f, hf, fun body a => ?_⟩
  have hbody : kind.format.ofBody tag body = (record.format.decoder.map f).ofJson body := by
    simp only [TaggedFormat.ofBody, hf]
  rw [hbody, Decoder.map_eq_ok]

theorem mem_kinds_of_select {kind : TaggedKind} {value : Json} {record : RecordKind}
    (h : kind.select value = some record) : record ∈ kind.kinds.map Prod.snd := by
  unfold select at h
  split at h
  · obtain ⟨front, back, hkinds, -⟩ := List.lookup_eq_some_iff.1 h
    simp [hkinds]
  · obtain ⟨k, hk, rfl⟩ := Option.map_eq_some_iff.1 h
    exact List.mem_map_of_mem (List.mem_of_getElem? hk)
  · cases h

theorem key_ne {kind : TaggedKind} {value : Json} {record : RecordKind} (h : kind.select value = some record)
    {part : FieldPart} (hpart : part ∈ record.fields) : part.key ≠ tagField := by
  have hall : ∀ record ∈ kind.kinds.map Prod.snd, ∀ part ∈ record.fields, part.key ≠ tagField := by
    cases kind <;> decide
  exact hall record (mem_kinds_of_select h) part hpart

end TaggedKind

end TableModel
