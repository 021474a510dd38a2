import Mathlib.Logic.Relation
import TableModel.Model.Generate
import TableModel.Proofs.Json.Printing
import TableModel.Proofs.Schema.Parts
import TableModel.Proofs.Schema.Trees

/-!
# Edits without effect

The reader of a schema document is tolerant. `Edit` lists what may be done to the value of a document at any
depth: the members of an object may be put in another order, a field that has its default may be left out, members
that are no fields may be put in or changed, and an object of an ignored kind may be filled with anything. An edit
leaves the statements as they are, so that also the model files come out the same.
-/

namespace TableModel

open Read Json

/-! ### What may be edited -/

/-- The record that the members of an object are, apart from the tag. -/
def Part.record? : Part → List (Text × Json) → Option RecordKind
  | .record kind, _ => some kind
  | .tagged kind, members => (members.lookup tagField).bind kind.select
  | _, _ => none

/-- The fields of an object. An object of an ignored kind has none. -/
def Part.fields (part : Part) (members : List (Text × Json)) : List FieldPart :=
  ((part.record? members).map RecordKind.fields).getD []

/-- What the element of a list at a position stands for. A record, too, may be given as a list. -/
def Part.element? : Part → List Json → Nat → Option Part
  | .list element, _, _ => some element
  | .record kind, _, position => (kind.fields[position]?).map FieldPart.part
  | .tagged kind, tag :: _, position + 1 =>
    (kind.select tag).bind fun record => (record.fields[position]?).map FieldPart.part
  | _, _, _ => none

def Part.document : Part :=
  .list (.tagged .statement)

/-- One edit at some place of a value that stands for a part, in which lists and objects may stand inside each
other at most so many deep. -/
inductive Edit : Nat → Part → Json → Json → Prop
  | permute {levels : Nat} {part : Part} {members other : List (Text × Json)} (h : members.Perm other) :
      Edit levels part (.object members) (.object other)
  | leaveOut {levels : Nat} {part : Part} {field : FieldPart} {value : Json} {front back : List (Text × Json)}
      (hfield : field ∈ part.fields (front ++ (field.key, value) :: back)) (hdefault : field.default = some value) :
      Edit levels part (.object (front ++ (field.key, value) :: back)) (.object (front ++ back))
  | insert {levels : Nat} {part : Part} {key : Text} {value : Json} {front back : List (Text × Json)}
      (htag : key ≠ tagField) (hkey : key ∉ (part.fields (front ++ back)).map FieldPart.key)
      (hfits : Fits levels value) :
      Edit (levels + 1) part (.object (front ++ back)) (.object (front ++ (key, value) :: back))
  | change {levels : Nat} {part : Part} {key : Text} {value other : Json} {front back : List (Text × Json)}
      (htag : key ≠ tagField) (hkey : key ∉ (part.fields (front ++ (key, value) :: back)).map FieldPart.key)
      (hfits : Fits levels other) :
      Edit (levels + 1) part (.object (front ++ (key, value) :: back)) (.object (front ++ (key, other) :: back))
  | refill {levels : Nat} {kind : TaggedKind} {name : Text} {front back front' back' : List (Text × Json)}
      (hname : kind.select (.string name) = none) (htag : ∀ m ∈ front' ++ back', m.1 ≠ tagField)
      (hfits : ∀ m ∈ front' ++ back', Fits levels m.2) :
      Edit (levels + 1) (.tagged kind) (.object (front ++ (tagField, .string name) :: back))
        (.object (front' ++ (tagField, .string name) :: back'))
  | member {levels : Nat} {part : Part} {field : FieldPart} {value other : Json} {front back : List (Text × Json)}
      (hfield : field ∈ part.fields (front ++ (field.key, value) :: back)) (h : Edit levels field.part value other) :
      Edit (levels + 1) part (.object (front ++ (field.key, value) :: back))
        (.object (front ++ (field.key, other) :: back))
  | element {levels : Nat} {part inner : Part} {value other : Json} {front back : List Json}
      (hpart : part.element? (front ++ value :: back) front.length = some inner) (h : Edit levels inner value other) :
      Edit (levels + 1) part (.array (front ++ value :: back)) (.array (front ++ other :: back))

/-! ### The nesting stays -/

theorem Edit.fits {levels : Nat} {part : Part} {v w : Json} (h : Edit levels part v w) (hv : Fits levels v) :
    Fits levels w := by
  induction h with
  | permute h =>
    obtain ⟨n, rfl, hfits⟩ := fits_object.1 hv
    exact fits_object.2 ⟨n, rfl, fun m hm => hfits m (h.mem_iff.2 hm)⟩
  | leaveOut hfield hdefault =>
    obtain ⟨n, rfl, hfits⟩ := fits_object.1 hv
    refine fits_object.2 ⟨n, rfl, fun m hm => hfits m ?_⟩
    exact List.mem_append.2 ((List.mem_append.1 hm).imp_right (List.mem_cons_of_mem _))
  | insert htag hkey hfits =>
    simp only [Fits, List.forall_mem_append, List.forall_mem_cons] at hv ⊢
    exact ⟨hv.1, hfits, hv.2⟩
  | change htag hkey hfits =>
    simp only [Fits, List.forall_mem_append, List.forall_mem_cons] at hv ⊢
    exact ⟨hv.1, hfits, hv.2.2⟩
  | refill hname htag hfits =>
    simp only [Fits, List.forall_mem_append, List.forall_mem_cons] at hv hfits ⊢
    exact ⟨hfits.1, trivial, hfits.2⟩
  | member hfield h ih =>
    simp only [Fits, List.forall_mem_append, List.forall_mem_cons] at hv ⊢
    exact ⟨hv.1, ih hv.2.1, hv.2.2⟩
  | element hpart h ih =>
    simp only [Fits, List.forall_mem_append, List.forall_mem_cons] at hv ⊢
    exact ⟨hv.1, ih hv.2.1, hv.2.2⟩

/-! ### The value stands for the same -/

open TaggedFormat

def Part.body : Part → List (Text × Json) → List (Text × Json)
  | .tagged _, members => TaggedFormat.body members
  | _, members => members

/-- A key that may be looked for beside the tag, if there is one. -/
def Part.Beside (part : Part) (key : Text) : Prop :=
  ∀ kind, part = .tagged kind → key ≠ tagField

section Objects

variable {part : Part} {members other front back : List (Text × Json)} {key : Text} {value : Json}

theorem Part.body_append : part.body (front ++ back) = part.body front ++ part.body back := by
  cases part <;> simp [Part.body, TaggedFormat.body]

theorem Part.body_cons (hkey : part.Beside key) :
    part.body ((key, value) :: back) = (key, value) :: part.body back := by
  cases part with
  | tagged kind => simp [Part.body, TaggedFormat.body, hkey kind rfl]
  | _ => rfl

theorem tags_beside (hkey : key ≠ tagField) : tags (front ++ (key, value) :: back) = tags (front ++ back) := by
  simp [tags, hkey]

/-- Objects with the same tag stand for the same if their members come to the same record. -/
theorem Part.follows_object (htags : ∀ kind, part = .tagged kind → (tags members).Perm (tags other))
    (hbody : ∀ record, part.record? members = some record → ∀ r, record.format.ofMembers (part.body members) = .ok r →
      record.format.ofMembers (part.body other) = .ok r) :
    part.Follows (.object members) (.object other) := by
  cases part with
  | scalar => exact False.elim
  | list element => rintro values ⟨⟩
  | record kind => exact hbody kind rfl
  | tagged kind =>
    intro a h
    obtain ⟨m, tag, hm, htag, hvalue⟩ := ofJson_object_eq_ok.1 h
    have hsame := htags kind rfl
    rw [hm, List.singleton_perm] at hsame
    refine ofJson_object_eq_ok.2 ⟨m, tag, hsame.symm, htag, ?_⟩
    cases hselect : kind.select m.2 with
    | none =>
      unfold ofBody at hvalue ⊢
      rw [TaggedKind.variant?_eq_none htag hselect] at hvalue ⊢
      exact hvalue
    | some record =>
      obtain ⟨f, -, hread⟩ := TaggedKind.exists_read htag hselect
      obtain ⟨r, hr, hf⟩ := (hread _ a).1 hvalue
      have hrecord : (Part.tagged kind).record? members = some record := by
        rw [Part.record?, lookup_of_tags hm, Option.bind_some, hselect]
      exact (hread _ a).2 ⟨r, hbody record hrecord r hr, hf⟩

theorem Part.fields_of_record? {record : RecordKind} (h : part.record? members = some record) :
    part.fields members = record.fields := by
  rw [Part.fields, h]
  rfl

theorem Part.mem_fields {record : RecordKind} {field : FieldPart} (hrecord : part.record? members = some record)
    (h : field ∈ record.fields) : field ∈ part.fields members :=
  Part.fields_of_record? hrecord ▸ h

theorem Part.exists_record? {field : FieldPart} (h : field ∈ part.fields members) :
    ∃ record, part.record? members = some record ∧ field ∈ record.fields := by
  cases hrecord : part.record? members with
  | none => simp [Part.fields, hrecord] at h
  | some record => exact ⟨record, rfl, Part.fields_of_record? hrecord ▸ h⟩

theorem Part.beside_of_mem {field : FieldPart} (h : field ∈ part.fields members) : part.Beside field.key := by
  rintro kind rfl
  obtain ⟨record, hrecord, hfield⟩ := Part.exists_record? h
  obtain ⟨tag, -, htag⟩ := Option.bind_eq_some_iff.1 hrecord
  exact TaggedKind.key_ne htag hfield

theorem Part.follows_permute (h : members.Perm other) : part.Follows (.object members) (.object other) := by
  apply Part.follows_object
  · exact fun kind _ => h.filter _
  · intro record _ r hr
    have hperm : (part.body members).Perm (part.body other) := by
      cases part with
      | tagged kind => exact h.filter _
      | _ => exact h
    exact RecordFormat.ofMembers_perm record.independent hperm hr

theorem Part.follows_leaveOut {field : FieldPart} (hfield : field ∈ part.fields (front ++ (field.key, value) :: back))
    (hdefault : field.default = some value) :
    part.Follows (.object (front ++ (field.key, value) :: back)) (.object (front ++ back)) := by
  have hbeside := Part.beside_of_mem hfield
  apply Part.follows_object
  · intro kind hkind
    rw [tags_beside (hbeside kind hkind)]
  · intro record hrecord r hr
    rw [Part.fields_of_record? hrecord] at hfield
    obtain ⟨f, hf, hdescribes⟩ := RecordKind.describes_mem hfield
    obtain ⟨hrequired, hstart⟩ := hdescribes.hdefault hdefault
    rw [Part.body_append, Part.body_cons hbeside] at hr
    rw [Part.body_append]
    exact RecordFormat.ofMembers_default record.independent hf hrequired hstart hr

theorem Part.follows_insert (htag : key ≠ tagField) (hkey : key ∉ (part.fields (front ++ back)).map FieldPart.key) :
    part.Follows (.object (front ++ back)) (.object (front ++ (key, value) :: back)) := by
  apply Part.follows_object
  · intro kind hkind
    rw [tags_beside htag]
  · intro record hrecord r hr
    rw [Part.fields_of_record? hrecord] at hkey
    rw [Part.body_append] at hr ⊢
    rw [Part.body_cons fun _ _ => htag, RecordFormat.ofMembers_unknown (RecordKind.field?_eq_none hkey)]
    exact hr

theorem Part.follows_member {field : FieldPart} {w : Json}
    (hfield : field ∈ part.fields (front ++ (field.key, value) :: back)) (h : field.part.Follows value w) :
    part.Follows (.object (front ++ (field.key, value) :: back)) (.object (front ++ (field.key, w) :: back)) := by
  have hbeside := Part.beside_of_mem hfield
  apply Part.follows_object
  · intro kind hkind
    rw [tags_beside (hbeside kind hkind), tags_beside (hbeside kind hkind)]
  · intro record hrecord r hr
    rw [Part.fields_of_record? hrecord] at hfield
    obtain ⟨f, hf, hdescribes⟩ := RecordKind.describes_mem hfield
    rw [Part.body_append, Part.body_cons hbeside] at hr ⊢
    exact RecordFormat.ofMembers_member hf (fun r result => hdescribes.hfollows h) hr

theorem Part.follows_change {w : Json} (htag : key ≠ tagField)
    (hkey : key ∉ (part.fields (front ++ (key, value) :: back)).map FieldPart.key) :
    part.Follows (.object (front ++ (key, value) :: back)) (.object (front ++ (key, w) :: back)) := by
  have hbeside : part.Beside key := fun _ _ => htag
  apply Part.follows_object
  · intro kind hkind
    rw [tags_beside htag, tags_beside htag]
  · intro record hrecord r hr
    rw [Part.fields_of_record? hrecord] at hkey
    have hunknown := RecordKind.field?_eq_none hkey
    rw [Part.body_append, Part.body_cons hbeside, RecordFormat.ofMembers_unknown hunknown] at hr ⊢
    exact hr

/-- Whatever stands beside the tag of an ignored kind is passed over. -/
theorem follows_refill {kind : TaggedKind} {name : Text} {front' back' : List (Text × Json)}
    (hname : kind.select (.string name) = none) (htag : ∀ m ∈ front' ++ back', m.1 ≠ tagField) :
    (Part.tagged kind).Follows (.object (front ++ (tagField, .string name) :: back))
      (.object (front' ++ (tagField, .string name) :: back')) := by
  intro a h
  obtain ⟨m, tag, hm, hread, hvalue⟩ := ofJson_object_eq_ok.1 h
  have hmem : (tagField, .string name) ∈ tags (front ++ (tagField, .string name) :: back) := by simp [tags]
  obtain rfl : m = (tagField, .string name) := by simpa [hm, eq_comm] using hmem
  refine (ofJson_tag_eq_ok htag).2 ⟨tag, hread, ?_⟩
  unfold ofBody at hvalue ⊢
  rw [TaggedKind.variant?_eq_none hread hname] at hvalue ⊢
  exact hvalue

end Objects

theorem Part.follows_element {part inner : Part} {v w : Json} {front back : List Json}
    (hpart : part.element? (front ++ v :: back) front.length = some inner) (h : inner.Follows v w) :
    part.Follows (.array (front ++ v :: back)) (.array (front ++ w :: back)) := by
  have hrecord {kind : RecordKind} {front : List Json}
      (hfield : (kind.fields[front.length]?).map FieldPart.part = some inner) {r : kind.type}
      (hr : kind.format.ofElements (front ++ v :: back) = .ok r) :
      kind.format.ofElements (front ++ w :: back) = .ok r := by
    obtain ⟨field, hget, rfl⟩ := Option.map_eq_some_iff.1 hfield
    obtain ⟨f, hf, hdescribes⟩ := RecordKind.describes_getElem? hget
    exact RecordFormat.ofElements_element hf (fun r result => hdescribes.hfollows h) hr
  cases part with
  | scalar => exact False.elim
  | list element =>
    cases hpart
    rintro values ⟨⟩
    refine ⟨_, rfl, List.rel_append (List.forall₂_same.2 fun v _ => .refl _ v) ?_⟩
    exact .cons h (List.forall₂_same.2 fun v _ => .refl _ v)
  | record kind =>
    intro r hr
    exact hrecord hpart hr
  | tagged kind =>
    cases front with
    | nil => cases hpart
    | cons first front =>
      obtain ⟨record, hselect, hfield⟩ := Option.bind_eq_some_iff.1 hpart
      intro a ha
      obtain ⟨tag, htag, hbody⟩ := bind_eq_ok.1 ha
      obtain ⟨f, -, hread⟩ := TaggedKind.exists_read htag hselect
      obtain ⟨r, hr, hf⟩ := (hread _ a).1 hbody
      exact bind_eq_ok.2 ⟨tag, htag, (hread _ a).2 ⟨r, hrecord hfield hr, hf⟩⟩

theorem Edit.follows {levels : Nat} {part : Part} {v w : Json} (h : Edit levels part v w) : part.Follows v w := by
  induction h with
  | permute h => exact Part.follows_permute h
  | leaveOut hfield hdefault => exact Part.follows_leaveOut hfield hdefault
  | insert htag hkey _ => exact Part.follows_insert htag hkey
  | change htag hkey _ => exact Part.follows_change htag hkey
  | refill hname htag _ => exact follows_refill hname htag
  | member hfield _ ih => exact Part.follows_member hfield ih
  | element hpart _ ih => exact Part.follows_element hpart ih

/-! ### Documents -/

theorem Edit.namedTag {levels : Nat} {v w : Json} (h : Edit levels (.tagged .statement) v w) (hv : v.NamedTag) :
    w.NamedTag := by
  cases h with
  | permute h => exact fun m hm => hv m (h.mem_iff.2 hm)
  | leaveOut _ _ =>
    simp only [NamedTag, List.forall_mem_append, List.forall_mem_cons] at hv ⊢
    exact ⟨hv.1, hv.2.2⟩
  | insert htag _ _ =>
    simp only [NamedTag, List.forall_mem_append, List.forall_mem_cons] at hv ⊢
    exact ⟨hv.1, fun h => absurd h htag, hv.2⟩
  | change htag _ _ =>
    simp only [NamedTag, List.forall_mem_append, List.forall_mem_cons] at hv ⊢
    exact ⟨hv.1, fun h => absurd h htag, hv.2.2⟩
  | @refill _ _ name _ _ front' back' _ htag _ =>
    simp only [NamedTag, List.forall_mem_append, List.forall_mem_cons] at htag ⊢
    exact ⟨fun m hm h => absurd h (htag.1 m hm), fun _ => ⟨name, rfl⟩, fun m hm h => absurd h (htag.2 m hm)⟩
  | member hfield _ =>
    have hbeside := Part.beside_of_mem hfield _ rfl
    simp only [NamedTag, List.forall_mem_append, List.forall_mem_cons] at hv ⊢
    exact ⟨hv.1, fun h => absurd h hbeside, hv.2.2⟩
  | @element _ _ _ _ _ front _ hpart _ =>
    cases front with
    | nil => cases hpart
    | cons first front => exact hv

/-- What lists statements still lists them after an edit. -/
theorem Edit.lists {v w : Json} {statements : List Statement} (h : Edit nestingLimit .document v w)
    (hv : v.Lists statements) : w.Lists statements where
  hfits := h.fits hv.hfits
  hread := (Decoder.tracks_tagged .statement).list "a sequence" h.follows hv.hread
  hnamed := by
    have hnamed := hv.hnamed
    cases h with
    | @element _ _ _ value other front back hpart h =>
      cases hpart
      rintro _ ⟨⟩
      have hall := hnamed _ rfl
      simp only [List.forall_mem_append, List.forall_mem_cons] at hall ⊢
      exact ⟨hall.1, h.namedTag hall.2.1, hall.2.2⟩
    | _ => rintro _ ⟨⟩

theorem lists_of_edits {v w : Json} {statements : List Statement}
    (h : Relation.ReflTransGen (Edit nestingLimit .document) v w) (hv : v.Lists statements) : w.Lists statements := by
  induction h with
  | refl => exact hv
  | tail _ hedit ih => exact hedit.lists ih

/-- A document that is accepted writes one value. After any edits of this value, and in whatever form it is written
then, it is accepted as the same statements, and so the model files are the same. -/
theorem readStatements_edits {s : Text} {statements : List Statement} (h : readStatements s = .ok statements) :
    (∃! v, DocumentSpelling v s) ∧ ∀ v w s', DocumentSpelling v s →
      Relation.ReflTransGen (Edit nestingLimit .document) v w → DocumentSpelling w s' →
        readStatements s' = .ok statements ∧ ∀ options : Options, options.generate s' = options.generate s := by
  obtain ⟨v, hspelling, hlists⟩ := readStatements_iff.1 h
  have hunique (u : Json) (hu : DocumentSpelling u s) : u = v := documentSpelling_unique hu hspelling
  refine ⟨⟨v, hspelling, hunique⟩, fun u w s' hu hedits hw => ?_⟩
  rw [hunique u hu] at hedits
  have hread : readStatements s' = .ok statements := readStatements_iff.2 ⟨w, hw, lists_of_edits hedits hlists⟩
  refine ⟨hread, fun options => ?_⟩
  rw [Options.generate, Options.generate, hread, h]

def plainDocument : Json :=
  .array [.object [("type", .string "create_table"), ("name", .string "users"), ("columns", .array [
    .object [("type", .string "column"), ("name", .string "id"), ("comment", .null)],
    .object [("type", .string "unique_key"), ("fields", .array [.string "id"])]])]]

def editedDocument : Json :=
  .array [.object [("columns", .array [
    .object [("name", .string "id"), ("type", .string "column")],
    .object [("using", .null), ("type", .string "unique_key")]]),
    ("engine", .object []), ("type", .string "create_table"), ("name", .string "users")]]

def plainStatements : List Statement :=
  [.createTable { name := "users", entries := [.column { name := "id" }, .other] }]

theorem plainDocument_edits : Relation.ReflTransGen (Edit nestingLimit .document) plainDocument editedDocument := by
  have hstatement {v w : Json} (h : Edit 126 (.tagged .statement) v w) :
      Edit nestingLimit .document (.array [v]) (.array [w]) :=
    @Edit.element 126 _ (.tagged .statement) _ _ [] [] rfl h
  have hcolumns {v w : Json} (h : Edit 125 (.list (.tagged .entry)) v w) : Edit nestingLimit .document
      (.array [.object [("type", .string "create_table"), ("name", .string "users"), ("columns", v)]])
      (.array [.object [("type", .string "create_table"), ("name", .string "users"), ("columns", w)]]) :=
    hstatement <| @Edit.member 125 _ { key := "columns", part := .list (.tagged .entry), default := some (.array []) }
      v w [("type", .string "create_table"), ("name", .string "users")] []
      (Part.mem_fields rfl (.tail _ (.head _))) h
  have hunique : TaggedKind.entry.select (.string "unique_key") = none := by decide +kernel
  have hengine : ("engine" : Text) ∉ RecordKind.table.fields.map FieldPart.key := by decide
  -- The comment of the column goes, and its name comes first.
  refine .head (hcolumns (@Edit.element 124 _ (.tagged .entry) _ _ [] _ rfl
    (@Edit.leaveOut _ _ { key := "comment", part := .scalar, default := some .null } _
      [("type", .string "column"), ("name", .string "id")] [] (Part.mem_fields rfl ?_) rfl))) ?_
  · exact List.mem_of_getElem? (i := 5) rfl
  refine .head (hcolumns (@Edit.element 124 _ (.tagged .entry) _ _ [] _ rfl (.permute (.swap _ _ _)))) ?_
  -- The unique key is filled with something else.
  refine .head (hcolumns (@Edit.element 124 _ (.tagged .entry) _ _ [_] _ rfl
    (@Edit.refill _ .entry "unique_key" [] _ [("using", .null)] [] hunique (by simp; decide) (by simp [Fits])))) ?_
  -- The table gets an engine, and its members another order.
  refine .head (hstatement (@Edit.insert 125 (.tagged .statement) "engine" (.object []) [] _ (by decide) hengine
    (by simp [Fits]))) ?_
  refine .single (hstatement (.permute ?_))
  exact @List.perm_append_comm _ [_, _, _] [_]

/-- An edited document is read as the plain one is. -/
theorem readStatements_edits_plainDocument : readStatements plainDocument.print = .ok plainStatements ∧
    readStatements editedDocument.print = .ok plainStatements := by
  have h : readStatements plainDocument.print = .ok plainStatements := by decide +kernel
  have hintegral : plainDocument.Integral ∧ editedDocument.Integral := by simp [plainDocument, editedDocument]
  exact ⟨h, ((readStatements_edits h).2 _ _ _ (documentSpelling_print hintegral.1) plainDocument_edits
    (documentSpelling_print hintegral.2)).1⟩

end TableModel
