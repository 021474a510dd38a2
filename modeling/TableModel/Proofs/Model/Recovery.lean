import Mathlib.Data.List.Forall2
import TableModel.Proofs.Model.SinglePass
import TableModel.Proofs.Number.Separation

/-!
# Reading a model back from its script

The lines of a script can be told from its text, and each line of a model without breaks tells what it
is for: a field is opened by a line that ends in a brace where the block would be closed by one that
ends in a comma, and an attribute starts with its name where the field would be closed by a brace. Names
and type expressions are written as they are, but they stand between fixed words on a line of their
own. So two models with the same script agree in all that the script shows, one line after the other.
-/

namespace TableModel

open Text Layout

variable {left right : ModelField} {width depth : Nat}

/-! ### Lists with a mark -/

/-- Two lists with a mark in them that is not met before agree before and behind the mark. -/
theorem append_cons_inj {α : Type} {mark : α} {as bs cs ds : List α} (hleft : mark ∉ as)
    (hright : mark ∉ bs) (h : as ++ mark :: cs = bs ++ mark :: ds) : as = bs ∧ cs = ds := by
  induction as generalizing bs with
  | nil =>
    cases bs with
    | nil => exact ⟨rfl, (List.cons.inj h).2⟩
    | cons b bs => exact absurd ((List.cons.inj h).1 ▸ List.mem_cons_self) hright
  | cons a as ih =>
    obtain ⟨ha, has⟩ := not_or.1 (mt List.mem_cons.2 hleft)
    cases bs with
    | nil => exact absurd (List.cons.inj h).1.symm ha
    | cons b bs =>
      obtain ⟨hhead, htail⟩ := List.cons.inj h
      obtain ⟨hrest, hmore⟩ := ih has (fun hb => hright (List.mem_cons_of_mem b hb)) htail
      rw [hhead, hrest]
      exact ⟨rfl, hmore⟩

theorem map_inj_of_mem {α β : Type} {f : α → β} {as bs : List α}
    (hf : ∀ a ∈ as, ∀ b ∈ bs, f a = f b → a = b) (h : as.map f = bs.map f) : as = bs := by
  induction as generalizing bs with
  | nil => exact (List.map_eq_nil_iff.1 h.symm).symm
  | cons a as ih =>
    cases bs with
    | nil => cases h
    | cons b bs =>
      obtain ⟨hhead, htail⟩ := List.cons.inj h
      have htails : ∀ x ∈ as, ∀ y ∈ bs, f x = f y → x = y := by
        intro x hx y hy
        exact hf x (List.mem_cons_of_mem a hx) y (List.mem_cons_of_mem b hy)
      rw [hf a List.mem_cons_self b List.mem_cons_self hhead, ih htails htail]

/-! ### Single lines -/

theorem pad_inj {s t : Text} (h : pad width (depth, s) = pad width (depth, t)) : s = t :=
  List.append_cancel_left h

/-- Lines that end differently are different at all depths. -/
theorem pad_ne {other : Nat} {s t : Text} {c d : Char} (hs : s.getLast? = some c) (ht : t.getLast? = some d)
    (hne : c ≠ d) : pad width (depth, s) ≠ pad width (other, t) := by
  intro h
  have hleft : (pad width (depth, s)).getLast? = some c := by
    rw [pad, List.getLast?_append, hs]
    rfl
  have hright : (pad width (other, t)).getLast? = some d := by
    rw [pad, List.getLast?_append, ht]
    rfl
  rw [h, hright] at hleft
  exact hne (Option.some.inj hleft).symm

theorem dropWhile_pad {t : Text} {c : Char} (h : t.head? = some c) (hc : c ≠ ' ') :
    (pad width (depth, t)).dropWhile (· == ' ') = t := by
  cases t with
  | nil => cases h
  | cons d t =>
    cases h
    have hspaces : ∀ s ∈ spaces (width * depth), (s == ' ') = true := by
      intro s hs
      rw [List.eq_of_mem_replicate hs]
      rfl
    rw [pad, List.dropWhile_append_of_pos hspaces, List.dropWhile_cons_of_neg]
    simpa using hc

theorem attributeNames_start : ∀ name ∈ attributeNames,
    ':' ∉ name ∧ ∃ c, name.head? = some c ∧ c ≠ ' ' ∧ c ≠ '\x7d' := by
  intro name hname
  simp only [attributeNames, List.mem_cons, List.not_mem_nil, or_false] at hname
  rcases hname with rfl | rfl | rfl | rfl | rfl | rfl <;>
    exact ⟨by decide, _, rfl, by decide, by decide⟩

/-- A line of an attribute is never taken for one that closes a block. -/
theorem attributeLine_ne_close {name value : Text} (hname : name ∈ attributeNames) {closing : Nat} :
    pad width (depth, attributeLine name value) ≠ pad width (closing, "\x7d,") := by
  intro h
  obtain ⟨-, c, hstart, hspace, hbrace⟩ := attributeNames_start name hname
  have hhead : (attributeLine name value).head? = some c := by
    cases name with
    | nil => cases hstart
    | cons d name => exact hstart
  have hline : attributeLine name value = "\x7d,".toList := by
    have hstrip : (pad width (depth, attributeLine name value)).dropWhile (· == ' ') =
        attributeLine name value := dropWhile_pad hhead hspace
    rw [← hstrip, h]
    exact dropWhile_pad (c := '\x7d') rfl (by decide)
  rw [hline] at hhead
  exact hbrace (Option.some.inj hhead).symm

theorem attributeLine_inj {name other value given : Text} (hname : name ∈ attributeNames)
    (hother : other ∈ attributeNames) (h : attributeLine name value = attributeLine other given) :
    name = other ∧ value = given := by
  obtain ⟨hmark, -⟩ := attributeNames_start name hname
  obtain ⟨hotherMark, -⟩ := attributeNames_start other hother
  rw [attributeLine, attributeLine] at h
  have hlines : name ++ ": ".toList ++ value = other ++ ": ".toList ++ given :=
    List.append_cancel_right h
  rw [List.append_assoc, List.append_assoc] at hlines
  obtain ⟨hnames, hvalues⟩ := append_cons_inj hmark hotherMark hlines
  exact ⟨hnames, (List.cons.inj hvalues).2⟩

/-! ### Fields -/

namespace ModelField

def valueOf (field : ModelField) (name : Text) : Option Text :=
  field.pairs.lookup name

theorem valueOf_type (field : ModelField) :
    field.valueOf "type" = some field.dataType.text :=
  rfl

theorem valueOf_flags (field : ModelField) :
    field.valueOf "primaryKey" = (if field.isPrimaryKey then some "true".toList else none) ∧
      field.valueOf "autoIncrement" = (if field.autoIncrement then some "true".toList else none) ∧
      field.valueOf "allowNull" = (if field.allowNull then none else some "false".toList) := by
  obtain ⟨name, dataType, isPrimaryKey, allowNull, autoIncrement, defaultValue, comment, _⟩ := field
  cases isPrimaryKey <;> cases autoIncrement <;> cases allowNull <;> cases defaultValue <;>
    cases comment <;> exact ⟨rfl, rfl, rfl⟩

theorem valueOf_texts (field : ModelField) :
    field.valueOf "defaultValue" = field.defaultText ∧
      field.valueOf "comment" = field.comment.map quote := by
  obtain ⟨name, dataType, isPrimaryKey, allowNull, autoIncrement, defaultValue, comment, _⟩ := field
  cases isPrimaryKey <;> cases autoIncrement <;> cases allowNull <;> cases defaultValue <;>
    cases comment <;> exact ⟨rfl, rfl⟩

theorem pairs_of_attributes (h : left.attributes = right.attributes) : left.pairs = right.pairs := by
  rw [attributes_eq, attributes_eq] at h
  refine map_inj_of_mem ?_ h
  intro pair hpair other hother hlines
  obtain ⟨hnames, hvalues⟩ := attributeLine_inj (mem_pairs hpair).1 (mem_pairs hother).1 hlines
  exact Prod.ext hnames hvalues

end ModelField

theorem ScriptType.name_inj {left right : ScriptType} (h : left.name = right.name) : left = right := by
  cases left <;> cases right
  · rfl
  · exact absurd h (by decide)
  · exact absurd h (by decide)
  · rfl

/-- A default that is a number is held as the format of numbers has it. -/
def ModelField.CanonicalDefault (field : ModelField) : Prop :=
  ∀ n, field.defaultValue = some (.number n) → n.Canonical

/-- Two fields that a script shows alike. The text of a default tells whether it is a number or a text, and
which one it is. -/
structure ModelField.Alike (left right : ModelField) : Prop where
  hname : left.name = right.name
  hdataType : left.dataType.text = right.dataType.text
  hprimaryKey : left.isPrimaryKey = right.isPrimaryKey
  hallowNull : left.allowNull = right.allowNull
  hautoIncrement : left.autoIncrement = right.autoIncrement
  hdefaultText : left.defaultText = right.defaultText
  htextDefault : ∀ t, left.defaultValue = some (.text t) ↔ right.defaultValue = some (.text t)
  hdefault : left.CanonicalDefault → right.CanonicalDefault → left.defaultValue = right.defaultValue
  hcomment : left.comment = right.comment
  hscriptType : left.scriptType = right.scriptType

namespace ModelField

theorem valueOf_congr (h : left.attributes = right.attributes) (name : Text) :
    left.valueOf name = right.valueOf name := by
  rw [valueOf, valueOf, pairs_of_attributes h]

theorem flag_inj {α : Type} {a b : Bool} {x y : α} (hne : x ≠ y)
    (h : (if a then x else y) = if b then x else y) : a = b := by
  cases a <;> cases b
  · rfl
  · exact absurd h.symm hne
  · exact absurd h hne
  · rfl

theorem flags_of_attributes (h : left.attributes = right.attributes) :
    left.isPrimaryKey = right.isPrimaryKey ∧ left.autoIncrement = right.autoIncrement ∧
      left.allowNull = right.allowNull := by
  obtain ⟨hkey, hincrement, hnull⟩ := left.valueOf_flags
  obtain ⟨hkey', hincrement', hnull'⟩ := right.valueOf_flags
  rw [valueOf_congr h, hkey'] at hkey
  rw [valueOf_congr h, hincrement'] at hincrement
  rw [valueOf_congr h, hnull'] at hnull
  refine ⟨flag_inj ?_ hkey.symm, flag_inj ?_ hincrement.symm, flag_inj ?_ hnull.symm⟩
  · exact Option.some_ne_none _
  · exact Option.some_ne_none _
  · exact (Option.some_ne_none _).symm

/-- A default that is a text is the same text in every field with the same default in its script. -/
theorem defaultValue_text {left right : ModelField} (h : left.defaultText = right.defaultText) {t : Text}
    (htext : left.defaultValue = some (.text t)) : right.defaultValue = some (.text t) := by
  rw [defaultText, defaultText, htext, Option.map_some] at h
  obtain ⟨literal, hliteral, hscript⟩ := Option.map_eq_some_iff.1 h.symm
  rw [hliteral, Literal.toScript_text hscript.symm rfl]

theorem defaultValue_inj (hl : left.CanonicalDefault) (hr : right.CanonicalDefault)
    (h : left.defaultText = right.defaultText) : left.defaultValue = right.defaultValue := by
  cases hleft : left.defaultValue with
  | none =>
    rw [defaultText, defaultText, hleft, Option.map_none] at h
    exact (Option.map_eq_none_iff.1 h.symm).symm
  | some literal =>
    cases literal with
    | text t => exact (defaultValue_text h hleft).symm
    | number n =>
      rw [defaultText, defaultText, hleft, Option.map_some] at h
      obtain ⟨other, hother, hscript⟩ := Option.map_eq_some_iff.1 h.symm
      cases other with
      | text t =>
        have hnumber := Literal.toScript_text hscript rfl
        cases hnumber
      | number m => rw [hother, Number.text_inj (hr m hother) (hl n hleft) hscript]

theorem Unbroken.comment_inj (hl : left.Unbroken) (hr : right.Unbroken)
    (h : left.comment.map quote = right.comment.map quote) : left.comment = right.comment := by
  cases hleft : left.comment with
  | none =>
    rw [hleft, Option.map_none] at h
    exact (Option.map_eq_none_iff.1 h.symm).symm
  | some comment =>
    rw [hleft, Option.map_some] at h
    obtain ⟨other, hother, hquote⟩ := Option.map_eq_some_iff.1 h.symm
    rw [hother, quote_inj (hr.hcomment other hother) (hl.hcomment comment hleft) hquote]

theorem scriptType_of_property (hname : left.name = right.name) (hcomment : left.comment = right.comment)
    (h : left.property = right.property) : left.scriptType = right.scriptType := by
  have hlines (field : ModelField) : field.property =
      (" * @property \x7b ".toList ++ field.scriptType.name) ++ (" \x7d ".toList ++
        (field.name ++ field.comment.elim [] (' ' :: ·))) := by
    rw [← List.append_assoc, ← List.append_assoc]
    rfl
  rw [hlines, hlines, hname, hcomment] at h
  exact ScriptType.name_inj (List.append_cancel_left (List.append_cancel_right h))

theorem Alike.of_lines (hl : left.Unbroken) (hr : right.Unbroken) (hname : left.name = right.name)
    (hattributes : left.attributes = right.attributes) (hproperty : left.property = right.property) :
    left.Alike right := by
  have hvalues := valueOf_congr hattributes
  obtain ⟨hprimaryKey, hautoIncrement, hallowNull⟩ := flags_of_attributes hattributes
  have hdataType : left.dataType.text = right.dataType.text := by
    apply Option.some.inj
    rw [← left.valueOf_type, ← right.valueOf_type, hvalues]
  have hdefaultText : left.defaultText = right.defaultText := by
    rw [← left.valueOf_texts.1, ← right.valueOf_texts.1, hvalues]
  have hquotes : left.comment.map quote = right.comment.map quote := by
    rw [← left.valueOf_texts.2, ← right.valueOf_texts.2, hvalues]
  have hcomment : left.comment = right.comment := hl.comment_inj hr hquotes
  exact {
    hname
    hdataType
    hprimaryKey
    hallowNull
    hautoIncrement
    hdefaultText
    htextDefault := fun t => ⟨defaultValue_text hdefaultText, defaultValue_text hdefaultText.symm⟩
    hdefault := fun hleft hright => defaultValue_inj hleft hright hdefaultText
    hcomment
    hscriptType := scriptType_of_property hname hcomment hproperty }

def rows (width depth : Nat) (fields : List ModelField) : List Text :=
  (fields.flatMap (printed depth)).map (pad width)

theorem rows_cons (field : ModelField) (fields : List ModelField) :
    rows width depth (field :: fields) =
      pad width (depth, field.name ++ ": \x7b") ::
        (field.attributes.map (fun t => pad width (depth + 1, t)) ++
          pad width (depth, "\x7d,") :: rows width depth fields) := by
  rw [rows, List.flatMap_cons, printed, List.map_append, List.map_append, List.map_append, List.map_map]
  simp only [line, List.map_singleton, List.append_assoc, List.cons_append, rows]
  rfl

theorem header_ne_close (name : Text) {closing : Nat} :
    pad width (depth, name ++ ": \x7b") ≠ pad width (closing, "\x7d,") := by
  apply pad_ne (c := '\x7b') (d := ',')
  · rw [List.getLast?_append]
    rfl
  · rfl
  · decide

theorem close_not_mem_attributes (field : ModelField) {closing : Nat} :
    pad width (closing, "\x7d,") ∉ field.attributes.map fun t => pad width (depth, t) := by
  intro hmem
  obtain ⟨line, hline, hclose⟩ := List.mem_map.1 hmem
  rw [attributes_eq] at hline
  obtain ⟨pair, hpair, rfl⟩ := List.mem_map.1 hline
  exact attributeLine_ne_close (mem_pairs hpair).1 hclose

/-- The lines of fields and what follows the line that closes their block can be told apart. -/
theorem rows_inj {fields others : List ModelField} {closing : Nat} {cs ds : List Text}
    (h : rows width depth fields ++ pad width (closing, "\x7d,") :: cs =
      rows width depth others ++ pad width (closing, "\x7d,") :: ds) :
    List.Forall₂ (fun left right => left.name = right.name ∧ left.attributes = right.attributes)
      fields others ∧ cs = ds := by
  induction fields generalizing others with
  | nil =>
    cases others with
    | nil => exact ⟨.nil, (List.cons.inj h).2⟩
    | cons other others =>
      rw [rows_cons] at h
      exact absurd (List.cons.inj h).1.symm (header_ne_close other.name)
  | cons field fields ih =>
    cases others with
    | nil =>
      rw [rows_cons] at h
      exact absurd (List.cons.inj h).1 (header_ne_close field.name)
    | cons other others =>
      rw [rows_cons, rows_cons, List.cons_append, List.cons_append] at h
      obtain ⟨hheader, h⟩ := List.cons.inj h
      rw [List.append_assoc, List.append_assoc] at h
      obtain ⟨hattributes, h⟩ := append_cons_inj field.close_not_mem_attributes
        other.close_not_mem_attributes h
      obtain ⟨hfields, hrest⟩ := ih h
      have hnames : field.name = other.name := List.append_cancel_right (pad_inj hheader)
      have hlines : field.attributes = other.attributes :=
        map_inj_of_mem (fun _ _ _ _ hpads => pad_inj hpads) hattributes
      exact ⟨.cons ⟨hnames, hlines⟩ hfields, hrest⟩

/-- Fields of the same lines are shown alike one by one. -/
theorem Alike.forall₂ {fields others : List ModelField} (hl : ∀ field ∈ fields, field.Unbroken)
    (hr : ∀ field ∈ others, field.Unbroken)
    (h : List.Forall₂ (fun left right => left.name = right.name ∧ left.attributes = right.attributes)
      fields others)
    (hproperties : fields.map (·.property) = others.map (·.property)) :
    List.Forall₂ Alike fields others := by
  induction h with
  | nil => exact .nil
  | cons hlines _ ih =>
    obtain ⟨hleft, hfields⟩ := List.forall_mem_cons.1 hl
    obtain ⟨hright, hothers⟩ := List.forall_mem_cons.1 hr
    obtain ⟨hproperty, hrest⟩ := List.cons.inj hproperties
    exact .cons (.of_lines hleft hright hlines.1 hlines.2 hproperty) (ih hfields hothers hrest)

end ModelField

end TableModel
