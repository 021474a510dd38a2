import Mathlib.Data.List.Infix
import TableModel.Json.Print
import TableModel.Proofs.Model.SinglePass

/-!
# Texts in a script

The name of a table and the comments have their breaks escaped, so that each stands on one line of the script, as deep
as its place asks for. A default that is a text has only its first quote escaped. Its breaks are breaks of the script:
the text goes on in the next line, behind spaces that were not in it, and a carriage return before a line feed is gone.
So a field takes a line for each of its attributes, and one more for each break in its default.
-/

namespace TableModel

open Text Layout

variable {field : ModelField} {model : Model}

/-! ### The lines of a field -/

def linesOf (ts : List Text) : Nat :=
  (ts.flatMap ofText).length

theorem linesOf_append (front back : List Text) : linesOf (front ++ back) = linesOf front + linesOf back := by
  rw [linesOf, List.flatMap_append, List.length_append]
  rfl

theorem linesOf_singleton (t : Text) : linesOf [t] = t.count '\n' + 1 := by
  rw [linesOf, List.flatMap_singleton, length_ofText]

theorem linesOf_toList (given : Option Text) :
    linesOf given.toList = given.isSome.toNat + (given.getD []).count '\n' := by
  cases given with
  | none => rfl
  | some t => exact (linesOf_singleton t).trans (Nat.add_comm _ _)

theorem count_attributeLine {name : Text} (h : '\n' ∉ name) (value : Text) :
    (attributeLine name value).count '\n' = value.count '\n' := by
  have hcolon : (": " : Text).count '\n' = 0 := by decide
  have hcomma : ("," : Text).count '\n' = 0 := by decide
  rw [attributeLine, List.count_append, List.count_append, List.count_append, List.count_eq_zero_of_not_mem h, hcolon,
    hcomma, Nat.add_zero, Nat.zero_add]

namespace ModelField

theorem linesOf_attributes (field : ModelField) :
    linesOf field.attributes =
      1 + field.isPrimaryKey.toNat + field.autoIncrement.toNat + (!field.allowNull).toNat
        + field.defaultValue.isSome.toNat + field.comment.isSome.toNat
        + (field.dataType.text.count '\n' + (field.defaultText.getD []).count '\n') := by
  have hquote (t : Text) : (quote t).count '\n' = 0 := List.count_eq_zero_of_not_mem (Unbroken.quote t).2
  have htype : linesOf [attributeLine "type" field.dataType.text] = 1 + field.dataType.text.count '\n' := by
    rw [linesOf_singleton, count_attributeLine (by decide), Nat.add_comm]
  have hprimary : linesOf (if field.isPrimaryKey then [attributeLine "primaryKey" "true"] else []) =
      field.isPrimaryKey.toNat := by
    cases field.isPrimaryKey <;> rfl
  have hincrement : linesOf (if field.autoIncrement then [attributeLine "autoIncrement" "true"] else []) =
      field.autoIncrement.toNat := by
    cases field.autoIncrement <;> rfl
  have hnull : linesOf (if field.allowNull then [] else [attributeLine "allowNull" "false"]) =
      (!field.allowNull).toNat := by
    cases field.allowNull <;> rfl
  have hdefault : linesOf (field.defaultText.map (attributeLine "defaultValue")).toList =
      field.defaultValue.isSome.toNat + (field.defaultText.getD []).count '\n' := by
    rw [linesOf_toList, defaultText]
    cases field.defaultValue with
    | none => rfl
    | some value => exact congrArg (1 + ·) (count_attributeLine (by decide : '\n' ∉ "defaultValue".toList) _)
  have hcomment : linesOf (field.comment.map fun comment => attributeLine "comment" (quote comment)).toList =
      field.comment.isSome.toNat := by
    rw [linesOf_toList]
    cases field.comment with
    | none => rfl
    | some comment =>
      have hname : '\n' ∉ "comment".toList := by decide
      exact congrArg (1 + ·) ((count_attributeLine hname _).trans (hquote comment))
  simp only [attributes, linesOf_append, htype, hprimary, hincrement, hnull, hdefault, hcomment]
  omega

/-- A field takes a line for its name, the lines of its attributes, and one for the closing bracket. -/
theorem length_layout (field : ModelField) :
    field.layout.length =
      3 + field.isPrimaryKey.toNat + field.autoIncrement.toNat + (!field.allowNull).toNat
        + field.defaultValue.isSome.toNat + field.comment.isSome.toNat
        + (field.name.count '\n' + field.dataType.text.count '\n' + (field.defaultText.getD []).count '\n') := by
  have hheader : (ofText (field.name ++ ": \x7b")).length = field.name.count '\n' + 1 := by
    have hopen : (": \x7b" : Text).count '\n' = 0 := by decide
    rw [length_ofText, List.count_append, hopen]
  have hattributes : field.attributeLayout.length = linesOf field.attributes := rfl
  have hne : field.attributeLayout ≠ [] := by
    rw [attributeLayout, attributes_eq]
    exact List.append_ne_nil_of_left_ne_nil (ofText_ne_nil _) _
  rw [layout, List.length_append, List.length_append, hheader, length_deeper hne, hattributes, linesOf_attributes]
  show _ + (_ + 1) = _
  omega

theorem mem_pairs_of_comment {comment : Text} (h : field.comment = some comment) :
    ("comment".toList, quote comment) ∈ field.pairs := by
  apply List.mem_cons_of_mem
  rw [h]
  exact List.mem_append_right _ List.mem_cons_self

theorem mem_pairs_of_defaultText {t : Text} (h : field.defaultText = some t) :
    ("defaultValue".toList, t) ∈ field.pairs := by
  apply List.mem_cons_of_mem
  rw [h]
  exact List.mem_append_left _ (List.mem_append_right _ List.mem_cons_self)

end ModelField

/-! ### Where the texts stand -/

namespace Model

theorem mem_codeLayout_tableName (model : Model) : (2, quote model.tableName ++ ",") ∈ model.codeLayout := by
  have hwhole : Whole (line 0 (quote model.tableName ++ ",")) := .line 0 ((Unbroken.quote _).append (by decide)).1
  have hpart := sink_infix_of_arguments hwhole (List.infix_of_mem_flatten List.mem_cons_self)
  rw [sink_line] at hpart
  exact (List.singleton_infix_iff _ _).1 hpart

theorem mem_codeLayout_comment {comment : Text} (h : model.comment = some comment) :
    (3, attributeLine "comment" (quote comment)) ∈ model.codeLayout := by
  have hwhole : Whole (line 0 (attributeLine "comment" (quote comment))) := .line 0 (unbroken_comment comment).1
  have hmem : blockLayout (line 0 (attributeLine "comment" (quote comment))) ∈ model.argumentLayouts := by
    rw [argumentLayouts, h]
    exact List.mem_append_right _ List.mem_cons_self
  have hpart := sink_infix_of_arguments hwhole.deeper
    ((deeper_infix_blockLayout _).trans (List.infix_of_mem_flatten hmem))
  exact (List.singleton_infix_iff _ _).1 hpart

theorem mem_codeLayout_attribute {pair : Text × Text} (hfield : field ∈ model.fields) (hpair : pair ∈ field.pairs)
    (h : '\n' ∉ attributeLine pair.1 pair.2) : (4, attributeLine pair.1 pair.2) ∈ model.codeLayout := by
  have hpart := sink_attribute hfield hpair
  rw [ofText_of_not_mem h, sink_line] at hpart
  exact (List.singleton_infix_iff _ _).1 hpart

end Model

/-- The name and the comments of a table stand on one line of the script each. A default that is a text does if there is
no line feed in it; all of its breaks are in the script. -/
theorem Options.render_literals {options : Options} {file : ModelFile} (h : options.render model = .ok file) :
    let width := options.indentWidth
    let lines := file.content.splitOn '\n'
    (∀ t, (quote t).Unbroken) ∧
      pad width (2, quote model.tableName ++ ",") ∈ lines ∧
      (∀ comment ∈ model.comment, pad width (3, attributeLine "comment" (quote comment)) ∈ lines) ∧
      ∀ field ∈ model.fields,
        (∀ comment ∈ field.comment, pad width (4, attributeLine "comment" (quote comment)) ∈ lines) ∧
        (∀ value, field.defaultValue = some (.text value) →
          (sink 4 (ofText (attributeLine "defaultValue" (inQuotes value)))).map (pad width) <:+: lines ∧
          ((∃ line ∈ lines, inQuotes value <:+: line) ↔ '\n' ∉ value) ∧
          ((inQuotes value).Unbroken ↔ value.Unbroken)) ∧
        ((field.render (spaces width)).splitOn '\n').length =
          3 + field.isPrimaryKey.toNat + field.autoIncrement.toNat + (!field.allowNull).toNat
            + field.defaultValue.isSome.toNat + field.comment.isSome.toNat
            + (field.name.count '\n' + field.dataType.text.count '\n' + (field.defaultText.getD []).count '\n') := by
  intro width lines
  have hmem {printed : Nat × Text} (hprinted : printed ∈ model.codeLayout) : pad width printed ∈ lines :=
    (codeLayout_prefix_of_render h).subset (List.mem_map_of_mem hprinted)
  refine ⟨Unbroken.quote, hmem model.mem_codeLayout_tableName, ?_, ?_⟩
  · intro comment hcomment
    exact hmem (Model.mem_codeLayout_comment hcomment)
  intro field hfield
  refine ⟨?_, ?_, ?_⟩
  · intro comment hcomment
    have hpair := ModelField.mem_pairs_of_comment hcomment
    exact hmem (Model.mem_codeLayout_attribute hfield hpair (unbroken_comment comment).2)
  · intro value hvalue
    -- The lines of the attribute are known in any case. No line of a file holds a line feed, so that a value with one
    -- cannot be found on any of them.
    have hpair : ("defaultValue".toList, inQuotes value) ∈ field.pairs :=
      ModelField.mem_pairs_of_defaultText (by rw [ModelField.defaultText, hvalue]; rfl)
    refine ⟨attribute_infix_of_render h hfield hpair, ⟨?_, ?_⟩, unbroken_inQuotes_iff⟩
    · rintro ⟨line, hline, hpart⟩ hbreak
      exact not_mem_of_mem_splitOn hline (hpart.subset ((mem_inQuotes_iff (.inr rfl)).2 hbreak))
    · intro hbreak
      have hline : '\n' ∉ attributeLine "defaultValue" (inQuotes value) := by
        rw [← List.count_eq_zero, count_attributeLine (by decide), List.count_eq_zero]
        exact mt (mem_inQuotes_iff (.inr rfl)).1 hbreak
      refine ⟨_, hmem (Model.mem_codeLayout_attribute hfield hpair hline), ?_⟩
      exact List.infix_append_of_infix_right (List.infix_append _ _ _)
  · rw [← ModelField.text_layout, splitOn_text width field.sound_layout.hlines field.layout_ne_nil, List.length_map]
    exact field.length_layout

/-- A field with a break in its default and another one in its comment. -/
def brokenField : ModelField where
  name := "size"
  dataType := { symbol := "STRING" }
  autoIncrement := true
  defaultValue := some (.text "a\r\nb")
  comment := some "it's\nbroken"

def brokenModel : Model where
  tableName := "quiz"
  baseName := "quiz"
  fields := [brokenField]
  comment := some "one\r\ntwo"
  requiredSymbols := ["STRING"]

def brokenFile : ModelFile where
  name := "quiz.js"
  content := brokenModel.render (spaces 4)

def brokenSchema : Text :=
  Json.print (.array [.object [("type", .string "create_table"), ("name", .string "quiz"), ("columns", .array [
    .object [("type", .string "column"), ("name", .string "size"), ("data_type", .object [("type", .string "VARCHAR")]),
      ("auto_increment", .boolean true), ("default_value", .string "a\r\nb"), ("comment", .string "it's\nbroken")]]),
    ("options", .array [.object [("key", .string "COMMENT"), ("value", .string "one\r\ntwo")]])]])

theorem Options.render_literals_brokenModel :
    ({} : Options).render brokenModel = .ok brokenFile ∧ brokenField ∈ brokenModel.fields ∧
      brokenField.defaultValue = some (.text "a\r\nb") ∧
      [pad 4 (4, "defaultValue: 'a"), pad 4 (4, "b',")] <:+: brokenFile.content.splitOn '\n' := by
  have hrender : ({} : Options).render brokenModel = .ok brokenFile := rfl
  obtain ⟨-, -, -, hfields⟩ := render_literals hrender
  obtain ⟨-, hdefault, -⟩ := hfields brokenField List.mem_cons_self
  exact ⟨hrender, List.mem_cons_self, rfl, (hdefault "a\r\nb" rfl).1⟩

/-- The default of the field is not on one line of the file, and the field takes one more line than attributes. -/
theorem brokenSchema_spansLines :
    ({} : Options).generate brokenSchema = .ok [brokenFile] ∧
      ({} : Options).render brokenModel = .ok brokenFile ∧
      brokenModel.fields = [brokenField] ∧ brokenField.defaultValue = some (.text "a\r\nb") ∧
      (∀ line ∈ brokenFile.content.splitOn '\n', ¬inQuotes "a\r\nb" <:+: line) ∧
      '\n' ∉ brokenField.name ∧ '\n' ∉ brokenField.dataType.text ∧
      ((brokenField.render (spaces 4)).splitOn '\n').length = 3 + 4 + 1 := by
  have hgenerate : ({} : Options).generate brokenSchema = .ok [brokenFile] := by decide +kernel
  refine ⟨hgenerate, rfl, rfl, rfl, ?_, by decide, by decide, by decide +kernel⟩
  intro line hline hpart
  exact not_mem_of_mem_splitOn hline (hpart.subset (by decide))

end TableModel
