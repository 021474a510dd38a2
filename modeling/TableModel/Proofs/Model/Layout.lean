import TableModel.Proofs.Model.Assembled
import TableModel.Proofs.Text.Layout
import TableModel.Proofs.Text.Quoted

/-!
# The layout of a script

The script of a model has one layout for all widths of an indentation step. Each block that is indented
as a whole goes one step deeper with all that stands in it, and the parts of the script are put together
in the same order as their texts. The comment behind the function is not indented, so no width counts
there.
-/

namespace TableModel

open Text Layout

variable {field : ModelField} {model : Model} {inner : Layout}

/-! ### Blocks -/

theorem attributeLine_getLast? (name value : Text) : (attributeLine name value).getLast? = some ',' :=
  List.getLast?_concat

theorem unbroken_attributeLine {name value : Text} (hname : name.Unbroken) (hvalue : value.Unbroken) :
    (attributeLine name value).Unbroken :=
  ((hname.append (by decide)).append hvalue).append (by decide)

theorem unbroken_comment (comment : Text) : (attributeLine "comment" (quote comment)).Unbroken :=
  unbroken_attributeLine (by decide) (.quote comment)

def blockLayout (inner : Layout) : Layout :=
  line 0 "\x7b" ++ (deeper inner ++ line 0 "\x7d,")

theorem text_blockLayout (width : Nat) (h : Sound inner) :
    text width (blockLayout inner) = block (spaces width) (text width inner) := by
  have hrest : deeper inner ++ line 0 "\x7d," ≠ [] :=
    List.append_ne_nil_of_right_ne_nil _ (line_ne_nil _ _)
  rw [blockLayout, text_append width (line_ne_nil _ _) hrest,
    text_append width (deeper_ne_nil inner) (line_ne_nil _ _), text_line, text_line, text_deeper width h,
    block]
  simp only [List.append_assoc]
  rfl

theorem blockLayout_ne_nil (inner : Layout) : blockLayout inner ≠ [] :=
  List.append_ne_nil_of_left_ne_nil (line_ne_nil _ _) _

theorem sound_blockLayout (h : ∀ line ∈ inner, '\n' ∉ line.2) : Sound (blockLayout inner) := by
  have hopen : Sound (line 0 "\x7b") := .line (by decide) (by decide)
  have hclose : Sound (line 0 "\x7d,") := .line (by decide) (by decide)
  refine .append hopen.hlines (.append (not_mem_deeper h) hclose (line_ne_nil _ _)) ?_
  exact List.append_ne_nil_of_right_ne_nil _ (line_ne_nil _ _)

/-! ### Fields -/

namespace ModelField

/-- The attributes of a field, each a name and a value. -/
def pairs (field : ModelField) : List (Text × Text) :=
  ("type".toList, field.dataType.text) ::
    ((if field.isPrimaryKey then [("primaryKey".toList, "true".toList)] else [])
      ++ (if field.autoIncrement then [("autoIncrement".toList, "true".toList)] else [])
      ++ (if field.allowNull then [] else [("allowNull".toList, "false".toList)])
      ++ (field.defaultText.map fun t => ("defaultValue".toList, t)).toList
      ++ (field.comment.map fun t => ("comment".toList, quote t)).toList)

theorem attributes_eq (field : ModelField) :
    field.attributes = field.pairs.map fun pair => attributeLine pair.1 pair.2 := by
  obtain ⟨name, dataType, isPrimaryKey, allowNull, autoIncrement, defaultValue, comment, _⟩ := field
  cases isPrimaryKey <;> cases autoIncrement <;> cases allowNull <;> cases defaultValue <;>
    cases comment <;> rfl

def attributeLayout (field : ModelField) : Layout :=
  field.attributes.flatMap ofText

def layout (field : ModelField) : Layout :=
  ofText (field.name ++ ": \x7b") ++ (deeper field.attributeLayout ++ line 0 "\x7d,")

theorem sound_attributeLayout (field : ModelField) : Sound field.attributeLayout := by
  apply Sound.flatMap
  intro given hgiven
  rw [attributes_eq] at hgiven
  obtain ⟨pair, -, rfl⟩ := List.mem_map.1 hgiven
  exact ⟨.ofText (attributeLine_getLast? _ _) (by decide), ofText_ne_nil _⟩

theorem text_attributeLayout (width : Nat) (field : ModelField) :
    text width field.attributeLayout = joinLines field.attributes := by
  rw [attributeLayout, text_flatMap width fun t _ => ofText_ne_nil t]
  simp only [text_ofText, List.map_id']

theorem layout_ne_nil (field : ModelField) : field.layout ≠ [] :=
  List.append_ne_nil_of_left_ne_nil (ofText_ne_nil _) _

theorem text_layout (width : Nat) (field : ModelField) :
    text width field.layout = field.render (spaces width) := by
  have hrest : deeper field.attributeLayout ++ line 0 "\x7d," ≠ [] :=
    List.append_ne_nil_of_right_ne_nil _ (line_ne_nil _ _)
  rw [layout, text_append width (ofText_ne_nil _) hrest,
    text_append width (deeper_ne_nil _) (line_ne_nil _ _), text_ofText, text_line,
    text_deeper width field.sound_attributeLayout, text_attributeLayout, ModelField.render, block]
  simp only [List.append_assoc]
  rfl

theorem sound_layout (field : ModelField) : Sound field.layout := by
  have hheader : Sound (ofText (field.name ++ ": \x7b")) :=
    .ofText (c := '\x7b') (by rw [List.getLast?_append_of_ne_nil _ (by decide)]; rfl) (by decide)
  have hclose : Sound (line 0 "\x7d,") := .line (by decide) (by decide)
  refine .append hheader.hlines
    (.append (not_mem_deeper field.sound_attributeLayout.hlines) hclose (line_ne_nil _ _)) ?_
  exact List.append_ne_nil_of_right_ne_nil _ (line_ne_nil _ _)

theorem whole_layout (field : ModelField) : Whole field.layout := by
  refine ⟨field.layout_ne_nil, ?_⟩
  intro last hlast
  rw [layout, List.getLast?_append_of_ne_nil _ (List.append_ne_nil_of_right_ne_nil _ (line_ne_nil _ _)),
    List.getLast?_append_of_ne_nil _ (line_ne_nil _ _)] at hlast
  cases hlast
  rfl

/-- An attribute goes one step deeper than its field, line by line. -/
theorem sink_attribute_infix {pair : Text × Text} (h : pair ∈ field.pairs) :
    sink 4 (ofText (attributeLine pair.1 pair.2)) <:+: sink 3 field.layout := by
  have hwhole : Whole (ofText (attributeLine pair.1 pair.2)) :=
    .ofText (attributeLine_getLast? _ _) (by decide)
  have hattribute : ofText (attributeLine pair.1 pair.2) <:+: field.attributeLayout := by
    apply infix_flatMap
    rw [field.attributes_eq]
    exact List.mem_map_of_mem h
  have hpart : deeper (ofText (attributeLine pair.1 pair.2)) <:+: field.layout :=
    (hwhole.infix_deeper hattribute).trans (List.infix_append_of_infix_right (List.prefix_append _ _).isInfix)
  exact hwhole.deeper.infix_sink hpart 3

end ModelField

def fieldsLayout (fields : List ModelField) : Layout :=
  blockLayout (fields.flatMap ModelField.layout)

theorem sound_flatMap_layout (fields : List ModelField) : Sound (fields.flatMap ModelField.layout) :=
  .flatMap fun field _ => ⟨field.sound_layout, field.layout_ne_nil⟩

theorem text_fieldsLayout (width : Nat) (fields : List ModelField) :
    text width (fieldsLayout fields) = renderFields (spaces width) fields := by
  rw [fieldsLayout, text_blockLayout width (sound_flatMap_layout fields),
    text_flatMap width fun field _ => field.layout_ne_nil]
  simp only [ModelField.text_layout]
  rfl

/-! ### The function -/

namespace Model

def argumentLayouts (model : Model) : List Layout :=
  [line 0 (quote model.tableName ++ ","), fieldsLayout model.fields]
    ++ (model.comment.map fun t => blockLayout (line 0 (attributeLine "comment" (quote t)))).toList

/-- The line that names the symbols of a model. -/
def symbolLine (model : Model) : Text :=
  "const \x7b " ++ List.intercalate ", " model.requiredSymbols ++ " \x7d = app.Sequelize;"

def bodyLayout (model : Model) : Layout :=
  List.flatten [
    ofText model.symbolLine,
    line 0 "const \x7b model \x7d = app;",
    line 0 "return model.define(",
    deeper model.argumentLayouts.flatten,
    line 0 ");"]

def codeLayout (model : Model) : Layout :=
  List.flatten [
    line 0 "/**",
    line 0 " * @param \x7b Egg.Application \x7d app egg app",
    line 0 " */",
    line 0 "module.exports = function(app) \x7b",
    deeper model.bodyLayout,
    line 0 "\x7d;"]

theorem argumentLayouts_ne_nil : ∀ layout ∈ model.argumentLayouts, layout ≠ [] := by
  intro layout hlayout
  rw [argumentLayouts, List.mem_append] at hlayout
  rcases hlayout with hlayout | hlayout
  · rcases List.mem_cons.1 hlayout with rfl | hlayout
    · exact line_ne_nil _ _
    · rw [List.mem_singleton.1 hlayout]
      exact blockLayout_ne_nil _
  · obtain ⟨comment, -, rfl⟩ := Option.map_eq_some_iff.1 (Option.mem_toList.1 hlayout)
    exact blockLayout_ne_nil _

theorem sound_comment (comment : Text) : Sound (line 0 (attributeLine "comment" (quote comment))) := by
  refine .line (unbroken_comment comment).2 ?_
  exact List.append_ne_nil_of_right_ne_nil _ (List.cons_ne_nil _ _)

theorem sound_arguments (model : Model) : Sound model.argumentLayouts.flatten := by
  have hname : Sound (line 0 (quote model.tableName ++ ",")) := by
    have hline : Text.Unbroken (quote model.tableName ++ ",") := (Unbroken.quote _).append (by decide)
    exact .line hline.2 (List.append_ne_nil_of_right_ne_nil _ (List.cons_ne_nil _ _))
  have hfields : Sound (fieldsLayout model.fields) := sound_blockLayout (sound_flatMap_layout _).hlines
  refine .flatten fun layout hlayout => ⟨?_, argumentLayouts_ne_nil layout hlayout⟩
  rw [argumentLayouts, List.mem_append] at hlayout
  rcases hlayout with hlayout | hlayout
  · rcases List.mem_cons.1 hlayout with rfl | hlayout
    · exact hname
    · rw [List.mem_singleton.1 hlayout]
      exact hfields
  · obtain ⟨comment, -, rfl⟩ := Option.map_eq_some_iff.1 (Option.mem_toList.1 hlayout)
    exact sound_blockLayout (sound_comment comment).hlines

theorem arguments_ne_nil (model : Model) : model.argumentLayouts.flatten ≠ [] :=
  List.append_ne_nil_of_left_ne_nil (line_ne_nil _ _) _

theorem text_arguments (width : Nat) (model : Model) :
    text width model.argumentLayouts.flatten = joinLines (model.arguments (spaces width)) := by
  have hname : (quote model.tableName ++ ",").isEmpty = false :=
    List.isEmpty_eq_false_iff.2 (List.append_ne_nil_of_right_ne_nil _ (List.cons_ne_nil _ _))
  have hfields : (renderFields (spaces width) model.fields).isEmpty = false := rfl
  rw [text_flatten width argumentLayouts_ne_nil, argumentLayouts, arguments, renderOptions]
  cases model.comment with
  | none =>
    simp only [List.filter_cons, hname, hfields, Bool.not_false, if_true, Option.map_none,
      Option.toList_none, List.append_nil, List.map_cons, List.map_nil, text_line, text_fieldsLayout]
    rfl
  | some comment =>
    have hoptions : (block (spaces width) (attributeLine "comment" (quote comment))).isEmpty = false :=
      rfl
    simp only [List.filter_cons, hname, hfields, hoptions, Bool.not_false, if_true, Option.map_some,
      Option.toList_some, List.cons_append, List.nil_append, List.map_cons, List.map_nil,
      List.filter_nil, text_line, text_fieldsLayout, text_blockLayout width (sound_comment comment)]

theorem text_bodyLayout (width : Nat) (model : Model) :
    text width model.bodyLayout = model.body (spaces width) := by
  rw [bodyLayout, text_flatten]
  · simp only [List.map_cons, List.map_nil, text_ofText, text_line,
      text_deeper width model.sound_arguments, text_arguments]
    rfl
  · intro block hblock
    simp only [List.mem_cons, List.not_mem_nil, or_false] at hblock
    rcases hblock with rfl | rfl | rfl | rfl | rfl
    · exact ofText_ne_nil _
    · exact line_ne_nil _ _
    · exact line_ne_nil _ _
    · exact deeper_ne_nil _
    · exact line_ne_nil _ _

theorem sound_bodyLayout (model : Model) : Sound model.bodyLayout := by
  apply Sound.flatten
  intro block hblock
  simp only [List.mem_cons, List.not_mem_nil, or_false] at hblock
  rcases hblock with rfl | rfl | rfl | rfl | rfl
  · refine ⟨.ofText (c := ';') ?_ (by decide), ofText_ne_nil _⟩
    exact List.getLast?_append_of_ne_nil _ (List.cons_ne_nil ' ' "\x7d = app.Sequelize;".toList)
  · exact ⟨.line (by decide) (by decide), line_ne_nil _ _⟩
  · exact ⟨.line (by decide) (by decide), line_ne_nil _ _⟩
  · exact ⟨model.sound_arguments.deeper model.arguments_ne_nil, deeper_ne_nil _⟩
  · exact ⟨.line (by decide) (by decide), line_ne_nil _ _⟩

theorem text_codeLayout (width : Nat) (model : Model) :
    text width model.codeLayout = joinLines [
      "/**",
      " * @param \x7b Egg.Application \x7d app egg app",
      " */",
      "module.exports = function(app) \x7b",
      indent (spaces width) (model.body (spaces width)),
      "\x7d;"] := by
  rw [codeLayout, text_flatten]
  · simp only [List.map_cons, List.map_nil, text_line, text_deeper width model.sound_bodyLayout,
      text_bodyLayout]
  · intro block hblock
    simp only [List.mem_cons, List.not_mem_nil, or_false] at hblock
    rcases hblock with rfl | rfl | rfl | rfl | rfl | rfl
    · exact line_ne_nil _ _
    · exact line_ne_nil _ _
    · exact line_ne_nil _ _
    · exact line_ne_nil _ _
    · exact deeper_ne_nil _
    · exact line_ne_nil _ _

/-- The script of a model at any width: its layout, and the comment that describes the type. -/
theorem render_eq (width : Nat) (model : Model) :
    model.render (spaces width) =
      text width model.codeLayout ++ '\n' :: joinLines ["", model.typedef, ""] := by
  rw [text_codeLayout, ← joinLines_append (List.cons_ne_nil _ _) (List.cons_ne_nil _ _)]
  rfl

/-! ### Lines of the script -/

theorem codeLayout_ne_nil (model : Model) : model.codeLayout ≠ [] :=
  List.append_ne_nil_of_left_ne_nil (line_ne_nil _ _) _

theorem not_mem_codeLayout (model : Model) : ∀ line ∈ model.codeLayout, '\n' ∉ line.2 := by
  have hbody := not_mem_deeper model.sound_bodyLayout.hlines
  simp only [codeLayout, List.flatten_cons, List.flatten_nil, List.append_nil, List.forall_mem_append]
  refine ⟨?_, ?_, ?_, ?_, hbody, ?_⟩ <;> exact List.forall_mem_singleton.2 (by decide)

theorem codeLayout_prefix (width : Nat) (model : Model) :
    model.codeLayout.map (pad width) <+: (model.render (spaces width)).splitOn '\n' := by
  rw [render_eq, splitOn_text_append width model.not_mem_codeLayout model.codeLayout_ne_nil]
  exact List.prefix_append _ _

theorem sink_infix_of_arguments {part : Layout} (h : Whole part)
    (hpart : part <:+: model.argumentLayouts.flatten) : sink 2 part <:+: model.codeLayout := by
  have hbody : deeper part <:+: model.bodyLayout :=
    (h.infix_deeper hpart).trans (List.infix_of_mem_flatten (by simp))
  exact (h.deeper.infix_deeper hbody).trans (List.infix_of_mem_flatten (by simp))

theorem deeper_infix_blockLayout (inner : Layout) : deeper inner <:+: blockLayout inner :=
  List.infix_append_of_infix_right (List.prefix_append _ _).isInfix

theorem sink_field (hfield : field ∈ model.fields) : sink 3 field.layout <:+: model.codeLayout := by
  have hwhole := field.whole_layout
  have hfields : deeper field.layout <:+: fieldsLayout model.fields :=
    (hwhole.infix_deeper (infix_flatMap hfield _)).trans (deeper_infix_blockLayout _)
  have hmem : fieldsLayout model.fields ∈ model.argumentLayouts :=
    List.mem_append_left _ (List.mem_cons_of_mem _ List.mem_cons_self)
  exact sink_infix_of_arguments hwhole.deeper (hfields.trans (List.infix_of_mem_flatten hmem))

theorem sink_attribute {pair : Text × Text} (hfield : field ∈ model.fields) (hpair : pair ∈ field.pairs) :
    sink 4 (ofText (attributeLine pair.1 pair.2)) <:+: model.codeLayout :=
  (ModelField.sink_attribute_infix hpair).trans (sink_field hfield)

end Model

namespace Options

variable {options : Options} {file : ModelFile}

theorem codeLayout_prefix_of_render (h : options.render model = .ok file) :
    model.codeLayout.map (pad options.indentWidth) <+: file.content.splitOn '\n' := by
  rw [content_of_render h]
  exact model.codeLayout_prefix options.indentWidth

/-- The lines of an attribute stand in the file of its model. -/
theorem attribute_infix_of_render (h : options.render model = .ok file) (hfield : field ∈ model.fields)
    {name value : Text} (hpair : (name, value) ∈ field.pairs) :
    (sink 4 (ofText (attributeLine name value))).map (pad options.indentWidth) <:+: file.content.splitOn '\n' :=
  ((Model.sink_attribute hfield hpair).map _).trans (codeLayout_prefix_of_render h).isInfix

end Options

end TableModel
