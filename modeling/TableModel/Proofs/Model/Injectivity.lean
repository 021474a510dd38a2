import TableModel.Proofs.Model.Recovery
import TableModel.Proofs.Schema.Numbers

/-!
# Scripts tell models apart

The lines of a whole script, from the comment before the function to the comment that describes the type.
Fixed lines stand in the same places in all scripts, the block of the fields ends where no field starts,
and the options are there only if there is a comment. So every string of a model without breaks is read
off its script, and two models with the same script are alike. Where the models come from documents, their
defaults are then the same values too.
-/

namespace TableModel

open Text Layout

variable {left right : Model} {width : Nat}

/-- Two models that a script shows alike. -/
structure Model.Alike (left right : Model) : Prop where
  htableName : left.tableName = right.tableName
  hcomment : left.comment = right.comment
  hfields : List.Forall₂ ModelField.Alike left.fields right.fields

theorem ModelField.not_mem_property {c : Char} (hc : c = '\r' ∨ c = '\n') {field : ModelField} (hname : c ∉ field.name)
    (hcomment : ∀ comment ∈ field.comment, c ∉ comment) : c ∉ field.property := by
  have hopening : Text.Unbroken " * @property \x7b " := by decide
  have htype : field.scriptType.name.Unbroken := by
    cases field.scriptType <;> decide
  have hclosing : Text.Unbroken " \x7d " := by decide
  have hspace : Text.Unbroken " " := by decide
  have helim : c ∉ field.comment.elim [] (' ' :: ·) := by
    cases hsome : field.comment with
    | none => exact List.not_mem_nil
    | some comment => exact List.not_mem_append (hspace.not_mem hc) (hcomment comment hsome)
  have hfront := ((hopening.append htype).append hclosing).not_mem hc
  exact List.not_mem_append (List.not_mem_append hfront hname) helim

namespace Model

/-! ### The lines of a script -/

def typedefLines (model : Model) : List Text :=
  "/**" :: model.typeHeader :: (model.fields.map (·.property) ++ [" */".toList])

def optionRows (width : Nat) : Option Text → List Text
  | some comment => [pad width (2, "\x7b"), pad width (3, attributeLine "comment" (quote comment)),
      pad width (2, "\x7d,")]
  | none => []

def closingRows (width : Nat) (model : Model) : List Text :=
  pad width (1, ");") :: pad width (0, "\x7d;") :: [] :: (model.typedefLines ++ [[]])

def callRows (width : Nat) (model : Model) : List Text :=
  pad width (2, quote model.tableName ++ ",") :: pad width (2, "\x7b") ::
    (ModelField.rows width 3 model.fields ++ pad width (2, "\x7d,") ::
      (optionRows width model.comment ++ model.closingRows width))

def scriptLines (width : Nat) (model : Model) : List Text :=
  pad width (0, "/**") :: pad width (0, " * @param \x7b Egg.Application \x7d app egg app") ::
    pad width (0, " */") :: pad width (0, "module.exports = function(app) \x7b") ::
    pad width (1, model.symbolLine) :: pad width (1, "const \x7b model \x7d = app;") ::
    pad width (1, "return model.define(") :: model.callRows width

theorem map_printedOptions (model : Model) :
    (model.printedOptions 2).map (pad width) = optionRows width model.comment := by
  rw [printedOptions]
  cases model.comment <;> rfl

theorem map_printedFields {fields : List ModelField} (hne : fields ≠ []) (depth : Nat) :
    (printedFields depth fields).map (pad width) = ModelField.rows width (depth + 1) fields := by
  obtain ⟨field, rest, rfl⟩ := List.exists_cons_of_ne_nil hne
  rfl

theorem map_printed (hne : left.fields ≠ []) :
    left.printed.map (pad width) ++ [] :: (left.typedefLines ++ [[]]) = left.scriptLines width := by
  rw [scriptLines, callRows, closingRows, ← map_printedOptions, ← map_printedFields hne 2]
  simp only [printed, printedBody, printedArguments, printedBlock, line, List.map_append, List.map_cons,
    List.map_nil, List.append_assoc, List.cons_append, List.nil_append]

theorem joinLines_typedefLines (model : Model) :
    joinLines [[], model.typedef, []] = joinLines ([] :: (model.typedefLines ++ [[]])) := by
  have hblocks : ∀ block ∈ [[([] : Text)], model.typedefLines, [[]]], block ≠ [] := by
    intro block hblock
    simp only [List.mem_cons, List.not_mem_nil, or_false] at hblock
    rcases hblock with rfl | rfl | rfl <;> exact List.cons_ne_nil _ _
  exact joinLines_map_joinLines hblocks

theorem Unbroken.render (h : left.Unbroken) (ha : left.Assembled) (width : Nat) :
    left.render (spaces width) = joinLines (left.scriptLines width) := by
  have hprinted : left.printed.map (pad width) ≠ [] := List.cons_ne_nil _ _
  have hjoined : joinLines ["".toList, left.typedef, "".toList] =
      joinLines ([] :: (left.typedefLines ++ [[]])) := joinLines_typedefLines left
  rw [render_eq, (h.plain ha).codeLayout, text, hjoined, ← joinLines_append hprinted (List.cons_ne_nil _ _),
    map_printed ha.hfields]

/-- A property of all strings of a model that stand in the comment that describes its type. -/
def Described (holds : Text → Prop) (model : Model) : Prop :=
  holds model.tableName.toUppercase ∧
    ∀ field ∈ model.fields, holds field.name ∧ ∀ comment ∈ field.comment, holds comment

theorem Described.mono {holds more : Text → Prop} (hmore : ∀ t, holds t → more t) (h : left.Described holds) :
    left.Described more := by
  refine ⟨hmore _ h.1, fun field hfield => ?_⟩
  obtain ⟨hname, hcomment⟩ := h.2 field hfield
  exact ⟨hmore _ hname, fun comment hsome => hmore _ (hcomment comment hsome)⟩

/-- A break comes into the lines of the comment only with one of the strings. -/
theorem not_mem_typedefLines {c : Char} (hc : c = '\r' ∨ c = '\n') (h : left.Described (c ∉ ·)) :
    ∀ line ∈ left.typedefLines, c ∉ line := by
  have hopening : Text.Unbroken " * @typedef \x7b Object \x7d " := by decide
  have hsuffix : typeSuffix.Unbroken := by decide
  have hstart : Text.Unbroken "/**" := by decide
  have hend : Text.Unbroken " */" := by decide
  obtain ⟨hname, hfields⟩ := h
  intro line hline
  rw [Model.typedefLines] at hline
  simp only [List.mem_cons, List.mem_append, List.mem_map, List.not_mem_nil, or_false] at hline
  rcases hline with rfl | rfl | ⟨field, hfield, rfl⟩ | rfl
  · exact hstart.not_mem hc
  · exact List.not_mem_append (List.not_mem_append (hopening.not_mem hc) hname) (hsuffix.not_mem hc)
  · obtain ⟨hfieldName, hcomment⟩ := hfields field hfield
    exact ModelField.not_mem_property hc hfieldName hcomment
  · exact hend.not_mem hc

theorem Unbroken.described (h : left.Unbroken) : left.Described Text.Unbroken :=
  ⟨h.htableName.toUppercase, fun field hfield => ⟨(h.hfields field hfield).hname, (h.hfields field hfield).hcomment⟩⟩

theorem Unbroken.typedefLines (h : left.Unbroken) : ∀ line ∈ left.typedefLines, line.Unbroken := by
  intro line hline
  refine ⟨?_, ?_⟩
  · exact not_mem_typedefLines (.inl rfl) (h.described.mono fun t ht => ht.1) line hline
  · exact not_mem_typedefLines (.inr rfl) (h.described.mono fun t ht => ht.2) line hline

theorem Unbroken.scriptLines (h : left.Unbroken) (ha : left.Assembled) (width : Nat) :
    ∀ line ∈ left.scriptLines width, '\n' ∉ line := by
  intro line hline
  rw [← map_printed ha.hfields, List.mem_append, List.mem_cons, List.mem_append] at hline
  rcases hline with hline | rfl | hline | hline
  · exact not_mem_pad width (fun printed hprinted => ((h.plain ha).printed printed hprinted).2) line hline
  · exact List.not_mem_nil
  · exact (h.typedefLines line hline).2
  · rw [List.mem_singleton.1 hline]
    exact List.not_mem_nil

/-- The script determines its lines. -/
theorem scriptLines_of_render (hl : left.Unbroken) (hr : right.Unbroken) (hla : left.Assembled)
    (hra : right.Assembled) (h : left.render (spaces width) = right.render (spaces width)) :
    left.scriptLines width = right.scriptLines width := by
  rw [hl.render hla, hr.render hra] at h
  exact joinLines_inj (List.cons_ne_nil _ _) (List.cons_ne_nil _ _) (hl.scriptLines hla width)
    (hr.scriptLines hra width) h

/-! ### Reading the lines -/

/-- The options and what follows the line that closes the call can be told apart. -/
theorem optionRows_inj {comment other : Option Text} (hcomment : ∀ t ∈ comment, t.Unbroken)
    (hother : ∀ t ∈ other, t.Unbroken) {cs ds : List Text}
    (h : optionRows width comment ++ pad width (1, ");") :: cs =
      optionRows width other ++ pad width (1, ");") :: ds) : comment = other ∧ cs = ds := by
  have hopen : pad width (2, "\x7b") ≠ pad width (1, ");") :=
    pad_ne (c := '\x7b') (d := ';') rfl rfl (by decide)
  cases comment with
  | none =>
    cases other with
    | none => exact ⟨rfl, (List.cons.inj h).2⟩
    | some t => exact absurd (List.cons.inj h).1.symm hopen
  | some s =>
    cases other with
    | none => exact absurd (List.cons.inj h).1 hopen
    | some t =>
      obtain ⟨-, h⟩ := List.cons.inj h
      obtain ⟨hline, h⟩ := List.cons.inj h
      obtain ⟨-, h⟩ := List.cons.inj h
      have hname : "comment".toList ∈ attributeNames := by decide
      obtain ⟨-, hquote⟩ := attributeLine_inj hname hname (pad_inj hline)
      rw [quote_inj (hcomment s rfl) (hother t rfl) hquote]
      exact ⟨rfl, (List.cons.inj h).2⟩

theorem Alike.of_callRows (hl : left.Unbroken) (hr : right.Unbroken)
    (h : left.callRows width = right.callRows width) : left.Alike right := by
  obtain ⟨hname, h⟩ := List.cons.inj h
  obtain ⟨-, h⟩ := List.cons.inj h
  obtain ⟨hfields, h⟩ := ModelField.rows_inj h
  obtain ⟨hcomment, h⟩ := optionRows_inj hl.hcomment hr.hcomment h
  have htypedef : left.typedefLines ++ [[]] = right.typedefLines ++ [[]] :=
    (List.cons.inj (List.cons.inj h).2).2
  have hproperties : left.fields.map (·.property) = right.fields.map (·.property) :=
    List.append_cancel_right (List.cons.inj (List.cons.inj (List.append_cancel_right htypedef)).2).2
  exact {
    htableName := quote_inj hl.htableName hr.htableName (List.append_cancel_right (pad_inj hname))
    hcomment
    hfields := ModelField.Alike.forall₂ hl.hfields hr.hfields hfields hproperties }

theorem Alike.of_render (hl : left.Unbroken) (hr : right.Unbroken) (hla : left.Assembled)
    (hra : right.Assembled) (h : left.render (spaces width) = right.render (spaces width)) :
    left.Alike right := by
  have hrows : left.callRows width = right.callRows width :=
    congrArg (List.drop 7) (scriptLines_of_render hl hr hla hra h)
  exact .of_callRows hl hr hrows

end Model

/-- Nothing is lost when a model is written: assembled models without breaks in their strings are alike
if their files have the same content. -/
theorem Options.render_injective (options : Options) {statements others : List Statement}
    {models otherModels : List Model} (hmodels : options.assemble statements = .ok models)
    (hotherModels : options.assemble others = .ok otherModels) (hleft : left ∈ models)
    (hright : right ∈ otherModels) (hl : left.Unbroken) (hr : right.Unbroken) {file otherFile : ModelFile}
    (hfile : options.render left = .ok file) (hotherFile : options.render right = .ok otherFile)
    (h : file.content = otherFile.content) : left.Alike right := by
  rw [content_of_render hfile, content_of_render hotherFile] at h
  exact .of_render hl hr (assembleAll_assembled hmodels left hleft)
    (assembleAll_assembled hotherModels right hright) h

def pricedTable (params : List Literal) : Table :=
  { name := "offer"
    entries := [.column {
      name := "price"
      dataType := { name := "DECIMAL", params }
      defaultValue := some (.number (.integer 5))
      comment := some "with tax" }]
    options := [{ key := "COMMENT", value := some (.text "") }] }

def pricedModel (args : List Text) : Model :=
  { tableName := "offer"
    baseName := "offer"
    fields := [{
      name := "price"
      dataType := { symbol := "DECIMAL", args }
      defaultValue := some (.number (.integer 5))
      comment := some "with tax"
      scriptType := .number }]
    comment := some ""
    requiredSymbols := ["DECIMAL"] }

theorem pricedModel_unbroken {args : List Text} (hargs : ∀ arg ∈ args, arg.Unbroken) :
    (pricedModel args).Unbroken := by
  have hname : Text.Unbroken "price" := by decide
  have htable : Text.Unbroken "offer" := by decide
  have hcomment : Text.Unbroken "with tax" := by decide
  refine ⟨htable, ?_, ?_⟩
  · intro t ht
    rw [← Option.some.inj ht]
    decide
  · intro field hfield
    rw [List.mem_singleton.1 hfield]
    refine ⟨hname, hargs, ?_, ?_⟩
    · intro t ht
      cases ht
    · intro t ht
      rw [← Option.some.inj ht]
      exact hcomment

/-- Two parameters look like one that holds a comma. -/
theorem Options.render_injective_joinedParameters :
    assemble { inflect := .verbatim } [.createTable (pricedTable [.ofNat 10, .ofNat 2])] =
        .ok [pricedModel ["10", "2"]] ∧
      assemble { inflect := .verbatim } [.createTable (pricedTable [.text "10,2"])] =
        .ok [pricedModel ["10,2"]] ∧
      pricedModel ["10", "2"] ≠ pricedModel ["10,2"] ∧
      (pricedModel ["10", "2"]).Alike (pricedModel ["10,2"]) := by
  have hleft : assemble { inflect := .verbatim } [.createTable (pricedTable [.ofNat 10, .ofNat 2])] =
      .ok [pricedModel ["10", "2"]] := by
    decide +kernel
  have hright : assemble { inflect := .verbatim } [.createTable (pricedTable [.text "10,2"])] =
      .ok [pricedModel ["10,2"]] := by
    decide +kernel
  have hcontent : (pricedModel ["10", "2"]).render (spaces 4) =
      (pricedModel ["10,2"]).render (spaces 4) := by
    decide +kernel
  refine ⟨hleft, hright, by decide +kernel, ?_⟩
  exact render_injective _ hleft hright List.mem_cons_self List.mem_cons_self
    (pricedModel_unbroken (by decide)) (pricedModel_unbroken (by decide)) rfl rfl hcontent

/-! ### Models of a document -/

theorem Table.mem_entries_of_namedColumns {table : Table} {column : Column} (h : column ∈ table.namedColumns) :
    .column column ∈ table.entries := by
  obtain ⟨entry, hmem, hentry⟩ := List.mem_filterMap.1 h
  cases entry with
  | column c =>
    dsimp only at hentry
    split at hentry
    · cases hentry
    · cases hentry
      exact hmem
  | _ => cases hentry

theorem Table.canonicalDefault_of_field {table : Table} {column : Column} {field : ModelField}
    (hcolumn : column.Canonical) (h : table.field column = .ok field) : field.CanonicalDefault := by
  have hdefault : field.defaultValue = column.defaultValue := by
    rw [Table.field] at h
    split at h
    · cases h
    · cases h
      rfl
  intro n hn
  exact hcolumn.hdefault (.number n) (hdefault ▸ hn)

/-- The defaults in the models of a document are held as the format of numbers has them. -/
theorem Options.canonicalDefault_of_readStatements (options : Options) {s : Text} {statements : List Statement}
    (hread : readStatements s = .ok statements) {models : List Model}
    (hmodels : options.assemble statements = .ok models) {model : Model} (hmodel : model ∈ models)
    {field : ModelField} (hfield : field ∈ model.fields) : field.CanonicalDefault := by
  obtain ⟨table, htable, hmade⟩ := exists_table_of_assembleAll hmodels hmodel
  obtain ⟨fields, baseName, hfields, -, -, hmodel⟩ := Table.assemble_eq_some hmade
  rw [hmodel] at hfield
  obtain ⟨column, hcolumn, hfield⟩ := mem_of_mapM_eq_ok hfields hfield
  have hcanonical := (canonical_of_readStatements hread htable).hcolumns column
  exact Table.canonicalDefault_of_field (hcanonical (Table.mem_entries_of_namedColumns hcolumn)) hfield

theorem ModelField.Alike.defaults_eq {fields others : List ModelField} (h : List.Forall₂ ModelField.Alike fields others)
    (hl : ∀ field ∈ fields, field.CanonicalDefault) (hr : ∀ field ∈ others, field.CanonicalDefault) :
    fields.map (·.defaultValue) = others.map (·.defaultValue) := by
  induction h with
  | nil => rfl
  | cons hfirst _ ih =>
    obtain ⟨hleft, hl⟩ := List.forall_mem_cons.1 hl
    obtain ⟨hright, hr⟩ := List.forall_mem_cons.1 hr
    rw [List.map_cons, List.map_cons, hfirst.hdefault hleft hright, ih hl hr]

/-- Models of documents that a script shows alike have the same defaults, numbers included. -/
theorem Model.Alike.defaults_eq (h : left.Alike right) (options : Options) {s t : Text}
    {statements others : List Statement} (hread : readStatements s = .ok statements)
    (hotherRead : readStatements t = .ok others) {models otherModels : List Model}
    (hmodels : options.assemble statements = .ok models) (hotherModels : options.assemble others = .ok otherModels)
    (hleft : left ∈ models) (hright : right ∈ otherModels) :
    left.fields.map (·.defaultValue) = right.fields.map (·.defaultValue) := by
  refine ModelField.Alike.defaults_eq h.hfields ?_ ?_
  · exact fun field hfield => options.canonicalDefault_of_readStatements hread hmodels hleft hfield
  · exact fun field hfield => options.canonicalDefault_of_readStatements hotherRead hotherModels hright hfield

end TableModel
