import TableModel.Proofs.Model.Assembled
import TableModel.Proofs.Model.Layout
import TableModel.Proofs.Unicode.Uppercase

/-!
# Scripts printed in one pass

If no string of a model holds a break, then no line is taken apart when a block is indented, and the
script is the one that is printed line by line with the depth of each line known from the start.
-/

namespace TableModel

open Text Layout

variable {field : ModelField} {model : Model} {t : Text}

/-! ### Strings without breaks -/

structure ModelField.Unbroken (field : ModelField) : Prop where
  hname : field.name.Unbroken
  hargs : ∀ arg ∈ field.dataType.args, arg.Unbroken
  hdefault : ∀ t, field.defaultValue = some (.text t) → t.Unbroken
  hcomment : ∀ t ∈ field.comment, t.Unbroken

structure Model.Unbroken (model : Model) : Prop where
  htableName : model.tableName.Unbroken
  hcomment : ∀ t ∈ model.comment, t.Unbroken
  hfields : ∀ field ∈ model.fields, field.Unbroken

/-- No string of a model holds a break, be it taken from a table or not. -/
structure Model.Plain (model : Model) : Prop where
  hunbroken : model.Unbroken
  hfixed : ∀ field ∈ model.fields, field.dataType.Fixed
  hsymbols : ∀ symbol ∈ model.requiredSymbols, symbol.Unbroken

theorem Model.Assembled.symbols_unbroken (ha : model.Assembled) : ∀ symbol ∈ model.requiredSymbols, symbol.Unbroken := by
  intro symbol hsymbol
  rw [ha.hsymbols, List.mem_eraseDups] at hsymbol
  obtain ⟨field, hfield, rfl⟩ := List.mem_map.1 hsymbol
  exact (ha.hfixed field hfield).hsymbol

theorem Model.Unbroken.plain (h : model.Unbroken) (ha : model.Assembled) : model.Plain :=
  ⟨h, ha.hfixed, ha.symbols_unbroken⟩

theorem TypeExpression.Fixed.text_unbroken {e : TypeExpression} (h : e.Fixed)
    (hargs : ∀ arg ∈ e.args, arg.Unbroken) : e.text.Unbroken := by
  have hopen : Text.Unbroken "(" := by decide
  have hdot : Text.Unbroken "." := by decide
  have hparentheses : (TypeExpression.argsText e.args).Unbroken := by
    rw [TypeExpression.argsText]
    split
    · exact .nil
    · exact (hopen.append (.intercalate (by decide) hargs)).append (by decide)
  have hmodifiers : Text.Unbroken (e.modifiers.flatMap ('.' :: ·)) :=
    .flatMap fun modifier hmodifier => hdot.append (h.hmodifiers modifier hmodifier)
  exact (h.hsymbol.append hparentheses).append hmodifiers

theorem Text.Unbroken.toUppercase (h : t.Unbroken) : t.toUppercase.Unbroken :=
  ⟨mt (mem_toUppercase (by decide)).1 h.1, mt (mem_toUppercase (by decide)).1 h.2⟩

theorem Number.text_unbroken (n : Number) : n.text.Unbroken :=
  ⟨n.not_mem_text (by decide), n.not_mem_text (by decide)⟩

theorem ModelField.Unbroken.defaultText (h : field.Unbroken) : ∀ t ∈ field.defaultText, t.Unbroken := by
  intro t ht
  obtain ⟨literal, hliteral, rfl⟩ := Option.map_eq_some_iff.1 ht
  cases literal with
  | number n => exact n.text_unbroken
  | text t => exact Text.unbroken_inQuotes_iff.2 (h.hdefault t hliteral)

def attributeNames : List Text :=
  ["type", "primaryKey", "autoIncrement", "allowNull", "defaultValue", "comment"]

theorem ModelField.mem_pairs {pair : Text × Text} (h : pair ∈ field.pairs) :
    pair.1 ∈ attributeNames ∧
      (pair.2 = field.dataType.text ∨ pair.2 = "true" ∨ pair.2 = "false" ∨
        pair.2 ∈ field.defaultText ∨ ∃ t ∈ field.comment, pair.2 = quote t) := by
  rw [ModelField.pairs] at h
  simp only [List.mem_cons, List.mem_append, Option.mem_toList] at h
  rcases h with rfl | (((h | h) | h) | h) | h
  · exact ⟨show "type".toList ∈ attributeNames by decide, .inl rfl⟩
  · split at h
    · rw [List.mem_singleton.1 h]
      exact ⟨by decide, .inr (.inl rfl)⟩
    · exact absurd h List.not_mem_nil
  · split at h
    · rw [List.mem_singleton.1 h]
      exact ⟨by decide, .inr (.inl rfl)⟩
    · exact absurd h List.not_mem_nil
  · split at h
    · exact absurd h List.not_mem_nil
    · rw [List.mem_singleton.1 h]
      exact ⟨by decide, .inr (.inr (.inl rfl))⟩
  · obtain ⟨t, ht, rfl⟩ := Option.map_eq_some_iff.1 h
    exact ⟨show "defaultValue".toList ∈ attributeNames by decide, .inr (.inr (.inr (.inl ht)))⟩
  · obtain ⟨t, ht, rfl⟩ := Option.map_eq_some_iff.1 h
    exact ⟨show "comment".toList ∈ attributeNames by decide,
      .inr (.inr (.inr (.inr ⟨t, ht, rfl⟩)))⟩

theorem ModelField.Unbroken.attributes (h : field.Unbroken) (hfixed : field.dataType.Fixed) :
    ∀ t ∈ field.attributes, t.Unbroken := by
  have hnames : ∀ name ∈ attributeNames, name.Unbroken := by decide
  intro t ht
  rw [attributes_eq] at ht
  obtain ⟨pair, hpair, rfl⟩ := List.mem_map.1 ht
  obtain ⟨hname, hvalue⟩ := mem_pairs hpair
  refine unbroken_attributeLine (hnames _ hname) ?_
  rcases hvalue with hvalue | hvalue | hvalue | hvalue | ⟨comment, -, hvalue⟩
  · rw [hvalue]
    exact hfixed.text_unbroken h.hargs
  · rw [hvalue]
    decide
  · rw [hvalue]
    decide
  · exact h.defaultText _ hvalue
  · rw [hvalue]
    exact .quote comment

/-! ### The layout line by line -/

/-- A block whose braces stand at a depth. -/
def printedBlock (depth : Nat) (inner : Layout) : Layout :=
  line depth "\x7b" ++ (inner ++ line depth "\x7d,")

def ModelField.printed (depth : Nat) (field : ModelField) : Layout :=
  line depth (field.name ++ ": \x7b") ++
    (field.attributes.map (fun t => (depth + 1, t)) ++ line depth "\x7d,")

/-- The lines of fields in a block at a depth. Without any field there is an empty line, no deeper than the block. -/
def printedFields (depth : Nat) : List ModelField → Layout
  | [] => line depth []
  | field :: fields => (field :: fields).flatMap (ModelField.printed (depth + 1))

namespace Model

def printedOptions (depth : Nat) (model : Model) : Layout :=
  match model.comment with
  | some comment => printedBlock depth (line (depth + 1) (attributeLine "comment" (quote comment)))
  | none => []

def printedArguments (depth : Nat) (model : Model) : Layout :=
  line depth (quote model.tableName ++ ",") ++
    (printedBlock depth (printedFields depth model.fields) ++ model.printedOptions depth)

def printedBody (depth : Nat) (model : Model) : Layout :=
  line depth model.symbolLine ++ (line depth "const \x7b model \x7d = app;" ++
    (line depth "return model.define(" ++ (model.printedArguments (depth + 1) ++ line depth ");")))

def printed (model : Model) : Layout :=
  line 0 "/**" ++ (line 0 " * @param \x7b Egg.Application \x7d app egg app" ++ (line 0 " */" ++
    (line 0 "module.exports = function(app) \x7b" ++ (model.printedBody 1 ++ line 0 "\x7d;"))))

end Model

theorem shift_line (depth : Nat) (t : Text) : shift (line depth t) = line (depth + 1) t :=
  rfl

theorem shift_printedBlock (depth : Nat) (inner : Layout) :
    shift (printedBlock depth inner) = printedBlock (depth + 1) (shift inner) := by
  rw [printedBlock, printedBlock, shift_append, shift_append, shift_line, shift_line]

theorem ModelField.shift_printed (depth : Nat) (field : ModelField) :
    shift (field.printed depth) = field.printed (depth + 1) := by
  rw [printed, printed, shift_append, shift_append, shift_line, shift_line, shift, List.map_map]
  rfl

theorem shift_flatMap_printed (depth : Nat) (fields : List ModelField) :
    shift (fields.flatMap (ModelField.printed depth)) =
      fields.flatMap (ModelField.printed (depth + 1)) := by
  rw [shift_flatMap]
  simp only [ModelField.shift_printed]

theorem shift_printedFields (depth : Nat) (fields : List ModelField) :
    shift (printedFields depth fields) = printedFields (depth + 1) fields := by
  cases fields with
  | nil => rfl
  | cons field fields => exact shift_flatMap_printed (depth + 1) (field :: fields)

namespace Model

theorem shift_printedOptions (depth : Nat) (model : Model) :
    shift (model.printedOptions depth) = model.printedOptions (depth + 1) := by
  rw [printedOptions, printedOptions]
  cases model.comment with
  | none => rfl
  | some comment =>
    dsimp only
    rw [shift_printedBlock, shift_line]

theorem shift_printedArguments (depth : Nat) (model : Model) :
    shift (model.printedArguments depth) = model.printedArguments (depth + 1) := by
  rw [printedArguments, printedArguments, shift_append, shift_append, shift_line, shift_printedBlock,
    shift_printedFields, shift_printedOptions]

theorem shift_printedBody (depth : Nat) (model : Model) :
    shift (model.printedBody depth) = model.printedBody (depth + 1) := by
  rw [printedBody, printedBody]
  simp only [shift_append, shift_line, shift_printedArguments]

end Model

/-! ### No line holds a break -/

theorem unbroken_printedBlock {depth : Nat} {inner : Layout} (h : inner.Unbroken) :
    (printedBlock depth inner).Unbroken :=
  (Unbroken.line (by decide)).append (h.append (.line (by decide)))

theorem ModelField.Unbroken.printed (h : field.Unbroken) (hfixed : field.dataType.Fixed) (depth : Nat) :
    (field.printed depth).Unbroken :=
  (Unbroken.line (h.hname.append (by decide))).append
    ((Unbroken.map (h.attributes hfixed) (depth + 1)).append (.line (by decide)))

namespace Model

theorem Plain.fields (h : model.Plain) (depth : Nat) :
    Layout.Unbroken (model.fields.flatMap (ModelField.printed depth)) :=
  .flatMap fun field hfield => (h.hunbroken.hfields field hfield).printed (h.hfixed field hfield) depth

theorem Plain.printedFields_unbroken (h : model.Plain) (depth : Nat) : (printedFields depth model.fields).Unbroken := by
  have hfields := h.fields (depth + 1)
  cases hmodel : model.fields with
  | nil => exact .line .nil
  | cons field fields =>
    rw [hmodel] at hfields
    exact hfields

theorem printedOptions_unbroken (depth : Nat) (model : Model) :
    (model.printedOptions depth).Unbroken := by
  rw [printedOptions]
  split
  · exact unbroken_printedBlock (.line (unbroken_comment _))
  · exact fun _ hline => absurd hline List.not_mem_nil

theorem symbolLine_unbroken (h : ∀ symbol ∈ model.requiredSymbols, symbol.Unbroken) : model.symbolLine.Unbroken := by
  have hopen : Text.Unbroken "const \x7b " := by decide
  exact (hopen.append (.intercalate (by decide) h)).append (by decide)

theorem Assembled.symbolLine (ha : model.Assembled) : model.symbolLine.Unbroken :=
  symbolLine_unbroken ha.symbols_unbroken

theorem Plain.arguments (h : model.Plain) (depth : Nat) : (model.printedArguments depth).Unbroken :=
  (Unbroken.line ((Text.Unbroken.quote _).append (by decide))).append
    ((unbroken_printedBlock (h.printedFields_unbroken depth)).append (model.printedOptions_unbroken depth))

theorem Plain.body (h : model.Plain) (depth : Nat) : (model.printedBody depth).Unbroken := by
  have hfixed {t : Text} (ht : t.Unbroken) : (line depth t).Unbroken := .line ht
  exact (hfixed (symbolLine_unbroken h.hsymbols)).append ((hfixed (by decide)).append ((hfixed (by decide)).append
    ((h.arguments (depth + 1)).append (hfixed (by decide)))))

theorem Plain.printed (h : model.Plain) : model.printed.Unbroken := by
  have hfixed {t : Text} (ht : t.Unbroken) : (line 0 t).Unbroken := .line ht
  exact (hfixed (by decide)).append ((hfixed (by decide)).append ((hfixed (by decide)).append
    ((hfixed (by decide)).append ((h.body 1).append (hfixed (by decide))))))

end Model

/-! ### One pass is enough -/

theorem blockLayout_of_unbroken {inner : Layout} (h : inner.Unbroken) (hne : inner ≠ []) :
    blockLayout inner = printedBlock 0 (shift inner) := by
  rw [blockLayout, deeper_of_unbroken h hne]
  rfl

theorem ModelField.attributes_ne_nil (field : ModelField) : field.attributes ≠ [] := by
  rw [attributes_eq]
  exact List.cons_ne_nil _ _

theorem ModelField.Unbroken.layout (h : field.Unbroken) (hfixed : field.dataType.Fixed) :
    field.layout = field.printed 0 := by
  have hattributes := h.attributes hfixed
  have hne : field.attributes.map (fun t => ((0 : Nat), t)) ≠ [] :=
    mt List.map_eq_nil_iff.1 field.attributes_ne_nil
  rw [ModelField.layout, attributeLayout, flatMap_ofText hattributes,
    deeper_of_unbroken (.map hattributes 0) hne, ofText_of_unbroken (h.hname.append (by decide)), shift,
    List.map_map]
  rfl

namespace Model

theorem Plain.fieldsLayout (h : model.Plain) :
    fieldsLayout model.fields = printedBlock 0 (printedFields 0 model.fields) := by
  have hlayouts : model.fields.flatMap ModelField.layout = model.fields.flatMap (ModelField.printed 0) := by
    apply List.flatMap_congr
    intro field hfield
    exact (h.hunbroken.hfields field hfield).layout (h.hfixed field hfield)
  have hunbroken := h.fields 0
  rw [TableModel.fieldsLayout, hlayouts]
  cases hmodel : model.fields with
  | nil => rfl
  | cons field fields =>
    have hne : (field :: fields).flatMap (ModelField.printed 0) ≠ [] := by
      rw [List.flatMap_cons]
      exact List.append_ne_nil_of_left_ne_nil (List.append_ne_nil_of_left_ne_nil (line_ne_nil _ _) _) _
    rw [hmodel] at hunbroken
    rw [blockLayout_of_unbroken hunbroken hne, shift_flatMap_printed]
    rfl

theorem Plain.arguments_flatten (h : model.Plain) : model.argumentLayouts.flatten = model.printedArguments 0 := by
  rw [argumentLayouts, h.fieldsLayout, printedArguments, printedOptions]
  cases model.comment with
  | none => rfl
  | some comment =>
    dsimp only
    rw [← shift_line, ← blockLayout_of_unbroken (.line (unbroken_comment comment)) (line_ne_nil _ _)]
    simp only [Option.map_some, Option.toList_some, List.cons_append, List.nil_append,
      List.flatten_cons, List.flatten_nil, List.append_nil]

theorem Plain.bodyLayout (h : model.Plain) : model.bodyLayout = model.printedBody 0 := by
  have hne : model.printedArguments 0 ≠ [] := List.append_ne_nil_of_left_ne_nil (line_ne_nil _ _) _
  rw [Model.bodyLayout, h.arguments_flatten, deeper_of_unbroken (h.arguments 0) hne, shift_printedArguments,
    ofText_of_unbroken (symbolLine_unbroken h.hsymbols), printedBody]
  simp only [List.flatten_cons, List.flatten_nil, List.append_nil]

/-- Without breaks in its strings a model is printed line by line. -/
theorem Plain.codeLayout (h : model.Plain) : model.codeLayout = model.printed := by
  have hne : model.printedBody 0 ≠ [] := List.append_ne_nil_of_left_ne_nil (line_ne_nil _ _) _
  rw [Model.codeLayout, h.bodyLayout, deeper_of_unbroken (h.body 0) hne, shift_printedBody, Model.printed]
  simp only [List.flatten_cons, List.flatten_nil, List.append_nil]

end Model

end TableModel
