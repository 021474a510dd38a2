import Mathlib.Data.List.Infix
import TableModel.Json.Print
import TableModel.Proofs.Model.SinglePass

/-!
# The symbols that a script takes in

A script takes the symbols of its type expressions from a library before it uses them. The symbol of an expression is a
word that the keyword of the type alone decides, and behind it there is nothing, or a bracket, or a dot: so it is the
front of the text of the expression up to the first of these, whatever the arguments are. The line that takes the
symbols in lists those words, each where it is used first.
-/

namespace TableModel

open Text Layout

variable {e : TypeExpression} {model : Model}

/-! ### The symbol of an expression -/

/-- The symbol of the expressions for a type. There is none for a set. -/
def SqlType.symbol : SqlType → Text
  | .tinyInt => "TINYINT"
  | .smallInt | .year => "SMALLINT"
  | .mediumInt => "MEDIUMINT"
  | .int => "INTEGER"
  | .bigInt => "BIGINT"
  | .decimal => "DECIMAL"
  | .float => "FLOAT"
  | .double => "DOUBLE"
  | .bit => "BIT"
  | .date => "DATEONLY"
  | .dateTime | .timestamp => "DATE"
  | .time => "TIME"
  | .char | .binary => "CHAR"
  | .varChar | .varBinary => "STRING"
  | .tinyBlob | .blob | .mediumBlob | .longBlob => "BLOB"
  | .tinyText | .text | .mediumText | .longText => "TEXT"
  | .json => "JSON"
  | .enum => "ENUM"
  | .set => ""
  | .geometry | .point | .lineString | .polygon | .multiPoint | .multiLineString | .multiPolygon
  | .geometryCollection => "GEOMETRY"

theorem TypeExpression.symbol_withModifierIf (e : TypeExpression) (condition : Bool) (modifier : Text) :
    (e.withModifierIf condition modifier).symbol = e.symbol := by
  cases condition <;> rfl

theorem ColumnType.symbol_of_expressionFor {c : ColumnType} {t : SqlType} (h : c.expressionFor t = .ok e) :
    e.symbol = t.symbol := by
  cases t with
  | tinyInt | smallInt | mediumInt | int | bigInt =>
    cases h
    rw [ColumnType.integer, TypeExpression.symbol_withModifierIf, TypeExpression.symbol_withModifierIf]
    rfl
  | enum =>
    rw [ColumnType.expressionFor] at h
    split at h
    · cases h
    · cases h
      rfl
  | set => cases h
  | _ =>
    cases h
    rfl

def Text.Word (t : Text) : Prop :=
  t ≠ [] ∧ t.all Char.isUpper

instance (t : Text) : Decidable (Text.Word t) :=
  inferInstanceAs (Decidable (_ ∧ _))

theorem SqlType.symbol_word {t : SqlType} (h : t ≠ .set) : t.symbol.Word := by
  cases t with
  | set => exact absurd rfl h
  | _ => decide

theorem ColumnType.symbol_word {c : ColumnType} (h : c.expression = .ok e) : e.symbol.Word := by
  rw [ColumnType.expression] at h
  split at h
  · cases h
  · split at h
    · rename_i t _
      have hset : t ≠ .set := by
        rintro rfl
        cases h
      rw [symbol_of_expressionFor h]
      exact SqlType.symbol_word hset
    · cases h

theorem Text.Word.not_mem {t : Text} (h : t.Word) {c : Char} (hc : c.isUpper = false) : c ∉ t := by
  intro hmem
  rw [List.all_eq_true.1 h.2 c hmem] at hc
  cases hc

/-- The front of the text of an expression, up to its first bracket or dot. -/
def leadingIdentifier (t : Text) : Text :=
  t.takeWhile fun c => c ≠ '(' && c ≠ '.'

/-- Behind the symbol stands a bracket, or a dot, or nothing. -/
theorem leadingIdentifier_text_of_not_mem (hbracket : '(' ∉ e.symbol) (hdot : '.' ∉ e.symbol) :
    leadingIdentifier e.text = e.symbol := by
  have hsymbol : ∀ c ∈ e.symbol, (c ≠ '(' && c ≠ '.') = true := by
    intro c hc
    rw [Bool.and_eq_true, decide_eq_true_iff, decide_eq_true_iff]
    exact ⟨ne_of_mem_of_not_mem hc hbracket, ne_of_mem_of_not_mem hc hdot⟩
  have hrest : leadingIdentifier (TypeExpression.argsText e.args ++ e.modifiers.flatMap ('.' :: ·)) = [] := by
    rw [TypeExpression.argsText]
    split
    · cases e.modifiers <;> rfl
    · rfl
  rw [leadingIdentifier, TypeExpression.text, List.append_assoc, List.takeWhile_append_of_pos hsymbol,
    ← leadingIdentifier, hrest, List.append_nil]

theorem leadingIdentifier_text (h : e.symbol.Word) : leadingIdentifier e.text = e.symbol := by
  apply leadingIdentifier_text_of_not_mem
  · exact h.not_mem (by decide)
  · exact h.not_mem (by decide)

/-! ### First uses -/

theorem pairwise_idxOf_eraseDups (items : List Text) :
    items.eraseDups.Pairwise fun a b => items.idxOf a < items.idxOf b := by
  -- From the back, because the places of what stands in front are kept when an element is added.
  induction items using List.reverseRecOn with
  | nil => exact .nil
  | append_singleton items last ih =>
    have hinit : items.eraseDups.Pairwise fun a b => (items ++ [last]).idxOf a < (items ++ [last]).idxOf b := by
      refine ih.imp_of_mem fun {a b} ha hb hlt => ?_
      rw [List.idxOf_append_of_mem (List.mem_eraseDups.1 ha), List.idxOf_append_of_mem (List.mem_eraseDups.1 hb)]
      exact hlt
    rw [List.eraseDups_append]
    by_cases hlast : last ∈ items
    · have hnone : [last].removeAll items = [] := by simp [List.removeAll, hlast]
      rw [hnone, List.eraseDups_nil, List.append_nil]
      exact hinit
    · have hone : ([last].removeAll items).eraseDups = [last] := by
        simp [List.removeAll, hlast, List.eraseDups_cons]
      rw [hone, List.pairwise_append]
      refine ⟨hinit, List.pairwise_singleton _ last, ?_⟩
      intro a ha b hb
      rw [List.mem_eraseDups] at ha
      rw [List.mem_singleton.1 hb, List.idxOf_append_of_mem ha, List.idxOf_append_of_notMem hlast]
      exact Nat.lt_add_right _ (List.idxOf_lt_length_iff.2 ha)

/-! ### The line that lists the symbols -/

/-- The names that a line lists between its first braces. -/
def bracedNames (line : Text) : List Text :=
  ((((line.dropWhile (· ≠ '\x7b')).drop 1).takeWhile (· ≠ '\x7d')).splitOn ',').map
    fun part => part.filter (· ≠ ' ')

private theorem forall_ne_of_not_mem {c : Char} {t : Text} (h : c ∉ t) : ∀ d ∈ t, (decide (d ≠ c)) = true :=
  fun _ hd => decide_eq_true (ne_of_mem_of_not_mem hd h)

theorem filter_of_word {name : Text} (h : name.Word) (blanks : Nat) :
    (spaces blanks ++ name).filter (· ≠ ' ') = name := by
  have hblanks : (spaces blanks).filter (· ≠ ' ') = [] := by
    rw [List.filter_eq_nil_iff]
    intro c hc
    rw [List.eq_of_mem_replicate hc]
    decide
  have hname : name.filter (· ≠ ' ') = name := by
    rw [List.filter_eq_self]
    exact forall_ne_of_not_mem (h.not_mem (by decide))
  rw [List.filter_append, hblanks, hname, List.nil_append]

/-- Words with commas between them are told from the parts between the commas. -/
theorem names_of_listing {names : List Text} (h : ∀ name ∈ names, name.Word) (hne : names ≠ []) (blanks : Nat) :
    ((spaces blanks ++ (List.intercalate ", " names ++ " ")).splitOn ',').map (fun part => part.filter (· ≠ ' ')) =
      names := by
  -- The blank behind a comma is the one in front of the next name.
  induction names generalizing blanks with
  | nil => exact absurd rfl hne
  | cons name names ih =>
    obtain ⟨hname, hnames⟩ := List.forall_mem_cons.1 h
    have hcomma : ',' ∉ spaces blanks ++ name := by
      intro hmem
      rcases List.mem_append.1 hmem with hmem | hmem
      · exact not_mem_spaces (by decide) _ hmem
      · exact hname.not_mem (by decide) hmem
    cases names with
    | nil =>
      have hlast : ',' ∉ (spaces blanks ++ name) ++ " " := by
        intro hmem
        rcases List.mem_append.1 hmem with hmem | hmem
        · exact hcomma hmem
        · exact absurd hmem (by decide)
      rw [List.intercalate_singleton, ← List.append_assoc, List.splitOn_eq_singleton hlast, List.map_singleton,
        List.filter_append, filter_of_word hname]
      exact congrArg ([·]) (List.append_nil name)
    | cons next more =>
      have hmore : next :: more ≠ [] := List.cons_ne_nil next more
      have hsplit : spaces blanks ++ (List.intercalate ", " (name :: next :: more) ++ " ") =
          (spaces blanks ++ name) ++ ',' :: (spaces 1 ++ (List.intercalate ", " (next :: more) ++ " ")) := by
        rw [List.intercalate_cons_of_ne_nil hmore]
        simp [spaces]
      rw [hsplit, List.splitOn_append_cons_self_of_not_mem hcomma, List.map_cons, filter_of_word hname,
        ih hnames hmore]

def importLine (listing : Text) : Text :=
  "const \x7b " ++ listing ++ " \x7d = app.Sequelize;"

theorem bracedNames_importLine {names : List Text} (h : ∀ name ∈ names, name.Word) (hne : names ≠ [])
    (width : Nat) :
    bracedNames (pad width (1, importLine (List.intercalate ", " names))) = names := by
  have hline : pad width (1, importLine (List.intercalate ", " names)) =
      (spaces (width * 1) ++ "const ") ++ '\x7b' :: ((spaces 1 ++ (List.intercalate ", " names ++ " ")) ++
        '\x7d' :: " = app.Sequelize;") := by
    show spaces (width * 1) ++ ("const \x7b " ++ List.intercalate ", " names ++ " \x7d = app.Sequelize;") = _
    simp [spaces]
  have hfront : '\x7b' ∉ spaces (width * 1) ++ "const " := by
    rw [List.mem_append, not_or]
    exact ⟨not_mem_spaces (by decide) _, by decide⟩
  have hinner : '\x7d' ∉ spaces 1 ++ (List.intercalate ", " names ++ " ") := by
    rw [List.mem_append, List.mem_append, not_or, not_or]
    have hnames : '\x7d' ∉ List.intercalate ", " names :=
      not_mem_intercalate (by decide) fun name hname => (h name hname).not_mem (by decide)
    exact ⟨by decide, hnames, by decide⟩
  rw [bracedNames, hline, List.dropWhile_append_of_pos (forall_ne_of_not_mem hfront),
    List.dropWhile_cons_of_neg (by decide), List.drop_one, List.tail_cons,
    List.takeWhile_append_of_pos (forall_ne_of_not_mem hinner), List.takeWhile_cons_of_neg (by decide),
    List.append_nil, names_of_listing h hne]

namespace Model

/-- The line stands behind the comment and the head of the function. -/
theorem codeLayout_symbolLine (h : model.symbolLine.Unbroken) : model.codeLayout[4]? = some (1, model.symbolLine) := by
  rw [codeLayout, bodyLayout, ofText_of_unbroken h]
  show some (1, stripReturn model.symbolLine) = _
  rw [stripReturn_of_not_mem h.1]

theorem symbols_word {table : Table} {inflect : Inflector} (h : table.assemble inflect = .ok (some model)) :
    ∀ field ∈ model.fields, field.dataType.symbol.Word := by
  obtain ⟨fields, baseName, hfields, -, -, rfl⟩ := Table.assemble_eq_some h
  intro field hfield
  obtain ⟨column, -, hcolumn⟩ := mem_of_mapM_eq_ok hfields hfield
  exact ColumnType.symbol_word (Table.expression_of_field hcolumn)

end Model

/-- In every file that is made, the names between the braces of the line that takes symbols in are the leading
identifiers of the type expressions of the fields, each of them once and in the order of their first uses. -/
theorem Options.generate_imports {options : Options} {schema : Text} {files : List ModelFile}
    (h : options.generate schema = .ok files) :
    ∀ file ∈ files, ∃ statements table model,
      readStatements schema = .ok statements ∧ .createTable table ∈ statements ∧
      table.assemble options.inflect = .ok (some model) ∧ options.render model = .ok file ∧
      let lines := file.content.splitOn '\n'
      let width := options.indentWidth
      let uses := model.fields.map fun field => leadingIdentifier field.dataType.text
      ∃ line listing, lines[4]? = some line ∧ line = pad width (1, importLine listing) ∧
        (∀ name, name ∈ bracedNames line ↔ name ∈ uses) ∧ (bracedNames line).Nodup ∧
        (bracedNames line).Pairwise (fun earlier later => uses.idxOf earlier < uses.idxOf later) ∧
        ∀ field ∈ model.fields,
          (sink 4 (ofText (attributeLine "type" field.dataType.text))).map (pad width) <:+: lines := by
  intro file hfile
  obtain ⟨statements, table, model, hread, hmem, htable, hrender⟩ := exists_model_of_generateChunk h hfile
  refine ⟨statements, table, model, hread, hmem, htable, hrender, ?_⟩
  intro lines width uses
  have hassembled := Table.assemble_assembled htable
  have huses : uses = model.fields.map (·.dataType.symbol) := by
    apply List.map_congr_left
    intro field hfield
    exact leadingIdentifier_text (Model.symbols_word htable field hfield)
  have hsymbols : model.requiredSymbols = uses.eraseDups := by rw [huses, hassembled.hsymbols]
  have hwords : ∀ name ∈ model.requiredSymbols, name.Word := by
    intro name hname
    rw [hassembled.hsymbols, List.mem_eraseDups] at hname
    obtain ⟨field, hfield, rfl⟩ := List.mem_map.1 hname
    exact Model.symbols_word htable field hfield
  have hne : model.requiredSymbols ≠ [] := by
    obtain ⟨field, hfield⟩ := List.exists_mem_of_ne_nil _ hassembled.hfields
    rw [hassembled.hsymbols]
    exact List.ne_nil_of_mem (List.mem_eraseDups.2 (List.mem_map_of_mem hfield))
  have hline : (model.codeLayout.map (pad width))[4]? = some (pad width (1, model.symbolLine)) := by
    rw [List.getElem?_map, Model.codeLayout_symbolLine hassembled.symbolLine]
    rfl
  obtain ⟨hlength, hget⟩ := List.getElem?_eq_some_iff.1 hline
  have horder := pairwise_idxOf_eraseDups uses
  refine ⟨_, List.intercalate ", " model.requiredSymbols, ?_, rfl, ?_⟩
  · rw [List.prefix_iff_getElem?.1 (codeLayout_prefix_of_render hrender) 4 hlength, hget]
    rfl
  · rw [bracedNames_importLine hwords hne, hsymbols]
    refine ⟨fun name => List.mem_eraseDups, ?_, horder, ?_⟩
    · apply horder.imp
      rintro earlier _ hlt rfl
      exact Nat.lt_irrefl _ hlt
    · intro field hfield
      exact attribute_infix_of_render hrender hfield List.mem_cons_self

/-- A table whose columns use a symbol twice and have dots, brackets and commas in the values of an enumeration. -/
def importSchema : Text :=
  let typed (name : Text) (type : List (Text × Json)) : Json :=
    .object [("type", .string "column"), ("name", .string name), ("data_type", .object type)]
  Json.print (.array [.object [("type", .string "create_table"), ("name", .string "quiz"), ("columns", .array [
    typed "state" [("type", .string "ENUM"), ("params", .array [.string "a.b", .string "c(d, e)"])],
    typed "score" [("type", .string "INT"), ("unsigned", .boolean true)],
    typed "level" [("type", .string "ENUM"), ("params", .array [.string "x"])],
    typed "hash" [("type", .string "BINARY")]])]])

def importFiles : List ModelFile :=
  (({} : Options).generate importSchema).toOption.getD []

theorem Options.generate_imports_importSchema :
    ({} : Options).generate importSchema = .ok importFiles ∧ importFiles.length = 1 ∧
      ∀ file ∈ importFiles, ∃ line, (file.content.splitOn '\n')[4]? = some line ∧
        bracedNames line = ["ENUM".toList, "INTEGER".toList, "CHAR".toList] ∧ (bracedNames line).Nodup := by
  have hgenerate : ({} : Options).generate importSchema = .ok importFiles ∧ importFiles.length = 1 ∧
      ∀ file ∈ importFiles, (file.content.splitOn '\n')[4]?.map bracedNames =
        some ["ENUM".toList, "INTEGER".toList, "CHAR".toList] := by
    decide +kernel
  obtain ⟨hfiles, hone, hnames⟩ := hgenerate
  refine ⟨hfiles, hone, fun file hfile => ?_⟩
  obtain ⟨_, _, _, -, -, -, -, line, _, hline, -, -, hnodup, -⟩ := generate_imports hfiles file hfile
  have hread := hnames file hfile
  rw [hline] at hread
  exact ⟨line, hline, Option.some.inj hread, hnodup⟩

end TableModel
