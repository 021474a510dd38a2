import Mathlib.Data.List.Infix
import TableModel.Proofs.Model.Injectivity

/-!
# Where the comment of a type ends

Strings of a model stand in the comment that describes its type as they are. What is fixed between them neither ends in
a star nor starts with a slash, so it makes no end of a comment together with what is beside it: each end of a comment
in front of the last line is within one of the strings. And without breaks in the strings the lines of the comment are
the ones that it was joined of.
-/

namespace TableModel

namespace Text

variable {front back fixed t : Text}

/-! ### Ends of comments -/

def commentEnd : Text := "*/"

/-- The number of places in a text where the end of a comment stands. -/
def commentEnds (t : Text) : Nat :=
  t.tails.countP commentEnd.isPrefixOf

theorem commentEnds_cons (c : Char) (t : Text) :
    commentEnds (c :: t) = commentEnds t + if c = '*' ∧ t.head? = some '/' then 1 else 0 := by
  have hstarts : commentEnd.isPrefixOf (c :: t) = true ↔ c = '*' ∧ t.head? = some '/' := by
    cases t <;> simp [commentEnd, List.isPrefixOf, @eq_comm Char '*', @eq_comm Char '/']
  rw [commentEnds, List.tails_cons, List.countP_cons, commentEnds]
  simp only [hstarts]

theorem commentEnds_eq_zero_iff : commentEnds t = 0 ↔ ¬commentEnd <:+: t := by
  rw [commentEnds, List.countP_eq_zero, List.infix_iff_prefix_suffix]
  simp only [List.mem_tails, List.isPrefixOf_iff_prefix, not_exists, not_and]
  exact forall_congr' fun rest => imp_not_comm

theorem commentEnds_of_not_mem (h : '*' ∉ t) : commentEnds t = 0 := by
  rw [commentEnds_eq_zero_iff]
  intro hwithin
  exact h (hwithin.subset List.mem_cons_self)

/-- Two texts hold the ends of both unless a star and a slash meet between them. -/
theorem commentEnds_append (h : front.getLast? ≠ some '*' ∨ back.head? ≠ some '/') :
    commentEnds (front ++ back) = commentEnds front + commentEnds back := by
  induction front with
  | nil => exact (Nat.zero_add _).symm
  | cons c front ih =>
    rw [List.cons_append, commentEnds_cons, commentEnds_cons]
    cases front with
    | nil =>
      have hseam : ¬(c = '*' ∧ back.head? = some '/') := by
        rintro ⟨rfl, hslash⟩
        exact h.elim (fun hstar => hstar rfl) fun hhead => hhead hslash
      rw [List.nil_append, if_neg hseam, if_neg (by simp)]
      exact (Nat.zero_add _).symm
    | cons d front =>
      rw [List.getLast?_cons_cons] at h
      rw [ih h, List.cons_append, List.head?_cons, List.head?_cons]
      omega

/-- A fixed text that holds no end of a comment and makes none with what is beside it. -/
def Seals (fixed : Text) : Prop :=
  commentEnds fixed = 0 ∧ fixed ≠ [] ∧ fixed.head? ≠ some '/' ∧ fixed.getLast? ≠ some '*'

instance (fixed : Text) : Decidable (Seals fixed) :=
  inferInstanceAs (Decidable (_ ∧ _))

theorem Seals.commentEnds_append (h : Seals fixed) (front back : Text) :
    commentEnds (front ++ (fixed ++ back)) = commentEnds front + commentEnds back := by
  obtain ⟨hnone, hne, hhead, hlast⟩ := h
  have hseam : (fixed ++ back).head? ≠ some '/' := by
    rw [List.head?_append_of_ne_nil fixed hne]
    exact hhead
  rw [Text.commentEnds_append (.inr hseam), Text.commentEnds_append (.inl hlast), hnone, Nat.zero_add]

/-! ### Upper case -/

theorem uppercaseExpansions_ne_nil : ∀ expansion ∈ uppercaseExpansions, expansion.2 ≠ [] := by
  decide +kernel

theorem uppercaseForm_ne_nil (c : Char) : uppercaseForm c ≠ [] := by
  rw [uppercaseForm]
  split
  · rename_i codes hlookup
    obtain ⟨before, after, htable, -⟩ := List.lookup_eq_some_iff.1 hlookup
    have hmem : (c.toNat, codes) ∈ uppercaseExpansions :=
      htable ▸ List.mem_append_right before List.mem_cons_self
    exact mt List.map_eq_nil_iff.1 (uppercaseExpansions_ne_nil _ hmem)
  · exact List.cons_ne_nil _ _

theorem head?_toUppercase : t.toUppercase.head? = some '/' ↔ t.head? = some '/' := by
  cases t with
  | nil => rfl
  | cons c t =>
    rw [toUppercase, List.flatMap_cons, List.head?_append_of_ne_nil _ (uppercaseForm_ne_nil c), List.head?_cons,
      Option.some_inj]
    by_cases hc : c = '/'
    · rw [hc]
      decide +kernel
    · apply iff_of_false _ hc
      intro hhead
      exact hc ((mem_uppercaseForm (by decide)).1 (List.mem_of_head? hhead)).symm

/-- Upper case makes no end of a comment and takes none away. -/
theorem commentEnds_toUppercase (t : Text) : commentEnds t.toUppercase = commentEnds t := by
  induction t with
  | nil => rfl
  | cons c t ih =>
    have hcons : toUppercase (c :: t) = uppercaseForm c ++ toUppercase t := List.flatMap_cons
    rw [hcons, commentEnds_cons, ← ih]
    by_cases hc : c = '*'
    · have hform : uppercaseForm '*' = ['*'] := by decide +kernel
      rw [hc, hform, List.singleton_append, commentEnds_cons]
      simp only [head?_toUppercase]
    · have hstar : '*' ∉ uppercaseForm c := by
        rw [mem_uppercaseForm (by decide)]
        exact Ne.symm hc
      have hlast : (uppercaseForm c).getLast? ≠ some '*' := fun h => hstar (List.mem_of_getLast? h)
      rw [commentEnds_append (.inl hlast), commentEnds_of_not_mem hstar, if_neg fun h => hc h.1, Nat.zero_add,
        Nat.add_zero]

theorem commentEnd_infix_toUppercase_iff : commentEnd <:+: t.toUppercase ↔ commentEnd <:+: t := by
  rw [← not_iff_not, ← commentEnds_eq_zero_iff, ← commentEnds_eq_zero_iff, commentEnds_toUppercase]

end Text

open Text

variable {fields : List ModelField}

/-! ### The comment of a type -/

/-- The number of ends of comments in the strings that describe fields. -/
def ModelField.commentEnds (fields : List ModelField) : Nat :=
  fields.foldr (fun field count => Text.commentEnds field.name + field.comment.elim 0 Text.commentEnds + count) 0

theorem ModelField.commentEnds_eq_zero_iff : ModelField.commentEnds fields = 0 ↔
    ∀ field ∈ fields, ¬commentEnd <:+: field.name ∧ ∀ comment ∈ field.comment, ¬commentEnd <:+: comment := by
  induction fields with
  | nil => simp [commentEnds]
  | cons field fields ih =>
    have hcomment : field.comment.elim 0 Text.commentEnds = 0 ↔
        ∀ comment ∈ field.comment, ¬commentEnd <:+: comment := by
      cases field.comment with
      | none => simp
      | some comment => simp [Text.commentEnds_eq_zero_iff]
    rw [List.forall_mem_cons, ← ih, ← hcomment, ← Text.commentEnds_eq_zero_iff]
    show _ + _ + ModelField.commentEnds fields = 0 ↔ _
    omega

def ScriptType.propertyOpening (t : ScriptType) : Text :=
  "\n * @property \x7b " ++ t.name ++ " \x7d "

theorem ScriptType.seals_propertyOpening (t : ScriptType) : Seals t.propertyOpening := by
  cases t <;> decide

theorem ModelField.break_property (field : ModelField) : '\n' :: field.property =
    field.scriptType.propertyOpening ++ (field.name ++ field.comment.elim [] (' ' :: ·)) := by
  show _ = ("\n * @property \x7b ".toList ++ field.scriptType.name ++ " \x7d ".toList) ++ _
  rw [← List.append_assoc]
  rfl

theorem commentEnds_properties (fields : List ModelField) (front : Text) :
    commentEnds (front ++ (fields.flatMap ('\n' :: ·.property) ++ "\n */")) =
      commentEnds front + ModelField.commentEnds fields + 1 := by
  induction fields generalizing front with
  | nil =>
    have hclose : commentEnds "\n */" = 1 := by decide
    have hhead : ("\n */" : Text).head? ≠ some '/' := by decide
    rw [List.flatMap_nil, List.nil_append, Text.commentEnds_append (.inr hhead), hclose]
    rfl
  | cons field fields ih =>
    rw [List.flatMap_cons, field.break_property, List.append_assoc, List.append_assoc,
      field.scriptType.seals_propertyOpening.commentEnds_append, List.append_assoc]
    show _ = _ + (_ + _ + ModelField.commentEnds fields) + 1
    cases field.comment with
    | none =>
      rw [Option.elim_none, Option.elim_none, List.nil_append, ih]
      omega
    | some comment =>
      have hspace : Seals " " := by decide
      have hcomment (back : Text) : commentEnds (field.name ++ (' ' :: comment ++ back)) =
          commentEnds field.name + commentEnds (comment ++ back) :=
        hspace.commentEnds_append field.name (comment ++ back)
      rw [Option.elim_some, Option.elim_some, hcomment, ih]
      omega

namespace Model

variable {model : Model}

theorem typedef_eq (model : Model) : model.typedef =
    "/**\n * @typedef \x7b Object \x7d ".toList ++ (model.tableName.toUppercase ++
      (typeSuffix ++ (model.fields.flatMap ('\n' :: ·.property) ++ "\n */".toList))) := by
  have hheader : model.typeHeader =
      " * @typedef \x7b Object \x7d ".toList ++ (model.tableName.toUppercase ++ typeSuffix) := by
    rw [← List.append_assoc]
    rfl
  have hopening : ("/**\n * @typedef \x7b Object \x7d ").toList =
      "/**".toList ++ '\n' :: " * @typedef \x7b Object \x7d ".toList := rfl
  rw [typedef, joinLines_eq_flatMap, hheader, hopening, List.flatMap_cons, List.flatMap_append, List.flatMap_map]
  simp only [List.append_assoc, List.cons_append]
  rfl

/-- Each end of a comment is within one of the strings, but for the last. -/
theorem commentEnds_typedef (model : Model) : commentEnds model.typedef =
    commentEnds model.tableName.toUppercase + ModelField.commentEnds model.fields + 1 := by
  have hopening : commentEnds "/**\n * @typedef \x7b Object \x7d " = 0 := by decide
  have hlast : ("/**\n * @typedef \x7b Object \x7d " : Text).getLast? ≠ some '*' := by decide
  have hsuffix : Seals typeSuffix := by decide
  have hproperties := commentEnds_properties model.fields []
  rw [typedef_eq, Text.commentEnds_append (.inl hlast), hopening, hsuffix.commentEnds_append]
  rw [List.nil_append] at hproperties
  rw [hproperties, commentEnds_of_not_mem List.not_mem_nil]
  omega

theorem commentEnd_suffix_typedef (model : Model) : commentEnd <:+ model.typedef := by
  have hclose : commentEnd <:+ "\n */".toList := by decide
  rw [typedef_eq]
  apply hclose.trans
  simp only [← List.append_assoc]
  exact List.suffix_append _ _

theorem commentEnds_typedef_eq_one_iff (model : Model) :
    commentEnds model.typedef = 1 ↔ model.Described (¬commentEnd <:+: ·) := by
  rw [Described, ← Text.commentEnds_eq_zero_iff, ← ModelField.commentEnds_eq_zero_iff, commentEnds_typedef]
  omega

/-! ### The lines of the comment -/

def propertyMark : Text := " * @property "

theorem filter_typedefLines (model : Model) :
    model.typedefLines.filter propertyMark.isPrefixOf = model.fields.map (·.property) := by
  have hheader : propertyMark.isPrefixOf model.typeHeader = false := rfl
  have hproperties : ∀ line ∈ model.fields.map (·.property), propertyMark.isPrefixOf line = true := by
    intro line hline
    obtain ⟨field, -, rfl⟩ := List.mem_map.1 hline
    rfl
  rw [typedefLines, List.filter_cons_of_neg (by decide), List.filter_cons_of_neg (by rw [hheader]; decide),
    List.filter_append, List.filter_eq_self.2 hproperties]
  exact List.append_nil _

theorem splitOn_typedef (h : model.Described ('\n' ∉ ·)) : model.typedef.splitOn '\n' = model.typedefLines :=
  List.splitOn_intercalate '\n' (not_mem_typedefLines (.inr rfl) h) (List.cons_ne_nil _ _)

theorem typedef_suffix_render (unit : Text) (model : Model) :
    "\n\n".toList ++ model.typedef ++ "\n".toList <:+ model.render unit := by
  have htail : "\n\n".toList ++ model.typedef ++ "\n".toList =
      '\n' :: joinLines ["".toList, model.typedef, "".toList] := by
    rw [joinLines_cons _ (List.cons_ne_nil _ _), joinLines_cons _ (List.cons_ne_nil _ _), joinLines_singleton]
    rfl
  have hrender : model.render unit = joinLines (
      ["/**".toList, " * @param \x7b Egg.Application \x7d app egg app".toList, " */".toList,
        "module.exports = function(app) \x7b".toList, indent unit (model.body unit), "\x7d;".toList] ++
      ["".toList, model.typedef, "".toList]) := rfl
  rw [htail, hrender, joinLines_append (List.cons_ne_nil _ _) (List.cons_ne_nil _ _)]
  exact List.suffix_append _ _

/-- The comment that describes the type ends a script. It holds one end of a comment, the one it ends in, exactly if
none of the strings that stand in it holds one, and upper case makes no difference for that. If none of the strings
holds a line feed then between the first two lines of the comment and the last there is one line for each field. -/
theorem typedef_closes (unit : Text) (model : Model) :
    "\n\n".toList ++ model.typedef ++ "\n".toList <:+ model.render unit ∧
    (commentEnds model.typedef = 1 ∧ commentEnd <:+ model.typedef ↔ model.Described (¬commentEnd <:+: ·)) ∧
    (commentEnd <:+: model.tableName.toUppercase ↔ commentEnd <:+: model.tableName) ∧
    (model.Described ('\n' ∉ ·) →
      model.typedef.splitOn '\n' =
        "/**".toList :: model.typeHeader :: (model.fields.map (·.property) ++ [" */".toList]) ∧
      (model.typedef.splitOn '\n').filter propertyMark.isPrefixOf = model.fields.map (·.property)) := by
  refine ⟨typedef_suffix_render unit model, ?_, commentEnd_infix_toUppercase_iff, ?_⟩
  · rw [and_iff_left model.commentEnd_suffix_typedef]
    exact model.commentEnds_typedef_eq_one_iff
  · intro h
    rw [splitOn_typedef h]
    exact ⟨rfl, model.filter_typedefLines⟩

/-- A model whose strings start and end in parts of the end of a comment. -/
def starredModel : Model where
  tableName := "/t*"
  baseName := "t"
  fields := [
    { name := "/a*", dataType := { symbol := "TEXT" }, comment := some "/note*" },
    { name := "/b*", dataType := { symbol := "TEXT" } }]
  requiredSymbols := ["TEXT"]

theorem typedef_closes_starredModel : commentEnds starredModel.typedef = 1 ∧
    (starredModel.typedef.splitOn '\n').filter propertyMark.isPrefixOf =
      [" * @property \x7b string \x7d /a* /note*".toList, " * @property \x7b string \x7d /b*".toList] := by
  obtain ⟨-, hends, -, hlines⟩ := typedef_closes [] starredModel
  have hclosed : starredModel.Described (¬commentEnd <:+: ·) := by
    simp only [Described, starredModel, List.forall_mem_cons]
    decide +kernel
  have hwhole : starredModel.Described ('\n' ∉ ·) := by
    simp only [Described, starredModel, List.forall_mem_cons]
    decide +kernel
  exact ⟨(hends.2 hclosed).1, (hlines hwhole).2.trans (by decide)⟩

end Model

end TableModel
