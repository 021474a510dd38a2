import TableModel.Proofs.Text.Lines

/-!
# Layouts

A layout is a list of lines with the depth of each. Its text is joined of the lines behind as many
spaces as their depth takes, so that indenting the text as a whole is the same as moving every line one
step deeper, whatever the width of a step is. In this way a text that is indented over and over again,
block by block, comes to one layout that does not depend on the width.
-/

namespace TableModel

open Text

/-- Lines with their depths. -/
abbrev Layout := List (Nat × Text)

namespace Layout

variable {layout front back : Layout} {t : Text}

/-- A line behind the spaces that its depth takes. -/
def pad (width : Nat) (line : Nat × Text) : Text :=
  spaces (width * line.1) ++ line.2

/-- The text of a layout with `width` spaces for each step. -/
def text (width : Nat) (layout : Layout) : Text :=
  joinLines (layout.map (pad width))

def ofText (t : Text) : Layout :=
  (t.splitOn '\n').map fun line => (0, line)

def line (depth : Nat) (t : Text) : Layout :=
  [(depth, t)]

/-- The layout with each line one step deeper. -/
def shift (layout : Layout) : Layout :=
  layout.map fun line => (line.1 + 1, line.2)

/-- The layout one step deeper. A carriage return before a break is lost on the way. -/
def deeper : Layout → Layout
  | [] => [(0, [])]
  | [line] => [(line.1 + 1, line.2)]
  | line :: next :: rest => (line.1 + 1, stripReturn line.2) :: deeper (next :: rest)

/-- The layout holds lines indeed, and ends in something. -/
structure Sound (layout : Layout) : Prop where
  hlines : ∀ line ∈ layout, '\n' ∉ line.2
  hlast : ∀ line ∈ layout.getLast?, line.2 ≠ []

theorem not_mem_spaces {c : Char} (h : c ≠ ' ') (n : Nat) : c ∉ spaces n :=
  fun hmem => h (List.eq_of_mem_replicate hmem)

theorem pad_zero (width : Nat) (line : Text) : pad width (0, line) = line := by
  rw [pad, Nat.mul_zero]
  rfl

theorem pad_succ (width : Nat) (line : Nat × Text) :
    pad width (line.1 + 1, line.2) = spaces width ++ pad width line := by
  have hspaces : spaces (width * line.1 + width) = spaces width ++ spaces (width * line.1) := by
    rw [spaces, spaces, spaces, List.replicate_append_replicate, Nat.add_comm]
  rw [pad, pad, Nat.mul_succ, hspaces, List.append_assoc]

theorem stripReturn_pad (width depth : Nat) (line : Text) :
    stripReturn (pad width (depth, line)) = pad width (depth, stripReturn line) :=
  stripReturn_append (not_mem_spaces (by decide) _) line

theorem not_mem_pad (width : Nat) (h : ∀ line ∈ layout, '\n' ∉ line.2) :
    ∀ padded ∈ layout.map (pad width), '\n' ∉ padded := by
  intro padded hpadded hmem
  obtain ⟨line, hline, rfl⟩ := List.mem_map.1 hpadded
  rcases List.mem_append.1 hmem with hmem | hmem
  · exact not_mem_spaces (by decide) _ hmem
  · exact h line hline hmem

/-! ### Texts of layouts -/

theorem text_append (width : Nat) (hfront : front ≠ []) (hback : back ≠ []) :
    text width (front ++ back) = text width front ++ '\n' :: text width back := by
  have hleft : front.map (pad width) ≠ [] := mt List.map_eq_nil_iff.1 hfront
  have hright : back.map (pad width) ≠ [] := mt List.map_eq_nil_iff.1 hback
  rw [text, List.map_append, joinLines_append hleft hright]
  rfl

theorem text_line (width : Nat) (t : Text) : text width (line 0 t) = t := by
  rw [text, line, List.map_singleton, joinLines_singleton, pad_zero]

theorem line_ne_nil (depth : Nat) (t : Text) : line depth t ≠ [] :=
  List.cons_ne_nil _ _

theorem text_flatten (width : Nat) {blocks : List Layout} (h : ∀ block ∈ blocks, block ≠ []) :
    text width blocks.flatten = joinLines (blocks.map (text width)) := by
  have hblocks : ∀ block ∈ blocks.map (List.map (pad width)), block ≠ [] := by
    intro block hblock
    obtain ⟨layout, hlayout, rfl⟩ := List.mem_map.1 hblock
    exact mt List.map_eq_nil_iff.1 (h layout hlayout)
  rw [text, List.map_flatten, ← joinLines_map_joinLines hblocks, List.map_map]
  rfl

theorem text_flatMap {α : Type} (width : Nat) {f : α → Layout} {items : List α}
    (h : ∀ item ∈ items, f item ≠ []) :
    text width (items.flatMap f) = joinLines (items.map fun item => text width (f item)) := by
  have hblocks : ∀ block ∈ items.map f, block ≠ [] := by
    intro block hblock
    obtain ⟨item, hitem, rfl⟩ := List.mem_map.1 hblock
    exact h item hitem
  rw [List.flatMap_def, text_flatten width hblocks, List.map_map]
  rfl

theorem ofText_ne_nil (t : Text) : ofText t ≠ [] :=
  mt List.map_eq_nil_iff.1 (List.splitOn_ne_nil '\n' t)

theorem ofText_of_not_mem (h : '\n' ∉ t) : ofText t = line 0 t := by
  rw [ofText, List.splitOn_eq_singleton h]
  rfl

theorem text_ofText (width : Nat) (t : Text) : text width (ofText t) = t := by
  have hpad : (pad width ∘ fun line : Text => (0, line)) = id := by
    funext line
    exact pad_zero width line
  rw [text, ofText, List.map_map, hpad, List.map_id]
  exact List.intercalate_splitOn '\n'

/-! ### Lines of layouts -/

theorem splitOn_text (width : Nat) (h : ∀ line ∈ layout, '\n' ∉ line.2) (hne : layout ≠ []) :
    (text width layout).splitOn '\n' = layout.map (pad width) :=
  List.splitOn_intercalate '\n' (not_mem_pad width h) (mt List.map_eq_nil_iff.1 hne)

theorem splitOn_text_append (width : Nat) (h : ∀ line ∈ layout, '\n' ∉ line.2) (hne : layout ≠ []) (rest : Text) :
    (text width layout ++ '\n' :: rest).splitOn '\n' = layout.map (pad width) ++ rest.splitOn '\n' :=
  splitOn_joinLines_append (mt List.map_eq_nil_iff.1 hne) (not_mem_pad width h) rest

/-- A text has one line more than breaks. -/
theorem length_ofText (t : Text) : (ofText t).length = t.count '\n' + 1 := by
  rw [ofText, List.length_map]
  induction t with
  | nil => rfl
  | cons c t ih =>
    rw [List.splitOn_cons_eq_if_modifyHead, List.count_cons]
    split
    · rw [List.length_cons, ih]
    · rw [List.length_modifyHead, ih]

/-! ### Sound layouts -/

theorem Sound.append (hfront : ∀ line ∈ front, '\n' ∉ line.2) (hback : Sound back) (hne : back ≠ []) :
    Sound (front ++ back) := by
  refine ⟨?_, ?_⟩
  · intro line hline
    rcases List.mem_append.1 hline with hline | hline
    · exact hfront line hline
    · exact hback.hlines line hline
  · rw [List.getLast?_append_of_ne_nil front hne]
    exact hback.hlast

theorem Sound.line (hbreak : '\n' ∉ t) (hne : t ≠ []) : Sound (line 0 t) := by
  refine ⟨?_, ?_⟩
  · intro other hother
    rw [List.mem_singleton.1 hother]
    exact hbreak
  · intro other hother
    rw [← Option.some.inj hother]
    exact hne

/-- The lines of a text end in something if the text does not end in a break. -/
theorem Sound.ofText {c : Char} (hlast : t.getLast? = some c) (hc : c ≠ '\n') : Sound (ofText t) := by
  refine ⟨?_, ?_⟩
  · intro line hline
    obtain ⟨part, hpart, rfl⟩ := List.mem_map.1 hline
    exact not_mem_of_mem_splitOn hpart
  · intro line hline hnil
    rw [Layout.ofText, List.getLast?_map] at hline
    obtain ⟨last, hsplit, rfl⟩ := Option.map_eq_some_iff.1 hline
    have hend := getLast?_splitOn hlast hc last hsplit
    rw [show last = [] from hnil] at hend
    cases hend

theorem Sound.flatten {blocks : List Layout} (h : ∀ block ∈ blocks, Sound block ∧ block ≠ []) :
    Sound blocks.flatten := by
  induction blocks with
  | nil => exact ⟨fun _ hline => absurd hline List.not_mem_nil, fun _ hline => by cases hline⟩
  | cons block blocks ih =>
    obtain ⟨⟨hblock, hne⟩, hblocks⟩ := List.forall_mem_cons.1 h
    rw [List.flatten_cons]
    by_cases hrest : blocks.flatten = []
    · rw [hrest, List.append_nil]
      exact hblock
    · exact .append hblock.hlines (ih hblocks) hrest

theorem Sound.flatMap {α : Type} {f : α → Layout} {items : List α}
    (h : ∀ item ∈ items, Sound (f item) ∧ f item ≠ []) : Sound (items.flatMap f) := by
  rw [List.flatMap_def]
  apply Sound.flatten
  intro block hblock
  obtain ⟨item, hitem, rfl⟩ := List.mem_map.1 hblock
  exact h item hitem

/-! ### One step deeper -/

theorem map_pad_deeper (width : Nat) (hne : layout ≠ []) :
    (deeper layout).map (pad width) = (stripReturns (layout.map (pad width))).map (spaces width ++ ·) := by
  induction layout with
  | nil => exact absurd rfl hne
  | cons line layout ih =>
    cases layout with
    | nil =>
      show [pad width (line.1 + 1, line.2)] = [spaces width ++ pad width line]
      rw [pad_succ]
    | cons next rest =>
      show pad width (line.1 + 1, stripReturn line.2) :: (deeper (next :: rest)).map (pad width) =
        (spaces width ++ stripReturn (pad width line)) ::
          (stripReturns ((next :: rest).map (pad width))).map (spaces width ++ ·)
      rw [ih (List.cons_ne_nil next rest), stripReturn_pad, ← pad_succ]

/-- Indenting the text of a layout moves all its lines one step deeper. -/
theorem text_deeper (width : Nat) (h : Sound layout) :
    text width (deeper layout) = indent (spaces width) (text width layout) := by
  cases layout with
  | nil => exact text_line width []
  | cons line layout =>
    have hne : line :: layout ≠ [] := List.cons_ne_nil line layout
    have hlast : ∀ padded ∈ ((line :: layout).map (pad width)).getLast?, padded ≠ [] := by
      intro padded hpadded
      rw [List.getLast?_map] at hpadded
      obtain ⟨other, hother, rfl⟩ := Option.map_eq_some_iff.1 hpadded
      exact List.append_ne_nil_of_right_ne_nil _ (h.hlast other hother)
    rw [text, text, map_pad_deeper width hne, indent_joinLines (spaces width) (not_mem_pad width h.hlines) hlast]

theorem deeper_ne_nil (layout : Layout) : deeper layout ≠ [] := by
  cases layout with
  | nil => exact List.cons_ne_nil _ _
  | cons line layout =>
    cases layout with
    | nil => exact List.cons_ne_nil _ _
    | cons next rest => exact List.cons_ne_nil _ _

theorem not_mem_deeper (h : ∀ line ∈ layout, '\n' ∉ line.2) : ∀ line ∈ deeper layout, '\n' ∉ line.2 := by
  induction layout with
  | nil =>
    intro line hline
    rw [List.mem_singleton.1 hline]
    exact List.not_mem_nil
  | cons line layout ih =>
    obtain ⟨hline, hrest⟩ := List.forall_mem_cons.1 h
    cases layout with
    | nil =>
      intro other hother
      rw [List.mem_singleton.1 hother]
      exact hline
    | cons next rest => exact List.forall_mem_cons.2 ⟨not_mem_stripReturn hline, ih hrest⟩

theorem length_deeper (hne : layout ≠ []) : (deeper layout).length = layout.length := by
  induction layout with
  | nil => exact absurd rfl hne
  | cons line layout ih =>
    cases layout with
    | nil => rfl
    | cons next rest => exact congrArg (· + 1) (ih (List.cons_ne_nil next rest))

theorem getLast?_deeper (hne : layout ≠ []) :
    (deeper layout).getLast? = layout.getLast?.map fun line => (line.1 + 1, line.2) := by
  induction layout with
  | nil => exact absurd rfl hne
  | cons line layout ih =>
    cases layout with
    | nil => rfl
    | cons next rest =>
      rw [deeper, List.getLast?_cons_of_ne_nil (deeper_ne_nil _), ih (List.cons_ne_nil next rest),
        List.getLast?_cons_cons]

theorem Sound.deeper (h : Sound layout) (hne : layout ≠ []) : Sound (deeper layout) := by
  refine ⟨not_mem_deeper h.hlines, ?_⟩
  intro line hline
  rw [getLast?_deeper hne] at hline
  obtain ⟨last, hlast, rfl⟩ := Option.map_eq_some_iff.1 hline
  exact h.hlast last hlast

theorem deeper_append (front : Layout) (hback : back ≠ []) :
    deeper (front ++ back) = (front.map fun line => (line.1 + 1, stripReturn line.2)) ++ deeper back := by
  induction front with
  | nil => rfl
  | cons line front ih =>
    obtain ⟨next, rest, hrest⟩ := List.exists_cons_of_ne_nil (List.append_ne_nil_of_right_ne_nil front hback)
    rw [List.cons_append, List.map_cons, List.cons_append, ← ih, hrest]
    rfl

/-! ### Parts of layouts -/

/-- A part of a layout that goes deeper as it would by itself: a break behind it takes nothing from its last line. -/
structure Whole (part : Layout) : Prop where
  hne : part ≠ []
  hlast : ∀ line ∈ part.getLast?, stripReturn line.2 = line.2

def sink : Nat → Layout → Layout
  | 0, layout => layout
  | depth + 1, layout => deeper (sink depth layout)

theorem sink_line (depth : Nat) (t : Text) : sink depth (line 0 t) = line depth t := by
  induction depth with
  | zero => rfl
  | succ depth ih =>
    rw [sink, ih]
    rfl

theorem infix_flatMap {α : Type} {item : α} {items : List α} (h : item ∈ items) (f : α → Layout) :
    f item <:+: items.flatMap f := by
  rw [List.flatMap_def]
  exact List.infix_of_mem_flatten (List.mem_map_of_mem h)

namespace Whole

variable {part : Layout}

theorem deeper_eq_map (h : Whole part) :
    deeper part = part.map fun line => (line.1 + 1, stripReturn line.2) := by
  obtain ⟨front, last, rfl⟩ := (List.eq_nil_or_concat' part).resolve_left h.hne
  have hlast : stripReturn last.2 = last.2 := h.hlast last List.getLast?_concat
  rw [deeper_append front (List.cons_ne_nil last []), List.map_append, List.map_singleton, hlast]
  rfl

theorem deeper (h : Whole part) : Whole (deeper part) := by
  refine ⟨deeper_ne_nil part, ?_⟩
  intro line hline
  rw [getLast?_deeper h.hne] at hline
  obtain ⟨last, hlast, rfl⟩ := Option.map_eq_some_iff.1 hline
  exact h.hlast last hlast

theorem sink (h : Whole part) (depth : Nat) : Whole (sink depth part) := by
  induction depth with
  | zero => exact h
  | succ depth ih => exact ih.deeper

theorem line (depth : Nat) (hreturn : '\r' ∉ t) : Whole (line depth t) := by
  refine ⟨line_ne_nil depth t, ?_⟩
  intro other hother
  rw [← Option.some.inj hother]
  exact stripReturn_of_not_mem hreturn

/-- The lines of a text are whole if the text does not end in a break. -/
theorem ofText {c : Char} (hlast : t.getLast? = some c) (hc : c ≠ '\r' ∧ c ≠ '\n') : Whole (ofText t) := by
  refine ⟨ofText_ne_nil t, ?_⟩
  intro line hline
  rw [Layout.ofText, List.getLast?_map] at hline
  obtain ⟨last, hsplit, rfl⟩ := Option.map_eq_some_iff.1 hline
  rw [stripReturn, if_neg]
  intro hreturn
  exact hc.1 (Option.some.inj ((getLast?_splitOn hlast hc.2 last hsplit).symm.trans hreturn))

/-- A part that is whole stays a part on the way down. -/
theorem infix_deeper (h : Whole part) (hpart : part <:+: layout) :
    Layout.deeper part <:+: Layout.deeper layout := by
  obtain ⟨front, back, rfl⟩ := hpart
  rw [List.append_assoc, deeper_append front (List.append_ne_nil_of_left_ne_nil h.hne back)]
  apply List.infix_append_of_infix_right
  by_cases hback : back = []
  · have hwhole : part ++ back = part := by rw [hback, List.append_nil]
    exact hwhole.symm ▸ List.infix_rfl
  · rw [deeper_append part hback, ← h.deeper_eq_map]
    exact (List.prefix_append _ _).isInfix

theorem infix_sink (h : Whole part) (hpart : part <:+: layout) (depth : Nat) :
    Layout.sink depth part <:+: Layout.sink depth layout := by
  induction depth with
  | zero => exact hpart
  | succ depth ih => exact (h.sink depth).infix_deeper ih

end Whole

/-! ### Layouts without breaks -/

def Unbroken (layout : Layout) : Prop :=
  ∀ line ∈ layout, line.2.Unbroken

theorem Unbroken.append (hfront : Unbroken front) (hback : Unbroken back) :
    Unbroken (front ++ back) := by
  intro line hline
  rcases List.mem_append.1 hline with hline | hline
  · exact hfront line hline
  · exact hback line hline

theorem Unbroken.line {depth : Nat} (h : t.Unbroken) : Unbroken (line depth t) := by
  intro other hother
  rw [List.mem_singleton.1 hother]
  exact h

theorem Unbroken.flatMap {α : Type} {f : α → Layout} {items : List α}
    (h : ∀ item ∈ items, Unbroken (f item)) : Unbroken (items.flatMap f) := by
  intro line hline
  obtain ⟨item, hitem, hline⟩ := List.mem_flatMap.1 hline
  exact h item hitem line hline

theorem Unbroken.map {items : List Text} (h : ∀ item ∈ items, item.Unbroken) (depth : Nat) :
    Unbroken (items.map fun item => (depth, item)) := by
  intro line hline
  obtain ⟨item, hitem, rfl⟩ := List.mem_map.1 hline
  exact h item hitem

theorem deeper_of_unbroken (h : Unbroken layout) (hne : layout ≠ []) : deeper layout = shift layout := by
  induction layout with
  | nil => exact absurd rfl hne
  | cons line layout ih =>
    obtain ⟨hline, hrest⟩ := List.forall_mem_cons.1 h
    cases layout with
    | nil => rfl
    | cons next rest =>
      show (line.1 + 1, stripReturn line.2) :: deeper (next :: rest) = _
      rw [stripReturn_of_not_mem hline.1, ih hrest (List.cons_ne_nil next rest)]
      rfl

theorem ofText_of_unbroken (h : t.Unbroken) : ofText t = line 0 t :=
  ofText_of_not_mem h.2

theorem flatMap_ofText {items : List Text} (h : ∀ item ∈ items, item.Unbroken) :
    items.flatMap ofText = items.map fun item => (0, item) := by
  induction items with
  | nil => rfl
  | cons item items ih =>
    obtain ⟨hitem, hitems⟩ := List.forall_mem_cons.1 h
    rw [List.flatMap_cons, ofText_of_unbroken hitem, ih hitems]
    rfl

theorem shift_append (front back : Layout) : shift (front ++ back) = shift front ++ shift back :=
  List.map_append

theorem shift_flatMap {α : Type} (f : α → Layout) (items : List α) :
    shift (items.flatMap f) = items.flatMap fun item => shift (f item) :=
  List.map_flatMap

end Layout

end TableModel
