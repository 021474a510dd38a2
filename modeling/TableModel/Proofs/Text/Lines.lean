import Mathlib.Data.List.Basic
import TableModel.Text.Lines

/-!
# Joining lines and indenting them

A text that was joined of lines falls into the same lines again, except that a carriage return at the
end of a line is lost to the break behind it. So indenting a joined text is a matter of its lines, and a
list of lines without line feeds can be read off the text joined of it.
-/

namespace TableModel

namespace Text

/-- There is no carriage return and no line feed in a text. -/
def Unbroken (t : Text) : Prop :=
  '\r' ∉ t ∧ '\n' ∉ t

instance (t : Text) : Decidable (Unbroken t) :=
  inferInstanceAs (Decidable (_ ∧ _))

theorem Unbroken.append {front back : Text} (hfront : Unbroken front) (hback : Unbroken back) :
    Unbroken (front ++ back) := by
  refine ⟨?_, ?_⟩
  · intro hmem
    exact (List.mem_append.1 hmem).elim hfront.1 hback.1
  · intro hmem
    exact (List.mem_append.1 hmem).elim hfront.2 hback.2

theorem Unbroken.nil : Unbroken [] :=
  ⟨List.not_mem_nil, List.not_mem_nil⟩

theorem Unbroken.not_mem {t : Text} (h : Unbroken t) {c : Char} (hc : c = '\r' ∨ c = '\n') : c ∉ t := by
  rcases hc with rfl | rfl
  · exact h.1
  · exact h.2

theorem Unbroken.flatMap {ts : List Text} {f : Text → Text} (h : ∀ t ∈ ts, (f t).Unbroken) :
    Unbroken (ts.flatMap f) := by
  induction ts with
  | nil => exact .nil
  | cons t ts ih =>
    obtain ⟨ht, hts⟩ := List.forall_mem_cons.1 h
    rw [List.flatMap_cons]
    exact ht.append (ih hts)

theorem not_mem_intercalate {c : Char} {separator : Text} (hseparator : c ∉ separator) {ts : List Text}
    (h : ∀ t ∈ ts, c ∉ t) : c ∉ List.intercalate separator ts := by
  induction ts with
  | nil => exact List.not_mem_nil
  | cons t ts ih =>
    obtain ⟨ht, hts⟩ := List.forall_mem_cons.1 h
    by_cases hnil : ts = []
    · rw [hnil, List.intercalate_singleton]
      exact ht
    · rw [List.intercalate_cons_of_ne_nil hnil, List.mem_append, List.mem_append, not_or, not_or]
      exact ⟨⟨ht, hseparator⟩, ih hts⟩

theorem Unbroken.intercalate {separator : Text} (hseparator : separator.Unbroken) {ts : List Text}
    (h : ∀ t ∈ ts, t.Unbroken) : Unbroken (List.intercalate separator ts) :=
  ⟨not_mem_intercalate hseparator.1 fun t ht => (h t ht).1, not_mem_intercalate hseparator.2 fun t ht => (h t ht).2⟩

def stripReturn (line : Text) : Text :=
  if line.getLast? = some '\r' then line.dropLast else line

/-- The lines without the carriage returns that stand before a break. -/
def stripReturns : List Text → List Text
  | [] => []
  | [line] => [line]
  | line :: next :: rest => stripReturn line :: stripReturns (next :: rest)

variable {line t : Text} {ls : List Text}

theorem stripReturn_of_not_mem (h : '\r' ∉ line) : stripReturn line = line := by
  rw [stripReturn, if_neg]
  intro hlast
  exact h (List.mem_of_getLast? hlast)

theorem stripReturn_cons {c : Char} (h : c ≠ '\r' ∨ line ≠ []) :
    stripReturn (c :: line) = c :: stripReturn line := by
  cases line with
  | nil =>
    have hc : c ≠ '\r' := h.resolve_right fun hne => hne rfl
    have hlast : ([c] : Text).getLast? ≠ some '\r' := fun hsome => hc (Option.some.inj hsome)
    rw [stripReturn, if_neg hlast]
    rfl
  | cons d line =>
    rw [stripReturn, stripReturn, List.getLast?_cons_cons]
    by_cases hlast : (d :: line).getLast? = some '\r'
    · rw [if_pos hlast, if_pos hlast]
      rfl
    · rw [if_neg hlast, if_neg hlast]

theorem stripReturn_append {front : Text} (h : '\r' ∉ front) (line : Text) :
    stripReturn (front ++ line) = front ++ stripReturn line := by
  induction front with
  | nil => rfl
  | cons c front ih =>
    obtain ⟨hc, hfront⟩ := not_or.1 (mt List.mem_cons.2 h)
    rw [List.cons_append, stripReturn_cons (.inl (Ne.symm hc)), ih hfront, List.cons_append]

theorem not_mem_stripReturn (h : '\n' ∉ line) : '\n' ∉ stripReturn line := by
  intro hmem
  rw [stripReturn] at hmem
  split at hmem
  · exact h ((List.dropLast_sublist line).subset hmem)
  · exact h hmem

/-! ### The lines of a joined text -/

theorem joinLines_singleton (line : Text) : joinLines [line] = line :=
  List.intercalate_singleton

theorem joinLines_cons (line : Text) (h : ls ≠ []) :
    joinLines (line :: ls) = line ++ '\n' :: joinLines ls := by
  rw [joinLines, List.intercalate_cons_of_ne_nil h, List.append_assoc]
  rfl

theorem joinLines_eq_flatMap (line : Text) (ls : List Text) :
    joinLines (line :: ls) = line ++ ls.flatMap ('\n' :: ·) := by
  induction ls generalizing line with
  | nil => rw [joinLines_singleton, List.flatMap_nil, List.append_nil]
  | cons next ls ih =>
    rw [joinLines_cons line (List.cons_ne_nil next ls), ih]
    rfl

theorem joinLines_append {more : List Text} (hls : ls ≠ []) (hmore : more ≠ []) :
    joinLines (ls ++ more) = joinLines ls ++ '\n' :: joinLines more := by
  induction ls with
  | nil => exact absurd rfl hls
  | cons line ls ih =>
    cases ls with
    | nil => rw [List.singleton_append, joinLines_cons line hmore, joinLines_singleton]
    | cons next rest =>
      have hrest : next :: rest ≠ [] := List.cons_ne_nil next rest
      rw [List.cons_append, joinLines_cons line (List.append_ne_nil_of_left_ne_nil hrest more),
        ih hrest, joinLines_cons line hrest, List.append_assoc, List.cons_append]

theorem joinLines_map_joinLines {blocks : List (List Text)} (h : ∀ block ∈ blocks, block ≠ []) :
    joinLines (blocks.map joinLines) = joinLines blocks.flatten := by
  induction blocks with
  | nil => rfl
  | cons block blocks ih =>
    obtain ⟨hblock, hblocks⟩ := List.forall_mem_cons.1 h
    cases blocks with
    | nil => rw [List.map_singleton, List.flatten_singleton, joinLines_singleton]
    | cons next rest =>
      have hrest : (next :: rest).flatten ≠ [] := by
        rw [List.flatten_cons]
        exact List.append_ne_nil_of_left_ne_nil (List.forall_mem_cons.1 hblocks).1 _
      have hmap : (next :: rest).map joinLines ≠ [] := List.cons_ne_nil _ _
      rw [List.map_cons, joinLines_cons _ hmap, ih hblocks]
      exact (joinLines_append hblock hrest).symm

theorem lines_append_break (h : '\n' ∉ line) (rest : Text) :
    lines (line ++ '\n' :: rest) = stripReturn line :: lines rest := by
  induction line with
  | nil => rfl
  | cons c line ih =>
    obtain ⟨hc, hline⟩ := not_or.1 (mt List.mem_cons.2 h)
    by_cases hreturn : c = '\r' ∧ line = []
    · obtain ⟨rfl, rfl⟩ := hreturn
      rfl
    · have hstrip : c ≠ '\r' ∨ line ≠ [] := by
        by_contra hboth
        obtain ⟨hc, hline⟩ := not_or.1 hboth
        exact hreturn ⟨not_not.1 hc, not_not.1 hline⟩
      rw [stripReturn_cons hstrip]
      have hbreak : ∀ more, c = '\r' → line ++ '\n' :: rest ≠ '\n' :: more := by
        intro more hc hmore
        cases line with
        | nil => exact hreturn ⟨hc, rfl⟩
        | cons d line => exact hline ((List.cons.inj hmore).1 ▸ List.mem_cons_self)
      rw [List.cons_append, Text.lines.eq_4 c _ (Ne.symm hc) hbreak, ih hline]

theorem lines_joinLines (h : ∀ line ∈ ls, '\n' ∉ line) (hlast : ∀ line ∈ ls.getLast?, line ≠ []) :
    lines (joinLines ls) = stripReturns ls := by
  induction ls with
  | nil => rfl
  | cons line ls ih =>
    obtain ⟨hline, hls⟩ := List.forall_mem_cons.1 h
    cases ls with
    | nil =>
      rw [joinLines_singleton]
      exact lines_eq_singleton (hlast line rfl) hline
    | cons next rest =>
      rw [List.getLast?_cons_cons] at hlast
      rw [joinLines_cons line (List.cons_ne_nil next rest), lines_append_break hline, ih hls hlast]
      rfl

theorem indent_joinLines (unit : Text) (h : ∀ line ∈ ls, '\n' ∉ line)
    (hlast : ∀ line ∈ ls.getLast?, line ≠ []) :
    indent unit (joinLines ls) = joinLines ((stripReturns ls).map (unit ++ ·)) := by
  rw [indent, lines_joinLines h hlast]

/-- The lines of a text can be told from it if there is no line feed in any. -/
theorem joinLines_inj {more : List Text} (hls : ls ≠ []) (hmore : more ≠ [])
    (hl : ∀ line ∈ ls, '\n' ∉ line) (hr : ∀ line ∈ more, '\n' ∉ line)
    (h : joinLines ls = joinLines more) : ls = more := by
  have hsplit : (joinLines ls).splitOn '\n' = (joinLines more).splitOn '\n' := by rw [h]
  have hleft : (joinLines ls).splitOn '\n' = ls := List.splitOn_intercalate '\n' hl hls
  have hright : (joinLines more).splitOn '\n' = more := List.splitOn_intercalate '\n' hr hmore
  rw [hleft, hright] at hsplit
  exact hsplit

theorem not_mem_of_mem_splitOn {c : Char} (h : line ∈ t.splitOn c) : c ∉ line := by
  induction t generalizing line with
  | nil =>
    rw [List.mem_singleton.1 h]
    exact List.not_mem_nil
  | cons d t ih =>
    obtain ⟨first, rest, hsplit⟩ := List.exists_cons_of_ne_nil (List.splitOn_ne_nil c t)
    rw [List.splitOn_cons_eq_if_modifyHead, hsplit] at h
    rw [hsplit] at ih
    split at h
    · rcases List.mem_cons.1 h with rfl | h
      · exact List.not_mem_nil
      · exact ih h
    · rename_i hd
      rcases List.mem_cons.1 h with rfl | h
      · intro hmem
        rcases List.mem_cons.1 hmem with rfl | hmem
        · exact hd (beq_self_eq_true c)
        · exact ih List.mem_cons_self hmem
      · exact ih (List.mem_cons_of_mem first h)

/-- The last line of a text ends as the text does, unless there is a break at the end. -/
theorem getLast?_splitOn {c : Char} (hlast : t.getLast? = some c) (hc : c ≠ '\n') :
    ∀ line ∈ (t.splitOn '\n').getLast?, line.getLast? = some c := by
  intro line hline
  obtain ⟨front, hfront⟩ := List.getLast?_eq_some_iff.1 hline
  have hjoin : joinLines (t.splitOn '\n') = t := List.intercalate_splitOn '\n'
  rw [hfront] at hjoin
  by_cases hnil : front = []
  · rw [hnil, List.nil_append, joinLines_singleton] at hjoin
    rw [hjoin]
    exact hlast
  · rw [joinLines_append hnil (List.cons_ne_nil line []), joinLines_singleton] at hjoin
    rw [← hjoin, List.getLast?_append_of_ne_nil _ (List.cons_ne_nil '\n' line)] at hlast
    by_cases hempty : line = []
    · rw [hempty] at hlast
      exact absurd (Option.some.inj hlast).symm hc
    · rw [List.getLast?_cons_of_ne_nil hempty] at hlast
      exact hlast

/-- Lines that were joined are still the lines of the text with another text behind them. -/
theorem splitOn_joinLines_append (hls : ls ≠ []) (h : ∀ line ∈ ls, '\n' ∉ line) (rest : Text) :
    (joinLines ls ++ '\n' :: rest).splitOn '\n' = ls ++ rest.splitOn '\n' := by
  induction ls with
  | nil => exact absurd rfl hls
  | cons line ls ih =>
    obtain ⟨hline, hlines⟩ := List.forall_mem_cons.1 h
    cases ls with
    | nil =>
      rw [joinLines_singleton, List.splitOn_append_cons_self_of_not_mem hline]
      rfl
    | cons next more =>
      have hmore : next :: more ≠ [] := List.cons_ne_nil next more
      rw [joinLines_cons line hmore, List.append_assoc, List.cons_append,
        List.splitOn_append_cons_self_of_not_mem hline, ih hmore hlines]
      rfl

end Text

end TableModel
