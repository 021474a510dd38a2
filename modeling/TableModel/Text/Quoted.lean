import TableModel.Text.Basic

/-!
# Quoted text

How text is put between single quotes in a generated script. A backslash goes in front of the first
quote and of no other, and a backslash in the text stays as it is. Text that has to stay on one line
has its carriage returns and line feeds written as escapes as well.
-/

namespace TableModel

namespace Text

/-- The text with a backslash in front of its first single quote. -/
def escapeQuote : Text → Text
  | [] => []
  | c :: rest => if c = '\'' then '\\' :: '\'' :: rest else c :: escapeQuote rest

/-- A text without a quote has nothing to escape. -/
theorem escapeQuote_eq_self {t : Text} (absent : '\'' ∉ t) : t.escapeQuote = t := by
  induction t with
  | nil => rfl
  | cons c rest ih =>
    have ne : c ≠ '\'' := fun h => absent (h ▸ List.mem_cons_self)
    have rest_absent : '\'' ∉ rest := fun h => absent (List.mem_cons_of_mem c h)
    rw [escapeQuote, if_neg ne, ih rest_absent]

/-- A character with a line break written as an escape. -/
def escapeBreak (c : Char) : Text :=
  if c = '\r' then "\\r" else if c = '\n' then "\\n" else [c]

/-- The text between single quotes, its first quote escaped. Line breaks stay as they are. -/
def inQuotes (t : Text) : Text :=
  "'" ++ t.escapeQuote ++ "'"

/-- The text between single quotes on one line, its first quote and its line breaks escaped. -/
def quote (t : Text) : Text :=
  "'" ++ t.escapeQuote.flatMap escapeBreak ++ "'"

end Text

end TableModel
