import TableModel.Text.Basic

/-!
# Lines

How a text falls into lines, and how a block of lines is indented. A line ends at a line feed, and one
carriage return just before the line feed belongs to the break; any other carriage return is an
ordinary character. A break at the very end of a text starts no further line, so the empty text has no
line at all, and indenting a text drops its last break.
-/

namespace TableModel

namespace Text

/-- The lines of a text, without their breaks. -/
def lines : Text → List Text
  | [] => []
  | '\n' :: rest => [] :: lines rest
  | '\r' :: '\n' :: rest => [] :: lines rest
  | c :: rest =>
    match lines rest with
    | [] => [[c]]
    | line :: more => (c :: line) :: more

theorem lines_eq_singleton {t : Text} (ne : t ≠ []) (unbroken : '\n' ∉ t) : t.lines = [t] := by
  fun_induction lines t with
  | case1 => exact absurd rfl ne
  | case2 => simp at unbroken
  | case3 => simp at unbroken
  | case4 c rest _ _ none ih =>
    cases rest with
    | nil => rfl
    | cons d rest => simp_all
  | case5 c rest _ _ line more lines ih =>
    cases rest with
    | nil => simp [Text.lines] at lines
    | cons d rest => simp_all

/-- The texts with a line feed between neighbours. -/
def joinLines (ts : List Text) : Text :=
  List.intercalate "\n" ts

/-- The text with `unit` in front of each of its lines, empty ones too. -/
def indent (unit : Text) (t : Text) : Text :=
  joinLines (t.lines.map (unit ++ ·))

def spaces (width : Nat) : Text :=
  List.replicate width ' '

end Text

end TableModel
