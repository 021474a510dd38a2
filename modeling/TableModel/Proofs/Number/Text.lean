import Mathlib.Data.List.Basic
import TableModel.Number.Basic

/-!
# The characters of a number

The text of a number has digits, signs, a point and the mark of an exponent. So there is neither a quote
nor a break in it, and it cannot be taken for a text.
-/

namespace TableModel

def isNumeric (c : Char) : Bool :=
  c.isDigit || c == '-' || c == '+' || c == '.' || c == 'e'

variable {c : Char} {digits front back : Text}

theorem Text.isDigit_ofNat (n : Nat) : ∀ c ∈ Text.ofNat n, c.isDigit := by
  intro c hc
  exact Nat.isDigit_of_mem_toDigits (by decide) (by decide) hc

def Text.Numeric (t : Text) : Prop :=
  t.all isNumeric

namespace Text.Numeric

instance (t : Text) : Decidable (Text.Numeric t) :=
  inferInstanceAs (Decidable (_ = _))

theorem iff_forall {t : Text} : Text.Numeric t ↔ ∀ c ∈ t, isNumeric c :=
  List.all_eq_true

theorem append (hfront : Text.Numeric front) (hback : Text.Numeric back) : Text.Numeric (front ++ back) := by
  rw [iff_forall] at *
  intro c hc
  rcases List.mem_append.1 hc with hc | hc
  · exact hfront c hc
  · exact hback c hc

theorem cons (hc : isNumeric c) (hback : Text.Numeric back) : Text.Numeric (c :: back) :=
  iff_forall.2 (List.forall_mem_cons.2 ⟨hc, iff_forall.1 hback⟩)

theorem ofNat (n : Nat) : Text.Numeric (Text.ofNat n) := by
  rw [iff_forall]
  intro c hc
  rw [isNumeric, Text.isDigit_ofNat n c hc]
  rfl

theorem take (h : Text.Numeric digits) (n : Nat) : Text.Numeric (digits.take n) :=
  iff_forall.2 fun c hc => iff_forall.1 h c (List.mem_of_mem_take hc)

theorem drop (h : Text.Numeric digits) (n : Nat) : Text.Numeric (digits.drop n) :=
  iff_forall.2 fun c hc => iff_forall.1 h c (List.mem_of_mem_drop hc)

theorem replicate (hc : isNumeric c) (n : Nat) : Text.Numeric (List.replicate n c) := by
  rw [iff_forall]
  intro d hd
  rw [List.eq_of_mem_replicate hd]
  exact hc

theorem layout (h : Text.Numeric digits) (exponent : Int) :
    Text.Numeric (Binary64.layout digits exponent) := by
  have hzeros (n : Nat) : Text.Numeric (List.replicate n '0') := replicate (by decide) n
  rw [Binary64.layout]
  split
  · split
    · exact (h.append (hzeros _)).append (by decide)
    · split
      · exact ((h.take _).append (by decide)).append (h.drop _)
      · exact (append (by decide) (hzeros _)).append h
  · refine ((((h.take 1).append ?_).append (by decide)).append ?_).append (ofNat _)
    · split
      · decide
      · exact cons (by decide) (h.drop 1)
    · split <;> decide

theorem magnitude (x : Binary64) : Text.Numeric x.text := by
  rw [Binary64.text]
  split
  · decide
  · exact layout (ofNat _) _

theorem number (n : Number) : Text.Numeric n.text := by
  cases n with
  | integer value =>
    cases value with
    | ofNat n => exact ofNat n
    | negSucc n => exact cons (by decide) (ofNat (n + 1))
  | real negative x =>
    rw [Number.text]
    split
    · exact cons (by decide) (magnitude x)
    · exact magnitude x

end Text.Numeric

theorem Number.not_mem_text (hc : isNumeric c = false) (n : Number) : c ∉ n.text := by
  intro hmem
  have hnumeric := Text.Numeric.iff_forall.1 (.number n) c hmem
  rw [hc] at hnumeric
  cases hnumeric

end TableModel
