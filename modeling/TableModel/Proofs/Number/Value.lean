import Mathlib.Algebra.Order.Field.Power
import Mathlib.Data.List.TakeWhile
import Mathlib.Tactic.FieldSimp
import Mathlib.Tactic.Linarith
import Mathlib.Tactic.Ring
import TableModel.Proofs.Number.Text

/-!
# The value of a number's text

Every text that a binary64 number is written with stands for a rational number: its digits without the
point, divided by a power of ten for each digit behind the point, and multiplied by the power of ten
behind the exponent mark. However the digits are laid out, they stand for the same number.
-/

namespace TableModel

variable {front back whole fraction digits t : Text} {mark : Char}

def Text.natural (digits : Text) : Nat :=
  Nat.ofDigitChars 10 digits 0

def Text.power : Text → Int
  | 'e' :: '-' :: digits => -(Text.natural digits : Int)
  | 'e' :: '+' :: digits => Text.natural digits
  | _ => 0

/-- The value of digits with a point in between. -/
def Text.pointed (t : Text) : ℚ :=
  let fraction := (t.dropWhile (· != '.')).drop 1
  Text.natural (t.takeWhile (· != '.') ++ fraction) * 10 ^ (-fraction.length : Int)

def Text.value (t : Text) : ℚ :=
  Text.pointed (t.takeWhile (· != 'e')) * 10 ^ Text.power (t.dropWhile (· != 'e'))

namespace Text

/-! ### Reading -/

theorem all_ne (h : mark ∉ front) : ∀ c ∈ front, (c != mark) = true := by
  intro c hc
  rw [bne_iff_ne]
  intro heq
  exact h (heq ▸ hc)

theorem takeWhile_mark (h : mark ∉ front) : (front ++ mark :: back).takeWhile (· != mark) = front := by
  rw [List.takeWhile_append_of_pos (all_ne h), List.takeWhile_cons_of_neg, List.append_nil]
  rw [bne_self_eq_false]
  decide

theorem dropWhile_mark (h : mark ∉ front) :
    (front ++ mark :: back).dropWhile (· != mark) = mark :: back := by
  rw [List.dropWhile_append_of_pos (all_ne h), List.dropWhile_cons_of_neg]
  rw [bne_self_eq_false]
  decide

theorem takeWhile_all (h : mark ∉ front) : front.takeWhile (· != mark) = front :=
  List.takeWhile_eq_self_iff.2 (all_ne h)

theorem dropWhile_all (h : mark ∉ front) : front.dropWhile (· != mark) = [] :=
  List.dropWhile_eq_nil_iff.2 (all_ne h)

theorem pointed_point (h : '.' ∉ whole) (fraction : Text) :
    pointed (whole ++ '.' :: fraction) = natural (whole ++ fraction) * 10 ^ (-fraction.length : Int) := by
  rw [pointed, takeWhile_mark h, dropWhile_mark h]
  rfl

theorem pointed_whole (h : '.' ∉ whole) : pointed whole = natural whole := by
  rw [pointed, takeWhile_all h, dropWhile_all h, List.drop_nil, List.append_nil, List.length_nil]
  simp

theorem value_of_not_mem (h : 'e' ∉ t) : value t = pointed t := by
  rw [value, takeWhile_all h, dropWhile_all h]
  simp [power]

theorem value_power (h : 'e' ∉ t) (rest : Text) :
    value (t ++ 'e' :: rest) = pointed t * 10 ^ power ('e' :: rest) := by
  rw [value, takeWhile_mark h, dropWhile_mark h]

theorem natural_append (front back : Text) :
    natural (front ++ back) = natural front * 10 ^ back.length + natural back := by
  rw [natural, Nat.ofDigitChars_append, Nat.ofDigitChars_eq_ofDigitChars_zero, Nat.mul_comm]
  rfl

theorem natural_zeros (n : Nat) : natural (List.replicate n '0') = 0 := by
  rw [natural, Nat.ofDigitChars_replicate_zero, Nat.mul_zero]

theorem natural_ofNat (n : Nat) : natural (ofNat n) = n :=
  Nat.ofDigitChars_ten_toDigits

/-! ### Texts of digits -/

theorem not_mem_digits (h : ∀ c ∈ digits, c.isDigit) (hmark : mark.isDigit = false) : mark ∉ digits := by
  intro hmem
  have hdigit := h mark hmem
  rw [hmark] at hdigit
  cases hdigit

theorem isDigit_zeros (n : Nat) : ∀ c ∈ List.replicate n '0', c.isDigit := by
  intro c hc
  rw [List.eq_of_mem_replicate hc]
  decide

theorem isDigit_append (hfront : ∀ c ∈ front, c.isDigit) (hback : ∀ c ∈ back, c.isDigit) :
    ∀ c ∈ front ++ back, c.isDigit := by
  intro c hc
  exact (List.mem_append.1 hc).elim (hfront c) (hback c)

theorem value_positional (hwhole : ∀ c ∈ whole, c.isDigit) (hfraction : ∀ c ∈ fraction, c.isDigit) :
    value (whole ++ '.' :: fraction) = natural (whole ++ fraction) * 10 ^ (-fraction.length : Int) := by
  have hmark : 'e' ∉ whole ++ '.' :: fraction := by
    intro hmem
    rcases List.mem_append.1 hmem with hmem | hmem
    · exact not_mem_digits hwhole (by decide) hmem
    · rcases List.mem_cons.1 hmem with hmem | hmem
      · exact absurd hmem (by decide)
      · exact not_mem_digits hfraction (by decide) hmem
  rw [value_of_not_mem hmark, pointed_point (not_mem_digits hwhole (by decide))]

theorem power_sign (n : Int) :
    power ('e' :: ((if n < 0 then ['-'] else ['+']) ++ ofNat n.natAbs)) = n := by
  split
  · rename_i h
    show -(natural (ofNat n.natAbs) : Int) = n
    rw [natural_ofNat]
    omega
  · rename_i h
    show (natural (ofNat n.natAbs) : Int) = n
    rw [natural_ofNat]
    omega

/-- The digits of a scientific text with the point behind the first of them. -/
def mantissa (digits : Text) : Text :=
  digits.take 1 ++ if digits.length ≤ 1 then [] else '.' :: digits.drop 1

theorem pointed_mantissa (h : ∀ c ∈ digits, c.isDigit) (hne : digits ≠ []) :
    pointed (mantissa digits) = natural digits * 10 ^ (1 - digits.length : Int) := by
  have hpos : 0 < digits.length := List.length_pos_of_ne_nil hne
  have hmark : '.' ∉ digits := not_mem_digits h (by decide)
  rw [mantissa]
  split
  · rename_i hlength
    have hone : digits.length = 1 := by omega
    rw [List.append_nil, List.take_of_length_le hlength, pointed_whole hmark, hone]
    simp
  · rw [pointed_point fun hmem => hmark (List.mem_of_mem_take hmem), List.take_append_drop,
      List.length_drop]
    congr 2
    omega

theorem not_mem_mantissa (h : ∀ c ∈ digits, c.isDigit) : 'e' ∉ mantissa digits := by
  have hmark : 'e' ∉ digits := not_mem_digits h (by decide)
  intro hmem
  rcases List.mem_append.1 hmem with hmem | hmem
  · exact hmark (List.mem_of_mem_take hmem)
  · split at hmem
    · exact absurd hmem List.not_mem_nil
    · rcases List.mem_cons.1 hmem with hmem | hmem
      · exact absurd hmem (by decide)
      · exact hmark (List.mem_of_mem_drop hmem)

/-! ### The forms of a layout -/

theorem value_whole (h : ∀ c ∈ digits, c.isDigit) (n : Nat) :
    value (digits ++ List.replicate n '0' ++ ".0") = natural digits * 10 ^ (n : Int) := by
  have hwhole := isDigit_append h (isDigit_zeros n)
  have hfraction : ∀ c ∈ ['0'], c.isDigit := isDigit_zeros 1
  have hlast : natural ['0'] = 0 := rfl
  have hvalue := value_positional hwhole hfraction
  rw [natural_append, natural_append, natural_zeros, List.length_replicate, hlast] at hvalue
  refine hvalue.trans ?_
  push_cast
  rw [List.length_singleton, zpow_natCast, zpow_neg, Nat.cast_one, zpow_one]
  ring

theorem value_split (h : ∀ c ∈ digits, c.isDigit) {n : Nat} (hn : n ≤ digits.length) :
    value (digits.take n ++ "." ++ digits.drop n) = natural digits * 10 ^ (n - digits.length : Int) := by
  have hwhole : ∀ c ∈ digits.take n, c.isDigit := fun c hc => h c (List.mem_of_mem_take hc)
  have hfraction : ∀ c ∈ digits.drop n, c.isDigit := fun c hc => h c (List.mem_of_mem_drop hc)
  have hvalue := value_positional hwhole hfraction
  rw [List.take_append_drop, List.length_drop] at hvalue
  rw [List.append_assoc]
  refine hvalue.trans ?_
  congr 2
  omega

theorem value_fraction (h : ∀ c ∈ digits, c.isDigit) (n : Nat) :
    value ("0." ++ List.replicate n '0' ++ digits) =
      natural digits * 10 ^ (-(n + digits.length) : Int) := by
  have hwhole : ∀ c ∈ ['0'], c.isDigit := isDigit_zeros 1
  have hfraction := isDigit_append (isDigit_zeros n) h
  have hfirst : natural ['0'] = 0 := rfl
  have hvalue := value_positional hwhole hfraction
  rw [natural_append, natural_append, natural_zeros, hfirst, List.length_append,
    List.length_replicate] at hvalue
  rw [List.append_assoc]
  refine hvalue.trans ?_
  simp

theorem value_scientific (h : ∀ c ∈ digits, c.isDigit) (hne : digits ≠ []) (leading : Int) :
    value (mantissa digits ++ 'e' :: ((if leading < 0 then ['-'] else ['+']) ++ ofNat leading.natAbs)) =
      natural digits * 10 ^ (leading + 1 - digits.length) := by
  have hten : (10 : ℚ) ≠ 0 := by norm_num
  rw [value_power (not_mem_mantissa h), power_sign, pointed_mantissa h hne, mul_assoc, ← zpow_add₀ hten]
  congr 2
  ring

end Text

open Text

/-- A layout stands for its digits times the power of ten that they count. -/
theorem Binary64.value_layout (h : ∀ c ∈ digits, c.isDigit) (hne : digits ≠ []) (exponent : Int) :
    (layout digits exponent).value = natural digits * 10 ^ exponent := by
  have hpos : 0 < digits.length := List.length_pos_of_ne_nil hne
  rw [layout]
  split
  · split
    · rename_i hexponent
      rw [value_whole h, Int.toNat_of_nonneg hexponent]
    · rename_i hexponent
      split
      · rename_i hleading
        rw [value_split h (by omega)]
        congr 2
        omega
      · rw [value_fraction h]
        congr 2
        omega
  · have hscientific := value_scientific h hne (exponent + digits.length - 1)
    have hexponent : exponent + digits.length - 1 + 1 - digits.length = exponent := by omega
    rw [hexponent] at hscientific
    rw [← hscientific]
    show value (mantissa digits ++ ['e'] ++ (if exponent + digits.length - 1 < 0 then ['-'] else ['+']) ++
      Text.ofNat (exponent + digits.length - 1).natAbs) = _
    rw [List.append_assoc, List.append_assoc]
    rfl

end TableModel
