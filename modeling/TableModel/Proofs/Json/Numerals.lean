import Mathlib.Tactic.IntervalCases
import TableModel.Proofs.Json.Grammar
import TableModel.Proofs.Json.Scalars
import TableModel.Proofs.Number.Text

/-!
# Reading numbers

The reader of a numeral accepts exactly the forms of a numeral, in front of anything that does not go on
with it. An integer of 64 bits in its own digits is such a form, and its value is the integer: the digits
are taken into a significand that never overflows on the way, since the significand only grows.
-/

namespace TableModel

namespace Read

open Json

variable {unfinished : SyntaxError} {x : Numeral} {s t rest : Text}
variable {fraction : Option Text} {exponent : Option (Bool × Text)} {n : Nat}

/-- A text does not go on with the numeral in front of it. -/
def EndsNumeral (rest : Text) : Prop :=
  ∀ c ∈ rest.head?, c.isDigit = false ∧ c ≠ '.' ∧ c ≠ 'e' ∧ c ≠ 'E'

def EndsDigits (rest : Text) : Prop :=
  ∀ c ∈ rest.head?, c.isDigit = false

theorem EndsNumeral.endsDigits (h : EndsNumeral rest) : EndsDigits rest :=
  fun c hc => (h c hc).1

/-! ### Parts of numerals -/

theorem digits_append (hdigits : ∀ c ∈ t, c.isDigit) (hrest : EndsDigits rest) :
    digits (t ++ rest) = (t, rest) := by
  have hstop : digits rest = ([], rest) := by
    cases rest with
    | nil => rfl
    | cons c rest => simp [digits, hrest c rfl]
  rw [digits, Prod.mk.injEq] at hstop
  rw [digits, List.takeWhile_append_of_pos hdigits, List.dropWhile_append_of_pos hdigits, hstop.1, hstop.2,
    List.append_nil]

theorem someDigits_append (h : Digits t) (hrest : EndsDigits rest) :
    someDigits unfinished (t ++ rest) = .ok (t, rest) := by
  obtain ⟨hne, hdigits⟩ := h
  obtain ⟨c, u, rfl⟩ := List.exists_cons_of_ne_nil hne
  have hread := digits_append hdigits hrest
  rw [List.cons_append] at hread ⊢
  rw [someDigits, if_pos (hdigits c List.mem_cons_self), hread]

theorem exists_digits (h : someDigits unfinished s = .ok (t, rest)) : s = t ++ rest ∧ Digits t := by
  cases s with
  | nil => cases h
  | cons c s =>
    simp only [someDigits] at h
    split_ifs at h with hc
    · obtain ⟨ht, hrest⟩ := Prod.mk.inj (Except.ok.inj h)
      subst ht hrest
      refine ⟨(List.takeWhile_append_dropWhile).symm, ?_, fun d hd => List.mem_takeWhile_imp hd⟩
      simp [hc]
    · cases h

theorem fractionPart_append (h : FractionSpelling fraction t) (hrest : EndsDigits rest)
    (hpoint : rest.head? ≠ some '.') : fractionPart unfinished (t ++ rest) = .ok (fraction, rest) := by
  cases h with
  | none => exact fractionPart_of_ne hpoint
  | some hdigits => simp [fractionPart, someDigits_append hdigits hrest, bind, Except.bind]

theorem exists_fraction (h : fractionPart unfinished s = .ok (fraction, rest)) :
    ∃ t, s = t ++ rest ∧ FractionSpelling fraction t := by
  by_cases hpoint : s.head? = some '.'
  · obtain ⟨u, rfl⟩ := List.head?_eq_some_iff.1 hpoint
    obtain ⟨⟨digits, mid⟩, hdigits, hlast⟩ := bind_eq_ok.1 h
    cases hlast
    obtain ⟨rfl, hall⟩ := exists_digits hdigits
    exact ⟨'.' :: digits, rfl, .some hall⟩
  · rw [fractionPart_of_ne hpoint] at h
    cases h
    exact ⟨[], rfl, .none⟩

def exponentDigits (unfinished : SyntaxError) : Read (Option (Bool × Text)) := fun s => do
  let (digits, rest) ← someDigits unfinished (exponentSign s).2
  .ok (some ((exponentSign s).1, digits), rest)

theorem exponentPart_mark {mark : Char} (hmark : mark = 'e' ∨ mark = 'E') (s : Text) :
    exponentPart unfinished (mark :: s) = exponentDigits unfinished s := by
  rw [exponentPart, if_pos hmark]
  rfl

theorem exponentPart_of_ne (hsmall : rest.head? ≠ some 'e') (hcapital : rest.head? ≠ some 'E') :
    exponentPart unfinished rest = .ok (none, rest) := by
  cases rest with
  | nil => rfl
  | cons c rest =>
    rw [exponentPart, if_neg]
    rintro (rfl | rfl)
    · exact hsmall rfl
    · exact hcapital rfl

theorem exponentDigits_append {below : Bool} {digits : Text}
    (hsign : exponentSign (t ++ rest) = (below, digits ++ rest))
    (hdigits : Digits digits) (hrest : EndsDigits rest) :
    exponentDigits unfinished (t ++ rest) = .ok (some (below, digits), rest) := by
  rw [exponentDigits, hsign, someDigits_append hdigits hrest]
  rfl

theorem exponentSign_digits {digits : Text} (h : Digits digits) (rest : Text) :
    exponentSign (digits ++ rest) = (false, digits ++ rest) := by
  obtain ⟨hne, hdigits⟩ := h
  obtain ⟨c, u, rfl⟩ := List.exists_cons_of_ne_nil hne
  have hc := hdigits c List.mem_cons_self
  apply exponentSign_of_ne
  · rintro ⟨⟩
    cases hc
  · rintro ⟨⟩
    cases hc

theorem exponentPart_append (h : ExponentSpelling exponent t) (hrest : EndsNumeral rest) :
    exponentPart unfinished (t ++ rest) = .ok (exponent, rest) := by
  cases h with
  | none =>
    apply exponentPart_of_ne
    · exact fun h => (hrest 'e' h).2.2.1 rfl
    · exact fun h => (hrest 'E' h).2.2.2 rfl
  | unsigned hmark hdigits =>
    rw [List.cons_append, exponentPart_mark hmark]
    exact exponentDigits_append (exponentSign_digits hdigits rest) hdigits hrest.endsDigits
  | @plus mark digits hmark hdigits =>
    rw [List.cons_append, exponentPart_mark hmark]
    exact exponentDigits_append (t := '+' :: digits) rfl hdigits hrest.endsDigits
  | @minus mark digits hmark hdigits =>
    rw [List.cons_append, exponentPart_mark hmark]
    exact exponentDigits_append (t := '-' :: digits) rfl hdigits hrest.endsDigits

theorem exists_exponent (h : exponentPart unfinished s = .ok (exponent, rest)) :
    ∃ t, s = t ++ rest ∧ ExponentSpelling exponent t := by
  cases s with
  | nil =>
    cases h
    exact ⟨[], rfl, .none⟩
  | cons mark s =>
    by_cases hmark : mark = 'e' ∨ mark = 'E'
    · rw [exponentPart_mark hmark] at h
      obtain ⟨⟨digits, mid⟩, hdigits, hlast⟩ := bind_eq_ok.1 h
      cases hlast
      obtain ⟨hs, hall⟩ := exists_digits hdigits
      unfold exponentSign at hs ⊢
      split at hs <;> dsimp only at hs
      · exact ⟨mark :: '-' :: digits, by simp [hs], .minus hmark hall⟩
      · exact ⟨mark :: '+' :: digits, by simp [hs], .plus hmark hall⟩
      · exact ⟨mark :: digits, by simp [hs], .unsigned hmark hall⟩
    · rw [exponentPart, if_neg hmark] at h
      cases h
      exact ⟨[], rfl, .none⟩

/-! ### Numerals -/

theorem head?_digits_append (h : Digits t) (rest : Text) : ∃ c ∈ (t ++ rest).head?, c.isDigit = true := by
  obtain ⟨hne, hdigits⟩ := h
  obtain ⟨c, u, rfl⟩ := List.exists_cons_of_ne_nil hne
  exact ⟨c, rfl, hdigits c List.mem_cons_self⟩

/-- What stands behind the whole part of a numeral starts with no digit. -/
theorem endsDigits_behind {behindPoint behindMark : Text} (hfraction : FractionSpelling fraction behindPoint)
    (hexponent : ExponentSpelling exponent behindMark) (hrest : EndsNumeral rest) :
    EndsDigits (behindPoint ++ (behindMark ++ rest)) ∧ EndsDigits (behindMark ++ rest) ∧
      (behindMark ++ rest).head? ≠ some '.' := by
  have hmark : EndsDigits (behindMark ++ rest) ∧ (behindMark ++ rest).head? ≠ some '.' := by
    cases hexponent with
    | none => exact ⟨hrest.endsDigits, fun h => (hrest '.' h).2.1 rfl⟩
    | unsigned hmark => rcases hmark with rfl | rfl <;> simp [EndsDigits]
    | plus hmark => rcases hmark with rfl | rfl <;> simp [EndsDigits]
    | minus hmark => rcases hmark with rfl | rfl <;> simp [EndsDigits]
  cases hfraction with
  | none => exact ⟨hmark.1, hmark⟩
  | some => exact ⟨by simp [EndsDigits], hmark⟩

theorem leadingMinus_append (negative : Bool) (h : Digits t) (rest : Text) :
    leadingMinus ((if negative then ['-'] else []) ++ (t ++ rest)) = (negative, t ++ rest) := by
  cases negative with
  | true => rfl
  | false =>
    obtain ⟨c, hc, hdigit⟩ := head?_digits_append h rest
    apply leadingMinus_of_ne
    show (t ++ rest).head? ≠ some '-'
    intro hminus
    rw [hminus] at hc
    cases hc
    cases hdigit

theorem wholePart_append (h : Digits t) (hzero : t.head? = some '0' → t.length = 1) (hrest : EndsDigits rest) :
    wholePart unfinished (t ++ rest) = .ok (t, rest) := by
  have hlength : ¬(t.head? = some '0' ∧ 1 < t.length) := by
    rintro ⟨hhead, hlong⟩
    have := hzero hhead
    omega
  simp only [wholePart, someDigits_append h hrest, bind, Except.bind, if_neg hlength]

theorem numeral_of_spelling (h : NumeralSpelling x t) (hrest : EndsNumeral rest) :
    numeral unfinished (t ++ rest) = .ok (x, rest) := by
  cases h with
  | @parts negative whole fraction exponent behindPoint behindMark hwhole hzero hfraction hexponent =>
    obtain ⟨hpoint, hmark, hne⟩ := endsDigits_behind hfraction hexponent hrest
    rw [numeral_eq, List.append_assoc, List.append_assoc, List.append_assoc, leadingMinus_append negative hwhole,
      unsigned]
    simp only [wholePart_append hwhole hzero hpoint, fractionPart_append hfraction hmark hne,
      exponentPart_append hexponent hrest, bind, Except.bind]

theorem exists_numeralSpelling (h : numeral unfinished s = .ok (x, rest)) :
    ∃ t, s = t ++ rest ∧ NumeralSpelling x t := by
  have hs : s = (if (leadingMinus s).1 then ['-'] else []) ++ (leadingMinus s).2 := by
    by_cases hminus : s.head? = some '-'
    · obtain ⟨u, rfl⟩ := List.head?_eq_some_iff.1 hminus
      rfl
    · rw [leadingMinus_of_ne hminus]
      rfl
  rw [numeral_eq, unsigned] at h
  obtain ⟨⟨whole, afterWhole⟩, hwhole, h⟩ := bind_eq_ok.1 h
  obtain ⟨⟨fraction, afterPoint⟩, hfraction, h⟩ := bind_eq_ok.1 h
  obtain ⟨⟨exponent, afterMark⟩, hexponent, hlast⟩ := bind_eq_ok.1 h
  cases hlast
  obtain ⟨⟨digits, mid⟩, hdigits, hchecked⟩ := bind_eq_ok.1 hwhole
  dsimp only at hchecked hfraction hexponent
  split_ifs at hchecked with hzero
  · cases hchecked
  · cases hchecked
    obtain ⟨hbody, hall⟩ := exists_digits hdigits
    obtain ⟨behindPoint, rfl, hpoint⟩ := exists_fraction hfraction
    obtain ⟨behindMark, rfl, hmark⟩ := exists_exponent hexponent
    refine ⟨_, ?_, @NumeralSpelling.parts (leadingMinus s).1 _ _ _ _ _ hall ?_ hpoint hmark⟩
    · conv_lhs => rw [hs, hbody]
      simp only [List.append_assoc]
    · intro hhead
      have := List.length_pos_of_ne_nil hall.1
      by_contra hlong
      exact hzero ⟨hhead, by omega⟩

/-! ### Integers -/

theorem le_ofDigitChars (digits : Text) (n : Nat) : n ≤ Nat.ofDigitChars 10 digits n := by
  rw [Nat.ofDigitChars_eq_ofDigitChars_zero]
  have : n ≤ 10 ^ digits.length * n := Nat.le_mul_of_pos_left n (Nat.pow_pos (by decide))
  omega

theorem absorb_eq (h : Nat.ofDigitChars 10 t n < UInt64.size) :
    Numeral.absorb n t = (Nat.ofDigitChars 10 t n, 0) := by
  induction t generalizing n with
  | nil => rfl
  | cons c t ih =>
    have hnext : n * 10 + Numeral.digitValue c = 10 * n + (c.toNat - '0'.toNat) := by
      rw [Numeral.digitValue]
      omega
    rw [Nat.ofDigitChars_cons, ← hnext] at h ⊢
    have := le_ofDigitChars t (n * 10 + Numeral.digitValue c)
    rw [Numeral.absorb]
    simp only [if_pos (show n * 10 + Numeral.digitValue c < UInt64.size by omega)]
    exact ih h

theorem head?_ofNat_ne_zero (h : 0 < n) : (Text.ofNat n).head? ≠ some '0' := by
  induction n using Nat.strong_induction_on with
  | _ n ih =>
    rw [Text.ofNat]
    by_cases hlow : n < 10
    · rw [Nat.toDigits_of_lt_base hlow]
      interval_cases n <;> decide
    · rw [Nat.toDigits_of_base_le (by decide) (by omega), List.head?_append_of_ne_nil]
      · exact ih (n / 10) (by omega) (by omega)
      · exact Nat.toDigits_ne_nil

theorem digits_ofNat (n : Nat) :
    Digits (Text.ofNat n) ∧ ((Text.ofNat n).head? = some '0' → (Text.ofNat n).length = 1) := by
  refine ⟨⟨Nat.toDigits_ne_nil, Text.isDigit_ofNat n⟩, fun hhead => ?_⟩
  obtain rfl | hpos := Nat.eq_zero_or_pos n
  · rfl
  · exact absurd hhead (head?_ofNat_ne_zero hpos)

/-- The digits of an integer as a numeral. -/
def integerNumeral (n : Int) : Numeral :=
  { negative := n < 0, whole := Text.ofNat n.natAbs, fraction := none, exponent := none }

theorem numeralSpelling_ofInt (n : Int) : NumeralSpelling (integerNumeral n) (Text.ofInt n) := by
  obtain ⟨hdigits, hzero⟩ := digits_ofNat n.natAbs
  have h := @NumeralSpelling.parts (n < 0) _ _ _ _ _ hdigits hzero .none .none
  cases n with
  | ofNat n => simpa [integerNumeral, Text.ofInt, Int.not_lt.2 (Int.natCast_nonneg n)] using h
  | negSucc n => simpa [integerNumeral, Text.ofInt, Int.negSucc_lt_zero n] using h

theorem value?_integerNumeral {n : Int} (h : InRange n) : (integerNumeral n).value? = some (.integer n) := by
  obtain ⟨hlow, hhigh⟩ := h
  have hsize : UInt64.size = 18446744073709551616 := rfl
  have habsorb : Numeral.absorb 0 (Text.ofNat n.natAbs) = (n.natAbs, 0) := by
    have hvalue : Nat.ofDigitChars 10 (Text.ofNat n.natAbs) 0 = n.natAbs := Nat.ofDigitChars_ten_toDigits
    rw [absorb_eq, hvalue]
    rw [hvalue]
    omega
  rw [Numeral.value?]
  simp only [integerNumeral, habsorb, and_self, if_true, Numeral.integer]
  split_ifs with hsign hrange
  · simp at hsign
    exact congrArg _ (congrArg _ (by omega))
  · simp at hsign
    omega
  · simp at hsign
    exact congrArg _ (congrArg _ (by omega))

theorem number_of_spelling {value : Number} (h : NumeralSpelling x t) (hvalue : x.value? = some value)
    (hrest : EndsNumeral rest) : number (t ++ rest) = .ok (value, rest) := by
  simp only [number, numeral_of_spelling h hrest, bind, Except.bind, hvalue]

theorem exists_numberSpelling {value : Number} (h : number s = .ok (value, rest)) :
    ∃ x t, s = t ++ rest ∧ NumeralSpelling x t ∧ x.value? = some value := by
  obtain ⟨⟨x, mid⟩, hnumeral, hlast⟩ := bind_eq_ok.1 h
  obtain ⟨t, rfl, ht⟩ := exists_numeralSpelling hnumeral
  dsimp only at hlast
  split at hlast
  · rename_i hvalue
    cases hlast
    exact ⟨x, t, rfl, ht, hvalue⟩
  · cases hlast

end Read

end TableModel
