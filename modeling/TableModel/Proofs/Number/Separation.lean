import TableModel.Proofs.Number.Value

/-!
# Binary64 numbers are told apart by their texts

Around each number lie the decimals that round to it, up to the midpoints to its neighbours and with the
midpoints only if its significand is even. The text of a number stands for a decimal around it, so a
decimal around two numbers would have to be a midpoint of neighbours, and one of these has an odd
significand.
-/

namespace TableModel

namespace Binary64

variable {x y : Binary64} {q : ℚ}

/-- The significand and the exponent are those of the format. -/
structure Canonical (x : Binary64) : Prop where
  hsignificand : x.significand < 2 * leastSignificand
  hexponent : leastExponent ≤ x.exponent
  hleast : leastSignificand ≤ x.significand ∨ x.exponent = leastExponent

/-- The distance to the midpoint below, as a part of a unit in the last place. -/
def below (x : Binary64) : ℚ :=
  if x.significand = leastSignificand ∧ x.exponent ≠ leastExponent then 1 / 4 else 1 / 2

/-- A rational number rounds to the number. -/
structure Covers (x : Binary64) (q : ℚ) : Prop where
  hlow : (x.significand - x.below) * 2 ^ x.exponent ≤ q
  hhigh : q ≤ (x.significand + 1 / 2) * 2 ^ x.exponent
  hlowOdd : x.significand % 2 = 1 → (x.significand - x.below) * 2 ^ x.exponent < q
  hhighOdd : x.significand % 2 = 1 → q < (x.significand + 1 / 2) * 2 ^ x.exponent

/-! ### Midpoints -/

theorem below_le (x : Binary64) : x.below ≤ 1 / 2 := by
  rw [below]
  split <;> norm_num

/-- No decimal is around two numbers of the same exponent. -/
theorem Covers.absurd_of_significand_lt (hx : x.Covers q) (hy : y.Covers q)
    (hexponent : x.exponent = y.exponent) (h : x.significand < y.significand) : False := by
  have hunit : (0 : ℚ) < 2 ^ x.exponent := zpow_pos (by norm_num) _
  have hsucc : (x.significand : ℚ) + 1 ≤ y.significand := by exact_mod_cast h
  have hlow := hy.hlow
  have hhigh := hx.hhigh
  have hbelow := y.below_le
  rw [← hexponent] at hlow
  -- Both bounds meet only at the midpoint of neighbours, and one of these is odd.
  have hmeet : (y.significand : ℚ) - y.below ≤ x.significand + 1 / 2 :=
    le_of_mul_le_mul_right (hlow.trans hhigh) hunit
  have hnext : (y.significand : ℚ) = x.significand + 1 := by linarith
  have hnext : y.significand = x.significand + 1 := by exact_mod_cast hnext
  rcases Nat.mod_two_eq_zero_or_one x.significand with heven | hodd
  · have hstrict := hy.hlowOdd (by omega)
    rw [← hexponent] at hstrict
    have hlt := lt_of_mul_lt_mul_right (hstrict.trans_le hhigh) hunit.le
    linarith
  · have hlt := lt_of_mul_lt_mul_right (hlow.trans_lt (hx.hhighOdd hodd)) hunit.le
    linarith

theorem Covers.absurd_of_exponent_lt (hx : x.Covers q) (hcx : x.Canonical) (hcy : y.Canonical)
    (hy : y.Covers q) (h : x.exponent < y.exponent) : False := by
  have hunit : (0 : ℚ) < 2 ^ x.exponent := zpow_pos (by norm_num) _
  have hdouble : 2 * (2 : ℚ) ^ x.exponent ≤ 2 ^ y.exponent := by
    rw [← zpow_one_add₀ (by norm_num)]
    exact zpow_le_zpow_right₀ (by norm_num) (by omega)
  have hne : y.exponent ≠ leastExponent := fun heq => absurd hcx.hexponent (by omega)
  have hleast : leastSignificand ≤ y.significand := hcy.hleast.resolve_right hne
  have hpart : (leastSignificand : ℚ) - 1 / 4 ≤ y.significand - y.below := by
    rcases hleast.eq_or_lt with heq | hlt
    · rw [below, if_pos ⟨heq.symm, hne⟩, heq]
    · have hsucc : (leastSignificand : ℚ) + 1 ≤ y.significand := by exact_mod_cast hlt
      have hbelow := y.below_le
      linarith
  have hbound : (2 * leastSignificand - 1 / 2 : ℚ) * 2 ^ x.exponent ≤ q :=
    calc (2 * leastSignificand - 1 / 2 : ℚ) * 2 ^ x.exponent
        = (leastSignificand - 1 / 4) * (2 * 2 ^ x.exponent) := by ring
      _ ≤ (leastSignificand - 1 / 4) * 2 ^ y.exponent := by
        have hnonneg : (0 : ℚ) ≤ leastSignificand - 1 / 4 := by norm_num [leastSignificand]
        exact mul_le_mul_of_nonneg_left hdouble hnonneg
      _ ≤ (y.significand - y.below) * 2 ^ y.exponent :=
        mul_le_mul_of_nonneg_right hpart (zpow_pos (by norm_num) _).le
      _ ≤ q := hy.hlow
  -- Only the greatest significand reaches the number above, and this significand is odd.
  have hreach : 2 * (leastSignificand : ℚ) - 1 / 2 ≤ x.significand + 1 / 2 :=
    le_of_mul_le_mul_right (hbound.trans hx.hhigh) hunit
  have hmost : (2 * leastSignificand : ℚ) ≤ x.significand + 1 := by linarith
  have hmost : 2 * leastSignificand ≤ x.significand + 1 := by exact_mod_cast hmost
  have hsignificand := hcx.hsignificand
  have hlt := lt_of_mul_lt_mul_right (hbound.trans_lt (hx.hhighOdd (by omega))) hunit.le
  have heq : x.significand + 1 = 2 * leastSignificand := by omega
  have heq : (x.significand : ℚ) + 1 = 2 * leastSignificand := by exact_mod_cast heq
  linarith

/-- A decimal is around one number at most. -/
theorem Covers.unique (hcx : x.Canonical) (hcy : y.Canonical) (hx : x.Covers q) (hy : y.Covers q) :
    x = y := by
  have hexponent : x.exponent = y.exponent := by
    rcases lt_trichotomy x.exponent y.exponent with hlt | heq | hgt
    · exact (hx.absurd_of_exponent_lt hcx hcy hy hlt).elim
    · exact heq
    · exact (hy.absurd_of_exponent_lt hcy hcx hx hgt).elim
  have hsignificand : x.significand = y.significand := by
    rcases Nat.lt_trichotomy x.significand y.significand with hlt | heq | hgt
    · exact (hx.absurd_of_significand_lt hy hexponent hlt).elim
    · exact heq
    · exact (hy.absurd_of_significand_lt hx hexponent.symm hgt).elim
  cases x
  cases y
  cases hexponent
  cases hsignificand
  rfl

/-! ### The interval of a number -/

/-- The interval of a number, with the number of finest decimal units in a binary one. -/
theorem interval_eq (x : Binary64) : ∃ (ulp : Nat) (exponent : Int), 0 < ulp ∧
    (ulp : ℚ) * 10 ^ exponent = 2 ^ x.exponent ∧ x.interval = {
      value := x.significand * ulp
      low := 4 * (x.significand * ulp) -
        if x.significand = leastSignificand ∧ x.exponent ≠ leastExponent then ulp else 2 * ulp
      high := 4 * (x.significand * ulp) + 2 * ulp
      closed := x.significand % 2 == 0
      exponent } := by
  obtain ⟨significand, exponent⟩ := x
  cases exponent with
  | ofNat k =>
    refine ⟨Nat.pow 2 k, 0, Nat.pow_pos (by decide), ?_, rfl⟩
    have hcast : (Nat.pow 2 k : ℚ) = 2 ^ k := by
      rw [Nat.pow_eq]
      push_cast
      rfl
    rw [zpow_zero, mul_one, hcast, Int.ofNat_eq_natCast, zpow_natCast]
  | negSucc k =>
    refine ⟨Nat.pow 5 (k + 1), -(k + 1 : Nat), Nat.pow_pos (by decide), ?_, rfl⟩
    have hcast : (Nat.pow 5 (k + 1) : ℚ) = 5 ^ (k + 1) := by
      rw [Nat.pow_eq]
      push_cast
      rfl
    have hten : (10 : ℚ) ^ (k + 1) = 2 ^ (k + 1) * 5 ^ (k + 1) := by
      rw [← mul_pow]
      norm_num
    have hfive : (5 : ℚ) ^ (k + 1) ≠ 0 := by positivity
    rw [hcast, zpow_negSucc, zpow_neg, zpow_natCast, hten, mul_inv, mul_comm, mul_assoc,
      inv_mul_cancel₀ hfive, mul_one]

theorem Interval.contains_eq_true {i : Interval} {n : Nat} (h : i.contains n = true) :
    i.low ≤ 4 * n ∧ 4 * n ≤ i.high ∧ (i.closed = false → i.low < 4 * n ∧ 4 * n < i.high) := by
  rw [contains] at h
  split at h
  · rename_i hclosed
    rw [Bool.and_eq_true, decide_eq_true_iff, decide_eq_true_iff] at h
    refine ⟨h.1, h.2, fun hopen => ?_⟩
    rw [hclosed] at hopen
    cases hopen
  · rw [Bool.and_eq_true, decide_eq_true_iff, decide_eq_true_iff] at h
    exact ⟨h.1.le, h.2.le, fun _ => h⟩

theorem covers_of_contains (hpos : 0 < x.significand) {n : Nat} (h : x.interval.contains n = true) :
    x.Covers (n * 10 ^ x.interval.exponent) := by
  obtain ⟨ulp, exponent, hulp, hunit, hinterval⟩ := x.interval_eq
  obtain ⟨hlow, hhigh, hopen⟩ := Interval.contains_eq_true h
  have hquarter : (0 : ℚ) < 10 ^ exponent / 4 := div_pos (zpow_pos (by norm_num) _) (by norm_num)
  have hexponent : x.interval.exponent = exponent := by rw [hinterval]
  have hclosed : x.significand % 2 = 1 → x.interval.closed = false := by
    intro hodd
    rw [hinterval, hodd]
    rfl
  have hlowScale : (x.significand - x.below) * 2 ^ x.exponent =
      (x.interval.low : ℚ) * (10 ^ exponent / 4) := by
    have hfits : (if x.significand = leastSignificand ∧ x.exponent ≠ leastExponent then ulp else 2 * ulp) ≤
        4 * (x.significand * ulp) := by
      have hmul : ulp ≤ x.significand * ulp := Nat.le_mul_of_pos_left ulp hpos
      split <;> omega
    have hpart : ((if x.significand = leastSignificand ∧ x.exponent ≠ leastExponent then ulp
        else 2 * ulp : Nat) : ℚ) = 4 * x.below * ulp := by
      rw [below]
      split
      · ring
      · push_cast
        ring
    rw [hinterval, Nat.cast_sub hfits, hpart, ← hunit]
    push_cast
    ring
  have hhighScale : (x.significand + 1 / 2) * 2 ^ x.exponent =
      (x.interval.high : ℚ) * (10 ^ exponent / 4) := by
    rw [hinterval, ← hunit]
    push_cast
    ring
  have hscale : (n : ℚ) * 10 ^ exponent = (4 * n : Nat) * (10 ^ exponent / 4) := by
    push_cast
    ring
  rw [hexponent, hscale]
  refine ⟨?_, ?_, fun hodd => ?_, fun hodd => ?_⟩
  · rw [hlowScale]
    exact mul_le_mul_of_nonneg_right (Nat.cast_le.2 hlow) hquarter.le
  · rw [hhighScale]
    exact mul_le_mul_of_nonneg_right (Nat.cast_le.2 hhigh) hquarter.le
  · rw [hlowScale]
    exact mul_lt_mul_of_pos_right (Nat.cast_lt.2 (hopen (hclosed hodd)).1) hquarter
  · rw [hhighScale]
    exact mul_lt_mul_of_pos_right (Nat.cast_lt.2 (hopen (hclosed hodd)).2) hquarter

/-! ### The decimal that is picked -/

theorem contains_value (hpos : 0 < x.significand) : x.interval.contains x.interval.value = true := by
  obtain ⟨ulp, exponent, hulp, -, hinterval⟩ := x.interval_eq
  have hmul : ulp ≤ x.significand * ulp := Nat.le_mul_of_pos_left ulp hpos
  have hpart : 0 < if x.significand = leastSignificand ∧ x.exponent ≠ leastExponent then ulp
      else 2 * ulp := by
    split <;> omega
  rw [hinterval, Interval.contains]
  dsimp only
  split
  · rw [Bool.and_eq_true, decide_eq_true_iff, decide_eq_true_iff]
    omega
  · rw [Bool.and_eq_true, decide_eq_true_iff, decide_eq_true_iff]
    omega

namespace Interval

variable {i : Interval} {k digits : Nat}

theorem contains_of_pick? (h : i.pick? k = some digits) : i.contains (digits * 10 ^ k) = true := by
  rw [pick?] at h
  split at h
  · cases h
  · rename_i hbelow _
    cases h
    exact hbelow
  · rename_i _ habove
    cases h
    exact habove
  · rename_i hbelow habove
    split at h
    · cases h
      exact hbelow
    · split at h
      · cases h
        exact habove
      · split at h
        · cases h
          exact hbelow
        · cases h
          exact habove

theorem contains_search (h : i.contains i.value = true) (k : Nat) :
    i.contains ((i.search k).1 * 10 ^ (i.search k).2) = true := by
  induction k with
  | zero =>
    rw [search, Nat.pow_zero, Nat.mul_one]
    exact h
  | succ k ih =>
    rw [search]
    cases hpick : i.pick? (k + 1) with
    | none => exact ih
    | some digits => exact contains_of_pick? hpick

end Interval

/-- The text of a number other than zero is the layout of a decimal around it. -/
theorem text_layout (hpos : 0 < x.significand) : ∃ (n : Nat) (exponent : Int),
    x.text = layout (Text.ofNat n) exponent ∧ x.Covers (n * 10 ^ exponent) := by
  have hcontains := Interval.contains_search (contains_value hpos) (Text.ofNat x.interval.value).length
  have hcovers := covers_of_contains hpos hcontains
  rw [text, if_neg hpos.ne', shortest]
  refine ⟨_, _, rfl, ?_⟩
  rw [Nat.cast_mul, mul_assoc, Nat.cast_pow, Nat.cast_ofNat, ← zpow_natCast, ← zpow_add₀ (by norm_num),
    Int.add_comm] at hcovers
  exact hcovers

theorem ofNat_ne_nil (n : Nat) : Text.ofNat n ≠ [] :=
  Nat.toDigits_ne_nil

theorem covers_value (hpos : 0 < x.significand) : x.Covers x.text.value := by
  obtain ⟨n, exponent, htext, hcovers⟩ := text_layout hpos
  rw [htext, value_layout (Text.isDigit_ofNat n) (ofNat_ne_nil n), Text.natural_ofNat]
  exact hcovers

theorem value_zero : Text.value "0.0" = 0 := by
  have hzero : ∀ c ∈ ['0'], c.isDigit := Text.isDigit_zeros 1
  have hnatural : Text.natural (['0'] ++ ['0']) = 0 := rfl
  have hvalue := Text.value_positional hzero hzero
  rw [hnatural, Nat.cast_zero, zero_mul] at hvalue
  exact hvalue

theorem text_ne_zero (hpos : 0 < x.significand) : x.text ≠ "0.0" := by
  intro htext
  have hlow := (covers_value hpos).hlow
  rw [htext, value_zero] at hlow
  have hunit : (0 : ℚ) < 2 ^ x.exponent := zpow_pos (by norm_num) _
  have hone : (1 : ℚ) ≤ x.significand := by exact_mod_cast hpos
  have hbelow := x.below_le
  have hpart : (0 : ℚ) < x.significand - x.below := by linarith
  exact absurd hlow (mul_pos hpart hunit).not_ge

/-- Numbers of the format are told apart by their texts. -/
theorem text_inj (hx : x.Canonical) (hy : y.Canonical) (h : x.text = y.text) : x = y := by
  have htext {z : Binary64} (hz : z.significand = 0) : z.text = "0.0" := by
    rw [text, if_pos hz]
  rcases Nat.eq_zero_or_pos x.significand with hxzero | hxpos
  · rcases Nat.eq_zero_or_pos y.significand with hyzero | hypos
    · have hleast {z : Binary64} (hz : z.Canonical) (hzero : z.significand = 0) :
          z = ⟨0, leastExponent⟩ := by
        have hne : ¬leastSignificand ≤ z.significand := by
          rw [hzero]
          decide
        rw [← hzero, ← hz.hleast.resolve_left hne]
      rw [hleast hx hxzero, hleast hy hyzero]
    · exact absurd (h.symm.trans (htext hxzero)) (text_ne_zero hypos)
  · rcases Nat.eq_zero_or_pos y.significand with hyzero | hypos
    · exact absurd (h.trans (htext hyzero)) (text_ne_zero hxpos)
    · have hcovers := covers_value hypos
      rw [← h] at hcovers
      exact (covers_value hxpos).unique hx hy hcovers

/-! ### Signs and marks -/

theorem layout_cons {digits : Text} (h : ∀ c ∈ digits, c.isDigit) (hne : digits ≠ []) (exponent : Int) :
    ∃ (c : Char) (rest : Text), layout digits exponent = c :: rest ∧ c.isDigit := by
  obtain ⟨d, ds, rfl⟩ := List.exists_cons_of_ne_nil hne
  have hd : d.isDigit := h d List.mem_cons_self
  rw [layout]
  split
  · split
    · exact ⟨d, _, rfl, hd⟩
    · split
      · rename_i hleading
        obtain ⟨n, hn⟩ : ∃ n, (exponent + (d :: ds).length - 1 + 1).toNat = n + 1 :=
          ⟨(exponent + (d :: ds).length - 1).toNat, by omega⟩
        rw [hn]
        exact ⟨d, _, rfl, hd⟩
      · exact ⟨'0', _, rfl, by decide⟩
  · exact ⟨d, _, rfl, hd⟩

theorem text_cons (x : Binary64) : ∃ (c : Char) (rest : Text), x.text = c :: rest ∧ c.isDigit := by
  rw [text]
  split
  · exact ⟨'0', _, rfl, by decide⟩
  · exact layout_cons (Text.isDigit_ofNat _) (ofNat_ne_nil _) _

theorem mark_mem_layout (digits : Text) (exponent : Int) :
    '.' ∈ layout digits exponent ∨ 'e' ∈ layout digits exponent := by
  have hpoint : '.' ∈ ".0".toList ∧ '.' ∈ ".".toList ∧ '.' ∈ "0.".toList := by decide
  have hmark : 'e' ∈ "e".toList := by decide
  rw [layout]
  split
  · left
    split
    · exact List.mem_append_right _ hpoint.1
    · split
      · exact List.mem_append_left _ (List.mem_append_right _ hpoint.2.1)
      · exact List.mem_append_left _ (List.mem_append_left _ hpoint.2.2)
  · right
    exact List.mem_append_left _ (List.mem_append_left _ (List.mem_append_right _ hmark))

theorem mark_mem_text (x : Binary64) : '.' ∈ x.text ∨ 'e' ∈ x.text := by
  rw [text]
  split
  · left
    show '.' ∈ ['0', '.', '0']
    decide
  · exact mark_mem_layout _ _

end Binary64

namespace Text

theorem ofNat_inj {m n : Nat} (h : ofNat m = ofNat n) : m = n := by
  rw [← natural_ofNat m, h, natural_ofNat]

theorem ofNat_ne_minus (n : Nat) (rest : Text) : ofNat n ≠ '-' :: rest := by
  intro h
  have hdigit := isDigit_ofNat n '-' (h ▸ List.mem_cons_self)
  cases hdigit

theorem ofInt_inj {m n : Int} (h : ofInt m = ofInt n) : m = n := by
  cases m with
  | ofNat m =>
    cases n with
    | ofNat n => rw [ofNat_inj h]
    | negSucc n => exact absurd h (ofNat_ne_minus m _)
  | negSucc m =>
    cases n with
    | ofNat n => exact absurd h.symm (ofNat_ne_minus n _)
    | negSucc n => rw [Nat.succ.inj (ofNat_inj (List.cons.inj h).2)]

theorem not_mem_ofInt {c : Char} (hc : c.isDigit = false) (hminus : c ≠ '-') (n : Int) : c ∉ ofInt n := by
  intro hmem
  cases n with
  | ofNat n => exact not_mem_digits (isDigit_ofNat n) hc hmem
  | negSucc n =>
    rcases List.mem_cons.1 hmem with hmem | hmem
    · exact hminus hmem
    · exact not_mem_digits (isDigit_ofNat (n + 1)) hc hmem

end Text

namespace Number

def Canonical : Number → Prop
  | integer _ => True
  | real _ magnitude => magnitude.Canonical

theorem integer_text_ne (value : Int) (negative : Bool) (magnitude : Binary64) :
    (integer value).text ≠ (real negative magnitude).text := by
  have hmem {c : Char} (hc : c ∈ magnitude.text) : c ∈ (real negative magnitude).text := by
    cases negative with
    | false => exact hc
    | true => exact List.mem_cons_of_mem '-' hc
  intro h
  rcases magnitude.mark_mem_text with hpoint | hmark
  · exact Text.not_mem_ofInt (by decide) (by decide) value (h ▸ hmem hpoint)
  · exact Text.not_mem_ofInt (by decide) (by decide) value (h ▸ hmem hmark)

/-- Numbers are told apart by their texts. -/
theorem text_inj {m n : Number} (hm : m.Canonical) (hn : n.Canonical) (h : m.text = n.text) : m = n := by
  have hsign (x y : Binary64) : (real true x).text ≠ (real false y).text := by
    intro htext
    obtain ⟨c, rest, hcons, hdigit⟩ := y.text_cons
    have hfirst : '-' :: x.text = c :: rest := htext.trans hcons
    rw [← (List.cons.inj hfirst).1] at hdigit
    cases hdigit
  cases m with
  | integer v =>
    cases n with
    | integer w => rw [Text.ofInt_inj h]
    | real negative y => exact absurd h (integer_text_ne v negative y)
  | real negative x =>
    cases n with
    | integer w => exact absurd h.symm (integer_text_ne w negative x)
    | real other y =>
      cases negative with
      | false =>
        cases other with
        | false => rw [Binary64.text_inj hm hn h]
        | true => exact absurd h.symm (hsign y x)
      | true =>
        cases other with
        | false => exact absurd h (hsign x y)
        | true => rw [Binary64.text_inj hm hn (List.cons.inj h).2]

end Number

end TableModel
