import TableModel.Json.Number
import TableModel.Proofs.Number.Separation
import TableModel.Proofs.Results

/-!
# Numbers that are read have the form of the format

The exponent that is guessed from the binary lengths of a quotient is right or one too large. So the
floor of the scaled quotient has 53 binary digits, or fewer at the least exponent, and rounding it can
only carry into the next power of two. Every number of a numeral comes of such roundings.
-/

namespace TableModel

namespace Binary64

variable {n d : Nat} {e : Int}

/-! ### Scaled quotients -/

theorem unscale_pos (hd : 0 < d) : 0 < (unscale n d e).2 := by
  cases e with
  | ofNat k => exact Nat.mul_pos hd (Nat.pow_pos (by decide))
  | negSucc k => exact hd

theorem unscale_ratio (n d : Nat) (e : Int) :
    ((unscale n d e).1 : ℚ) / (unscale n d e).2 = n / d / 2 ^ e := by
  cases e with
  | ofNat k =>
    rw [unscale, Int.ofNat_eq_natCast, zpow_natCast, div_div]
    push_cast [Nat.pow_eq]
    rfl
  | negSucc k =>
    rw [unscale, zpow_negSucc, div_inv_eq_mul, div_mul_eq_mul_div]
    push_cast [Nat.pow_eq]
    rfl

theorem floor_lt_iff (hd : 0 < d) (m : Nat) : n / d < m ↔ (n : ℚ) / d < m := by
  rw [Nat.div_lt_iff_lt_mul hd, div_lt_iff₀ (by exact_mod_cast hd)]
  norm_cast

theorem unscale_floor_lt_iff (hd : 0 < d) (m : Nat) :
    (unscale n d e).1 / (unscale n d e).2 < m ↔ (n : ℚ) / d < m * 2 ^ e := by
  rw [floor_lt_iff (unscale_pos hd), unscale_ratio, div_lt_iff₀ (zpow_pos (by norm_num) e)]

/-! ### The exponent -/

theorem pow_log2 (hn : 0 < n) : (2 : ℚ) ^ (n.log2 : Int) ≤ n ∧ (n : ℚ) < 2 ^ (n.log2 + 1 : Int) := by
  have hlow : 2 ^ n.log2 ≤ n := Nat.log2_self_le hn.ne'
  have hhigh : n < 2 ^ (n.log2 + 1) := Nat.lt_log2_self
  refine ⟨?_, ?_⟩
  · rw [zpow_natCast]
    exact_mod_cast hlow
  · have hcast : (n.log2 + 1 : Int) = (n.log2 + 1 : Nat) := by push_cast; rfl
    rw [hcast, zpow_natCast]
    exact_mod_cast hhigh

/-- The binary lengths of two numbers tell the quotient up to a factor of four. -/
theorem ratio_bounds (hn : 0 < n) (hd : 0 < d) :
    (2 : ℚ) ^ (n.log2 - d.log2 - 1 : Int) ≤ n / d ∧ (n : ℚ) / d < 2 ^ (n.log2 - d.log2 + 1 : Int) := by
  obtain ⟨hnlow, hnhigh⟩ := pow_log2 hn
  obtain ⟨hdlow, hdhigh⟩ := pow_log2 hd
  have hpos : (0 : ℚ) < d := by exact_mod_cast hd
  have htwo : (2 : ℚ) ≠ 0 := by norm_num
  refine ⟨?_, ?_⟩
  · rw [le_div_iff₀ hpos]
    calc (2 : ℚ) ^ (n.log2 - d.log2 - 1 : Int) * d
        ≤ 2 ^ (n.log2 - d.log2 - 1 : Int) * 2 ^ (d.log2 + 1 : Int) :=
          mul_le_mul_of_nonneg_left hdhigh.le (zpow_pos (by norm_num) _).le
      _ = 2 ^ (n.log2 : Int) := by
          rw [← zpow_add₀ htwo]
          congr 1
          ring
      _ ≤ n := hnlow
  · rw [div_lt_iff₀ hpos]
    calc (n : ℚ) < 2 ^ (n.log2 + 1 : Int) := hnhigh
      _ = 2 ^ (n.log2 - d.log2 + 1 : Int) * 2 ^ (d.log2 : Int) := by
          rw [← zpow_add₀ htwo]
          congr 1
          ring
      _ ≤ 2 ^ (n.log2 - d.log2 + 1 : Int) * d :=
          mul_le_mul_of_nonneg_left hdlow (zpow_pos (by norm_num) _).le

/-- The guess that is right: 53 binary digits stand before the point. -/
theorem guess_bounds (hn : 0 < n) (hd : 0 < d) {guess chosen : Int}
    (hguess : guess = n.log2 - d.log2 - 52)
    (hchosen : chosen = if (unscale n d guess).1 / (unscale n d guess).2 < leastSignificand then guess - 1
      else guess) :
    (2 : ℚ) ^ (52 + chosen) ≤ n / d ∧ (n : ℚ) / d < 2 ^ (53 + chosen) := by
  obtain ⟨hlow, hhigh⟩ := ratio_bounds hn hd
  have hleast : (leastSignificand : ℚ) * 2 ^ guess = 2 ^ (52 + guess) := by
    rw [zpow_add₀ (by norm_num)]
    norm_num [leastSignificand]
  have hfloor : (unscale n d guess).1 / (unscale n d guess).2 < leastSignificand ↔
      (n : ℚ) / d < 2 ^ (52 + guess) := by
    rw [unscale_floor_lt_iff hd, hleast]
  have hlower : (n.log2 - d.log2 - 1 : Int) = 52 + (guess - 1) := by omega
  have hupper : (n.log2 - d.log2 + 1 : Int) = 53 + guess := by omega
  have hshift : 53 + (guess - 1) = 52 + guess := by omega
  rw [hlower] at hlow
  rw [hupper] at hhigh
  rw [hchosen]
  split
  · rename_i h
    rw [hshift]
    exact ⟨hlow, hfloor.1 h⟩
  · rename_i h
    exact ⟨not_lt.1 (mt hfloor.2 h), hhigh⟩

theorem exponentOf_bounds (hn : 0 < n) (hd : 0 < d) :
    (n : ℚ) / d < 2 ^ (53 + exponentOf n d) ∧
      (exponentOf n d ≠ leastExponent → (2 : ℚ) ^ (52 + exponentOf n d) ≤ n / d) := by
  obtain ⟨hlow, hhigh⟩ := guess_bounds hn hd rfl rfl
  rw [exponentOf]
  dsimp only
  refine ⟨hhigh.trans_le (zpow_le_zpow_right₀ (by norm_num) (by omega)), ?_⟩
  intro hne
  rcases max_choice (if (unscale n d (n.log2 - d.log2 - 52)).1 / (unscale n d (n.log2 - d.log2 - 52)).2 <
      leastSignificand then (n.log2 - d.log2 - 52 : Int) - 1 else n.log2 - d.log2 - 52) leastExponent with
    hmax | hmax
  · rw [hmax]
    exact hlow
  · exact absurd hmax hne

/-- At the exponent of a quotient its floor has 53 binary digits, or fewer at the least exponent. -/
theorem floor_bounds (hn : 0 < n) (hd : 0 < d) :
    (unscale n d (exponentOf n d)).1 / (unscale n d (exponentOf n d)).2 < 2 * leastSignificand ∧
      (exponentOf n d ≠ leastExponent →
        leastSignificand ≤ (unscale n d (exponentOf n d)).1 / (unscale n d (exponentOf n d)).2) := by
  obtain ⟨hhigh, hlow⟩ := exponentOf_bounds hn hd
  have hleast : (2 : ℚ) ^ (52 + exponentOf n d) = leastSignificand * 2 ^ exponentOf n d := by
    rw [zpow_add₀ (by norm_num)]
    norm_num [leastSignificand]
  have hmost : (2 : ℚ) ^ (53 + exponentOf n d) = (2 * leastSignificand : Nat) * 2 ^ exponentOf n d := by
    rw [zpow_add₀ (by norm_num)]
    norm_num [leastSignificand]
  rw [hmost] at hhigh
  rw [hleast] at hlow
  refine ⟨(unscale_floor_lt_iff hd _).2 hhigh, ?_⟩
  intro hne
  rw [← not_lt, unscale_floor_lt_iff hd, not_lt]
  exact hlow hne

theorem le_exponentOf (n d : Nat) : leastExponent ≤ exponentOf n d :=
  le_max_right _ _

/-! ### Rounding -/

theorem divideToEven_bounds (n d : Nat) : n / d ≤ divideToEven n d ∧ divideToEven n d ≤ n / d + 1 := by
  rw [divideToEven]
  split
  · omega
  · split
    · omega
    · split <;> omega

/-- Rounding a quotient gives a number of the format. -/
theorem nearest_canonical (n : Nat) (hd : 0 < d) : (nearest n d).Canonical := by
  rw [nearest]
  split
  · exact ⟨by decide, le_rfl, .inr rfl⟩
  · rename_i hn
    obtain ⟨hmost, hleast⟩ := floor_bounds (Nat.pos_of_ne_zero hn) hd
    obtain ⟨hfloor, hceil⟩ := divideToEven_bounds (unscale n d (exponentOf n d)).1
      (unscale n d (exponentOf n d)).2
    have hexponent := le_exponentOf n d
    dsimp only
    split
    · refine ⟨?_, ?_, .inl le_rfl⟩
      · show leastSignificand < 2 * leastSignificand
        decide
      · show leastExponent ≤ exponentOf n d + 1
        omega
    · rename_i hne
      refine ⟨?_, hexponent, ?_⟩
      · dsimp only
        omega
      · by_cases hequal : exponentOf n d = leastExponent
        · exact .inr hequal
        · exact .inl ((hleast hequal).trans hfloor)

theorem quotient_pos (x : Binary64) : 0 < x.quotient.2 := by
  rw [quotient]
  split
  · exact Nat.one_pos
  · exact Nat.pow_pos (by decide)

theorem mul_canonical (x y : Binary64) : (x.mul y).Canonical :=
  nearest_canonical _ (Nat.mul_pos x.quotient_pos y.quotient_pos)

theorem div_canonical (x : Binary64) {y : Binary64} (hy : 0 < y.quotient.1) : (x.div y).Canonical :=
  nearest_canonical _ (Nat.mul_pos x.quotient_pos hy)

theorem ofNat_canonical (n : Nat) : (ofNat n).Canonical :=
  nearest_canonical n Nat.one_pos

/-- A quotient of one at least is not rounded to zero. -/
theorem nearest_pos (hd : 0 < d) (h : d ≤ n) : 0 < (nearest n d).significand := by
  have hn : 0 < n := hd.trans_le h
  obtain ⟨-, hlow⟩ := exponentOf_bounds hn hd
  have hunit : (2 : ℚ) ^ exponentOf n d ≤ n / d := by
    by_cases hexponent : exponentOf n d = leastExponent
    · have hone : (1 : ℚ) ≤ n / d := by
        rw [le_div_iff₀ (by exact_mod_cast hd), one_mul]
        exact_mod_cast h
      rw [hexponent]
      exact (zpow_le_one_of_nonpos₀ (by norm_num) (by decide)).trans hone
    · exact (zpow_le_zpow_right₀ (by norm_num) (by omega)).trans (hlow hexponent)
  have hfloor : 1 ≤ (unscale n d (exponentOf n d)).1 / (unscale n d (exponentOf n d)).2 := by
    rw [← not_lt, unscale_floor_lt_iff hd, Nat.cast_one, one_mul, not_lt]
    exact hunit
  obtain ⟨hrounded, -⟩ := divideToEven_bounds (unscale n d (exponentOf n d)).1
    (unscale n d (exponentOf n d)).2
  rw [nearest, if_neg hn.ne']
  dsimp only
  split
  · show 0 < leastSignificand
    decide
  · exact hfloor.trans hrounded

theorem powerOfTen_pos (k : Nat) : 0 < (powerOfTen k).quotient.1 := by
  have hpos : 0 < (powerOfTen k).significand := nearest_pos Nat.one_pos (Nat.pow_pos (by decide))
  rw [quotient]
  split
  · exact Nat.mul_pos hpos (Nat.pow_pos (by decide))
  · exact hpos

end Binary64

namespace Numeral

open Binary64

theorem shrink_canonical {x : Binary64} (hx : x.Canonical) (k : Nat) : (shrink x k).Canonical := by
  fun_induction shrink x k with
  | case1 x k hk => exact div_canonical x (powerOfTen_pos k)
  | case2 => exact hx
  | case3 x k hk hzero ih => exact ih (div_canonical x (powerOfTen_pos 308))

theorem scale?_canonical {significand : Nat} {power : Int} {x : Binary64}
    (h : scale? significand power = some x) : x.Canonical := by
  cases power with
  | ofNat k =>
    rw [scale?] at h
    dsimp only at h
    split at h
    · split at h
      · cases h
        exact mul_canonical _ _
      · cases h
    · split at h
      · cases h
        exact ⟨by decide, le_rfl, .inr rfl⟩
      · cases h
  | negSucc k =>
    cases h
    exact shrink_canonical (ofNat_canonical significand) (k + 1)

theorem real?_canonical {negative : Bool} {significand : Nat} {power : Int} {exponent : Option (Bool × Text)}
    {n : Number} (h : real? negative significand power exponent = some n) : n.Canonical := by
  have hscaled {power : Int} (h : (scale? significand power).map (Number.real negative) = some n) :
      n.Canonical := by
    obtain ⟨x, hx, rfl⟩ := Option.map_eq_some_iff.1 h
    exact scale?_canonical hx
  cases exponent with
  | none => exact hscaled h
  | some written =>
    rw [real?] at h
    split at h
    · exact hscaled h
    · split at h
      · cases h
        exact ⟨by decide, le_rfl, .inr rfl⟩
      · cases h

/-- The number of a numeral is held as the format has it. -/
theorem value?_canonical {x : Numeral} {n : Number} (h : x.value? = some n) : n.Canonical := by
  rw [value?] at h
  dsimp only at h
  split at h
  · cases h
    rw [integer]
    split
    · trivial
    · split
      · exact ofNat_canonical _
      · trivial
  · exact real?_canonical h

end Numeral

end TableModel
