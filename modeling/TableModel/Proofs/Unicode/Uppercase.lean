import Mathlib.Data.List.Basic
import TableModel.Unicode.Uppercase

/-!
# Characters that are no letters

Below the capital letters there are digits, marks and breaks. None of them has an uppercase form other
than itself, and none comes up in the uppercase form of another character. Both are read off the tables,
whose entries all lie further up, and lead further up.
-/

namespace TableModel

def firstLetter : Nat := 0x41

theorem uppercaseExpansions_letters : ∀ expansion ∈ uppercaseExpansions,
    firstLetter ≤ expansion.1 ∧ ∀ code ∈ expansion.2, firstLetter ≤ (Char.ofNat code).toNat := by
  decide +kernel

/-- Every run of shifted characters starts behind the first letter and is shifted to characters that do
so as well. -/
theorem uppercaseShifts_letters : ∀ shift ∈ uppercaseShifts,
    firstLetter ≤ shift.1.first ∧ firstLetter ≤ shift.1.first + shift.2 ∧
      (shift.1.last + shift.2 < 0xD800 ∨
        0xDFFF < shift.1.first + shift.2 ∧ shift.1.last + shift.2 < 0x110000) := by
  decide +kernel

theorem toNat_ofNat_of_valid {n : Nat} (h : n.isValidChar) : (Char.ofNat n).toNat = n := by
  rw [Char.ofNat, dif_pos h]
  rfl

variable {c d : Char}

theorem shift_letters (h : CharRun.shift uppercaseShifts c ≠ c) :
    firstLetter ≤ c.toNat ∧ firstLetter ≤ (CharRun.shift uppercaseShifts c).toNat := by
  rw [CharRun.shift] at h ⊢
  split at h
  · rename_i run distance hfound
    have hmem := List.mem_of_find?_eq_some hfound
    have hholds := List.find?_some hfound
    obtain ⟨hfirst, hto, hvalid⟩ := uppercaseShifts_letters _ hmem
    simp only [CharRun.holds, Bool.and_eq_true, decide_eq_true_eq] at hholds
    obtain ⟨⟨hlow, hhigh⟩, -⟩ := hholds
    dsimp only at hfirst hto hvalid
    refine ⟨Nat.le_trans hfirst hlow, ?_⟩
    rw [toNat_ofNat_of_valid]
    · omega
    · show _ < _ ∨ _ ∧ _
      omega
  · exact absurd rfl h

/-- A character that is no letter comes up in the uppercase form of itself alone. -/
theorem mem_uppercaseForm (hd : d.toNat < firstLetter) : d ∈ uppercaseForm c ↔ d = c := by
  rw [uppercaseForm]
  split
  · rename_i codes hlookup
    obtain ⟨front, back, htable, -⟩ := List.lookup_eq_some_iff.1 hlookup
    have hmem : (c.toNat, codes) ∈ uppercaseExpansions :=
      htable ▸ List.mem_append_right front List.mem_cons_self
    obtain ⟨hc, hcodes⟩ := uppercaseExpansions_letters _ hmem
    apply iff_of_false
    · intro hmem
      obtain ⟨code, hcode, rfl⟩ := List.mem_map.1 hmem
      have hletter := hcodes code hcode
      omega
    · intro hsame
      rw [hsame] at hd
      exact absurd hc (by omega)
  · rw [List.mem_singleton]
    by_cases hshift : CharRun.shift uppercaseShifts c = c
    · rw [hshift]
    · obtain ⟨hc, hletter⟩ := shift_letters hshift
      apply iff_of_false
      · intro hsame
        rw [hsame] at hd
        omega
      · intro hsame
        rw [hsame] at hd
        omega

theorem mem_toUppercase {t : Text} (hd : d.toNat < firstLetter) : d ∈ t.toUppercase ↔ d ∈ t := by
  rw [Text.toUppercase, List.mem_flatMap]
  constructor
  · intro h
    obtain ⟨c, hc, hmem⟩ := h
    rw [(mem_uppercaseForm hd).1 hmem]
    exact hc
  · intro h
    exact ⟨d, h, (mem_uppercaseForm hd).2 rfl⟩

end TableModel
