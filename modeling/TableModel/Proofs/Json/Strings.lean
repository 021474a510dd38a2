import Mathlib.Tactic.IntervalCases
import TableModel.Proofs.Json.Grammar
import TableModel.Proofs.Json.Scalars
import TableModel.Proofs.Unicode.Uppercase

/-!
# Reading strings

The machine that reads a string accepts exactly the forms of a text, and returns that text. Both directions
go character by character: a form of one character takes the machine from between two characters back to
between two characters, and what the machine does before it is there again is a form of one character.
-/

namespace TableModel

namespace Read

open Json

variable {paired : Bool} {state next : StringState} {leading : Option Nat} {c : Char} {n : Nat}
variable {s t rest front digits : Text}

def resume (paired : Bool) (step : Except SyntaxError (StringState × Option Char)) : Read Text := fun s =>
  match step with
  | .error cause => malformed cause
  | .ok (state, d) => do
    let (t, rest) ← stringFrom paired state s
    .ok (d.toList ++ t, rest)

theorem stringFrom_eq_resume (h : ¬(state = .plain ∧ c = '"')) (s : Text) :
    stringFrom paired state (c :: s) = resume paired (stringStep paired state c s) s := by
  rw [stringFrom, if_neg h]
  rfl

theorem resume_none (state : StringState) (s : Text) :
    resume paired (.ok (state, none)) s = stringFrom paired state s := by
  rw [resume]
  cases stringFrom paired state s <;> rfl

theorem resume_some_eq_ok {d : Char} :
    resume paired (.ok (state, some d)) s = .ok (t, rest) ↔
      ∃ u, stringFrom paired state s = .ok (u, rest) ∧ t = d :: u := by
  rw [resume, bind_eq_ok]
  constructor
  · rintro ⟨⟨u, mid⟩, hread, hlast⟩
    cases hlast
    exact ⟨u, hread, rfl⟩
  · rintro ⟨u, hread, rfl⟩
    exact ⟨(u, rest), hread, rfl⟩

/-! ### The digits of a unit -/

private theorem hexDigit_ofNat {n k : Nat} (h : (48 ≤ n ∧ n ≤ 57 ∧ k = n - 48) ∨
    (97 ≤ n ∧ n ≤ 102 ∧ k = n - 87) ∨ (65 ≤ n ∧ n ≤ 70 ∧ k = n - 55)) : HexDigit k (Char.ofNat n) := by
  rcases h with ⟨hlow, hhigh, rfl⟩ | ⟨hlow, hhigh, rfl⟩ | ⟨hlow, hhigh, rfl⟩ <;> interval_cases n <;>
    exact ⟨by decide, by decide⟩

theorem hexDigit?_eq_some {k : Nat} : hexDigit? c = some k ↔ HexDigit k c := by
  constructor
  · intro h
    rw [← Char.ofNat_toNat c]
    apply hexDigit_ofNat
    simp only [hexDigit?, Char.le_def, UInt32.le_iff_toNat_le] at h
    have hc : c.val.toNat = c.toNat := rfl
    split_ifs at h with h1 h2 h3 <;> simp at h h1 <;> simp_all <;> omega
  · rintro ⟨hk, rfl | rfl⟩ <;> interval_cases k <;> rfl

theorem stringFrom_unit_cons {k count value : Nat} (h : HexDigit k c) (s : Text) :
    stringFrom paired (.unit leading count value) (c :: s) =
      if count = 3 then resume paired (unitDone paired leading (value * 16 + k)) s
      else stringFrom paired (.unit leading (count + 1) (value * 16 + k)) s := by
  rw [stringFrom_eq_resume (by simp)]
  simp only [stringStep, hexDigit?_eq_some.2 h]
  split_ifs
  · rfl
  · exact resume_none _ s

theorem stringFrom_unit (h : UnitSpelling n digits) (s : Text) :
    stringFrom paired (.unit leading 0 0) (digits ++ s) = resume paired (unitDone paired leading n) s := by
  obtain ⟨ha, hb, hc, hd⟩ := h
  simp [stringFrom_unit_cons ha, stringFrom_unit_cons hb, stringFrom_unit_cons hc, stringFrom_unit_cons hd]

theorem stringFrom_unit_inv {count value : Nat}
    (h : stringFrom paired (.unit leading count value) s = .ok (t, rest)) :
    ∃ k a u, HexDigit k a ∧ s = a :: u := by
  cases s with
  | nil => cases h
  | cons a u =>
    rw [stringFrom_eq_resume (by simp)] at h
    simp only [stringStep] at h
    cases hk : hexDigit? a with
    | none =>
      rw [hk] at h
      cases h
    | some k => exact ⟨k, a, u, hexDigit?_eq_some.1 hk, rfl⟩

/-- A unit that is read to its end has its four digits. -/
theorem exists_unit (h : stringFrom paired (.unit leading 0 0) s = .ok (t, rest)) :
    ∃ n digits u, UnitSpelling n digits ∧ s = digits ++ u ∧
      resume paired (unitDone paired leading n) u = .ok (t, rest) := by
  obtain ⟨i, a, s, ha, rfl⟩ := stringFrom_unit_inv h
  rw [stringFrom_unit_cons ha, if_neg (by decide)] at h
  obtain ⟨j, b, s, hb, rfl⟩ := stringFrom_unit_inv h
  rw [stringFrom_unit_cons hb, if_neg (by decide)] at h
  obtain ⟨k, c, s, hc, rfl⟩ := stringFrom_unit_inv h
  rw [stringFrom_unit_cons hc, if_neg (by decide)] at h
  obtain ⟨l, d, s, hd, rfl⟩ := stringFrom_unit_inv h
  rw [stringFrom_unit_cons hd, if_pos rfl] at h
  rw [Nat.zero_mul, Nat.zero_add] at h
  exact ⟨_, _, s, .digits ha hb hc hd, rfl, h⟩

theorem length_of_unitSpelling (h : UnitSpelling n digits) : digits.length = 4 := by
  cases h
  rfl

theorem unitSpelling_lt (h : UnitSpelling n digits) : n < 0x10000 := by
  obtain ⟨ha, hb, hc, hd⟩ := h
  have := ha.1
  have := hb.1
  have := hc.1
  have := hd.1
  omega

/-! ### From the form to the text -/

theorem stringFrom_escape (s : Text) :
    stringFrom paired .plain ('\\' :: s) = stringFrom paired .escape s := by
  rw [stringFrom_eq_resume (by simp)]
  exact resume_none .escape s

theorem stringFrom_mark (h : UnitSpelling n digits) (hstate : state = .escape ∧ leading = none ∨
    ∃ first, state = .pairEscape first ∧ leading = some first) (s : Text) :
    stringFrom paired state ('u' :: (digits ++ s)) = resume paired (unitDone paired leading n) s := by
  have hsize : ¬Text.utf8Size ((digits ++ s).take 4) < 4 := by
    have := le_utf8Size ((digits ++ s).take 4)
    simp only [List.length_take, List.length_append, length_of_unitSpelling h] at this
    omega
  rw [← stringFrom_unit h s, ← resume_none (.unit leading 0 0) (digits ++ s)]
  rcases hstate with ⟨rfl, rfl⟩ | ⟨first, rfl, rfl⟩
  · rw [stringFrom_eq_resume (by simp)]
    simp [stringStep, hsize]
  · rw [stringFrom_eq_resume (by simp)]
    simp [stringStep, hsize]

theorem toNat_cases (c : Char) : c.toNat < 0xD800 ∨ 0xDFFF < c.toNat ∧ c.toNat < 0x110000 :=
  c.valid

theorem isTrailing_iff : isTrailing n = true ↔ 0xDC00 ≤ n ∧ n ≤ 0xDFFF := by
  simp [isTrailing]

theorem isLeading_iff : isLeading n = true ↔ 0xD800 ≤ n ∧ n ≤ 0xDBFF := by
  simp [isLeading]

/-- The units of a character beyond the first 65536 are a leading and a trailing one, and give it back. -/
theorem unit_pair (h : 0x10000 ≤ c.toNat) :
    isTrailing (leadingUnit c) = false ∧ isLeading (leadingUnit c) = true ∧
      isTrailing (trailingUnit c) = true ∧ pairChar (leadingUnit c) (trailingUnit c) = c := by
  have hc := toNat_cases c
  have hsum : (leadingUnit c - 0xD800) * 0x400 + (trailingUnit c - 0xDC00) + 0x10000 = c.toNat := by
    simp only [leadingUnit, trailingUnit]
    omega
  rw [pairChar, hsum, Char.ofNat_toNat, Bool.eq_false_iff, Ne, isTrailing_iff, isLeading_iff, isTrailing_iff]
  simp only [leadingUnit, trailingUnit, and_true]
  omega

theorem unit_single (h : c.toNat < 0x10000) :
    isTrailing c.toNat = false ∧ isLeading c.toNat = false := by
  have hc := toNat_cases c
  rw [Bool.eq_false_iff, Bool.eq_false_iff, Ne, Ne, isTrailing_iff, isLeading_iff]
  omega

theorem shortEscape?_eq_some {letter : Char} : shortEscape? letter = some c ↔ (letter, c) ∈ shortEscapes := by
  constructor
  · intro h
    simp only [shortEscape?] at h
    split_ifs at h with hself <;> cases h
    · rcases hself with rfl | rfl | rfl <;> simp [shortEscapes]
    all_goals subst_vars; simp [shortEscapes]
  · intro h
    simp only [shortEscapes, List.mem_cons, Prod.mk.injEq, List.not_mem_nil, or_false] at h
    rcases h with ⟨rfl, rfl⟩ | ⟨rfl, rfl⟩ | ⟨rfl, rfl⟩ | ⟨rfl, rfl⟩ | ⟨rfl, rfl⟩ | ⟨rfl, rfl⟩ | ⟨rfl, rfl⟩ |
      ⟨rfl, rfl⟩ <;> rfl

theorem ne_u_of_mem_shortEscapes {letter : Char} (h : (letter, c) ∈ shortEscapes) : letter ≠ 'u' := by
  rintro rfl
  simp [shortEscapes] at h

theorem stringFrom_char (hchar : CharSpelling c front) (h : stringFrom true .plain s = .ok (t, rest)) :
    stringFrom true .plain (front ++ s) = .ok (c :: t, rest) := by
  have hresume : resume true (.ok (.plain, some c)) s = .ok (c :: t, rest) :=
    resume_some_eq_ok.2 ⟨t, h, rfl⟩
  cases hchar with
  | raw hcontrol hquote hbackslash =>
    rw [List.singleton_append, stringFrom_eq_resume (by simp [hquote])]
    simpa [stringStep, hbackslash, Char.not_lt.2 hcontrol] using hresume
  | @short letter hletter =>
    rw [List.cons_append, stringFrom_escape, List.singleton_append, stringFrom_eq_resume (by simp)]
    simpa [stringStep, ne_u_of_mem_shortEscapes hletter, shortEscape?_eq_some.2 hletter] using hresume
  | unit hdigits =>
    obtain ⟨htrailing, hleading⟩ := unit_single (unitSpelling_lt hdigits)
    rw [List.cons_append, stringFrom_escape, List.cons_append, stringFrom_mark hdigits (.inl ⟨rfl, rfl⟩)]
    simpa [unitDone, htrailing, hleading, Char.ofNat_toNat] using hresume
  | @pair leading trailing hastral hleading htrailing =>
    obtain ⟨hfirst, hsecond, hthird, hchar⟩ := unit_pair hastral
    rw [List.cons_append, stringFrom_escape, List.cons_append, List.append_assoc,
      stringFrom_mark hleading (.inl ⟨rfl, rfl⟩)]
    simp only [unitDone, hfirst, hsecond, Bool.not_true, Bool.false_eq_true, if_false, if_true]
    rw [resume_none, List.cons_append, stringFrom_eq_resume (by simp)]
    simp only [stringStep, if_true]
    rw [resume_none, List.cons_append, stringFrom_mark htrailing (.inr ⟨_, rfl, rfl⟩)]
    simpa [unitDone, hthird, hchar] using hresume

/-- A form of a text and a quote are read as that text. -/
theorem string_of_spelling {u : Text} (h : TextSpelling t u) (rest : Text) :
    string (u ++ '"' :: rest) = .ok (t, rest) := by
  induction h with
  | nil => rfl
  | cons hchar hrest ih =>
    rw [List.append_assoc]
    exact stringFrom_char hchar ih

/-! ### From the text to the form -/

theorem units_of_pairChar {l m : Nat} (hl : isLeading l = true) (hm : isTrailing m = true)
    (hc : c = pairChar l m) : 0x10000 ≤ c.toNat ∧ leadingUnit c = l ∧ trailingUnit c = m := by
  rw [isLeading_iff] at hl
  rw [isTrailing_iff] at hm
  have htoNat : c.toNat = (l - 0xD800) * 0x400 + (m - 0xDC00) + 0x10000 := by
    rw [hc, pairChar]
    apply toNat_ofNat_of_valid
    right
    omega
  simp only [leadingUnit, trailingUnit, htoNat]
  omega

def CharAt (s t rest : Text) : Prop :=
  ∃ c front back u, s = front ++ back ∧ front ≠ [] ∧ CharSpelling c front ∧
    stringFrom true .plain back = .ok (u, rest) ∧ t = c :: u

/-- Behind a leading unit only the escape of a trailing one can be read. -/
theorem exists_trailing {l : Nat} (h : stringFrom true (.pair l) s = .ok (t, rest)) :
    ∃ m trailing back u, s = '\\' :: 'u' :: (trailing ++ back) ∧ UnitSpelling m trailing ∧
      isTrailing m = true ∧ stringFrom true .plain back = .ok (u, rest) ∧ t = pairChar l m :: u := by
  obtain _ | ⟨a, s⟩ := s
  · cases h
  rw [stringFrom_eq_resume (by simp)] at h
  simp only [stringStep] at h
  split_ifs at h with ha
  swap
  · cases h
  rw [resume_none] at h
  obtain _ | ⟨b, s⟩ := s
  · cases h
  rw [stringFrom_eq_resume (by simp)] at h
  simp only [stringStep] at h
  split_ifs at h with hb hsize
  · cases h
  · rw [resume_none] at h
    obtain ⟨m, trailing, back, htrailing, rfl, hdone⟩ := exists_unit h
    simp only [unitDone, Bool.not_true, Bool.false_eq_true, if_false] at hdone
    split_ifs at hdone with hsecond
    · obtain ⟨u, hback, rfl⟩ := resume_some_eq_ok.1 hdone
      exact ⟨m, trailing, back, u, by rw [ha, hb], htrailing, hsecond, hback, rfl⟩
    · cases hdone
  · cases h

theorem charAt_unit (h : stringFrom true .escape ('u' :: s) = .ok (t, rest)) :
    CharAt ('\\' :: 'u' :: s) t rest := by
  rw [stringFrom_eq_resume (by simp)] at h
  simp only [stringStep, if_true] at h
  split_ifs at h with hsize
  · cases h
  rw [resume_none] at h
  obtain ⟨l, digits, s, hdigits, rfl, hdone⟩ := exists_unit h
  simp only [unitDone, Bool.not_true, Bool.false_eq_true, if_false] at hdone
  split_ifs at hdone with htrailing hleading
  · cases hdone
  · rw [resume_none] at hdone
    obtain ⟨m, trailing, back, u, rfl, hm, hsecond, hback, rfl⟩ := exists_trailing hdone
    obtain ⟨hastral, hfirst, hlast⟩ := units_of_pairChar hleading hsecond rfl
    refine ⟨_, '\\' :: 'u' :: (digits ++ '\\' :: 'u' :: trailing), back, u, by simp, by simp, ?_, hback, rfl⟩
    refine .pair hastral ?_ ?_
    · rwa [hfirst]
    · rwa [hlast]
  · obtain ⟨u, hback, rfl⟩ := resume_some_eq_ok.1 hdone
    have hlt := unitSpelling_lt hdigits
    have htoNat : (Char.ofNat l).toNat = l := by
      apply toNat_ofNat_of_valid
      rw [isTrailing_iff] at htrailing
      rw [isLeading_iff] at hleading
      show _ < _ ∨ _ < _ ∧ _ < _
      omega
    refine ⟨_, '\\' :: 'u' :: digits, s, u, by simp, by simp, .unit ?_, hback, rfl⟩
    rwa [htoNat]

theorem charAt_of_stringFrom (h : stringFrom true .plain (c :: s) = .ok (t, rest)) (hc : c ≠ '"') :
    CharAt (c :: s) t rest := by
  by_cases hescape : c = '\\'
  · subst hescape
    rw [stringFrom_escape] at h
    cases s with
    | nil => cases h
    | cons letter s =>
      by_cases hu : letter = 'u'
      · subst hu
        exact charAt_unit h
      · rw [stringFrom_eq_resume (by simp)] at h
        simp only [stringStep, if_neg hu] at h
        cases hshort : shortEscape? letter with
        | none =>
          rw [hshort] at h
          cases h
        | some d =>
          rw [hshort] at h
          obtain ⟨u, hback, rfl⟩ := resume_some_eq_ok.1 h
          exact ⟨d, ['\\', letter], s, u, rfl, by simp, .short (shortEscape?_eq_some.1 hshort), hback, rfl⟩
  · rw [stringFrom_eq_resume (by simp [hc])] at h
    simp only [stringStep, if_neg hescape] at h
    split_ifs at h with hcontrol
    · cases h
    · obtain ⟨u, hback, rfl⟩ := resume_some_eq_ok.1 h
      exact ⟨c, [c], s, u, rfl, by simp, .raw (Char.not_lt.1 hcontrol) hc hescape, hback, rfl⟩

/-- What is read as a text is a form of it, up to the quote. -/
theorem exists_textSpelling (h : string s = .ok (t, rest)) : ∃ u, s = u ++ '"' :: rest ∧ TextSpelling t u := by
  induction hn : s.length using Nat.strong_induction_on generalizing s t with
  | _ n ih =>
    cases s with
    | nil => cases h
    | cons c s =>
      by_cases hc : c = '"'
      · subst hc
        cases h
        exact ⟨[], rfl, .nil⟩
      · obtain ⟨d, front, back, u, hs, hne, hchar, hback, rfl⟩ := charAt_of_stringFrom h hc
        have hlength : back.length < n := by
          rw [← hn, hs, List.length_append]
          have := List.length_pos_of_ne_nil hne
          omega
        obtain ⟨v, rfl, hv⟩ := ih back.length hlength hback rfl
        exact ⟨front ++ v, by rw [hs, List.append_assoc], .cons hchar hv⟩

end Read

end TableModel
