import TableModel.Json.Container
import TableModel.Proofs.Json.Locality

/-!
# What the readers of scalars look at

Words and strings are closed. A string looks ahead in one place: behind `\u` it wants four more bytes in
the text. A string that is read to its end has its four digits there, so the part it takes holds the
four bytes already. Numerals are local, part by part: digits go on up to a character that is no digit,
and a sign, a point or an exponent mark shows by one character.
-/

namespace TableModel

namespace Read

variable {α : Type}

/-! ### Words and strings -/

theorem word_closed (value : α) (letters : Text) : Closed (word value letters) := by
  intro s a rest h
  induction letters generalizing s with
  | nil =>
    cases h
    exact ⟨[], rfl, fun _ => rfl⟩
  | cons c letters ih =>
    cases s with
    | nil => cases h
    | cons d s =>
      simp only [word] at h
      split at h
      · rename_i hcd
        obtain ⟨used, rfl, hmore⟩ := ih h
        refine ⟨d :: used, rfl, fun more => ?_⟩
        rw [List.cons_append, word, if_pos hcd, hmore]
      · cases h

theorem le_utf8Size (t : Text) : t.length ≤ t.utf8Size := by
  induction t with
  | nil => exact Nat.zero_le _
  | cons c t ih =>
    have hc := c.utf8Size_pos
    simp only [Text.utf8Size, List.foldr_cons, List.length_cons] at ih ⊢
    omega

/-- The unit that a step has just begun to read, if it has. -/
def StringState.begins : StringState → Bool
  | .unit _ 0 _ => true
  | _ => false

/-- Only a step into the digits of an escape looks at the text behind its character. -/
theorem stringStep_congr {paired : Bool} {state next : StringState} {c : Char} {s t : Text}
    {d : Option Char} (h : stringStep paired state c s = .ok (next, d))
    (ht : next.begins → 4 ≤ t.length) : stringStep paired state c t = .ok (next, d) := by
  have hunit : ∀ {leading : Option Nat},
      (if Text.utf8Size (s.take 4) < 4 then .error .endInString
        else .ok (.unit leading 0 0, none) : Except SyntaxError (StringState × Option Char))
        = .ok (next, d) →
      (if Text.utf8Size (t.take 4) < 4 then .error .endInString
        else .ok (.unit leading 0 0, none) : Except SyntaxError (StringState × Option Char))
        = .ok (next, d) := by
    intro leading hs
    split at hs
    · cases hs
    · cases hs
      have hlength := ht rfl
      have hsize := le_utf8Size (t.take 4)
      rw [List.length_take] at hsize
      rw [if_neg (by omega)]
  cases state with
  | plain => exact h
  | escape =>
    simp only [stringStep] at h ⊢
    split at h
    · rename_i hu
      rw [if_pos hu]
      exact hunit h
    · rename_i hu
      rw [if_neg hu]
      exact h
  | unit leading digits value => exact h
  | pair leading => exact h
  | pairEscape leading =>
    simp only [stringStep] at h ⊢
    split at h
    · rename_i hu
      rw [if_pos hu]
      exact hunit h
    · cases h

theorem stringFrom_cons {paired : Bool} {state : StringState} {c : Char} {s t rest : Text}
    (hend : ¬(state = .plain ∧ c = '"')) (h : stringFrom paired state (c :: s) = .ok (t, rest)) :
    ∃ next d u, stringStep paired state c s = .ok (next, d) ∧
      stringFrom paired next s = .ok (u, rest) ∧ t = d.toList ++ u := by
  rw [stringFrom, if_neg hend] at h
  cases hstep : stringStep paired state c s with
  | error cause =>
    rw [hstep] at h
    cases h
  | ok step =>
    obtain ⟨next, d⟩ := step
    rw [hstep] at h
    obtain ⟨⟨u, mid⟩, hread, hlast⟩ := bind_eq_ok.1 h
    cases hlast
    exact ⟨next, d, u, rfl, hread, rfl⟩

theorem length_of_stringFrom {paired : Bool} {state : StringState} {s t rest : Text}
    (h : stringFrom paired state s = .ok (t, rest)) : rest.length < s.length := by
  induction s generalizing state t with
  | nil => cases h
  | cons c s ih =>
    rw [List.length_cons]
    by_cases hend : state = .plain ∧ c = '"'
    · rw [stringFrom, if_pos hend] at h
      cases h
      exact Nat.lt_succ_self _
    · obtain ⟨next, d, u, -, hread, -⟩ := stringFrom_cons hend h
      exact Nat.lt_succ_of_lt (ih hread)

theorem length_of_unit {paired : Bool} {leading : Option Nat} {digits value : Nat} {s t rest : Text}
    (hdigits : digits ≤ 3) (h : stringFrom paired (.unit leading digits value) s = .ok (t, rest)) :
    rest.length + (4 - digits) ≤ s.length := by
  induction s generalizing digits value t with
  | nil => cases h
  | cons c s ih =>
    obtain ⟨next, d, u, hstep, hread, -⟩ := stringFrom_cons (by simp) h
    have hshort := length_of_stringFrom hread
    rw [List.length_cons]
    by_cases hlast : digits = 3
    · omega
    · simp only [stringStep] at hstep
      split at hstep
      · cases hstep
      · rw [if_neg hlast] at hstep
        cases hstep
        have hrest := ih (by omega) hread
        omega

theorem stringFrom_closed (paired : Bool) (state : StringState) :
    Closed (stringFrom paired state) := by
  intro s t rest h
  induction s generalizing state t with
  | nil => cases h
  | cons c s ih =>
    by_cases hend : state = .plain ∧ c = '"'
    · rw [stringFrom, if_pos hend] at h
      cases h
      exact ⟨[c], rfl, fun more => by rw [List.singleton_append, stringFrom, if_pos hend]⟩
    · obtain ⟨next, d, u, hstep, hread, rfl⟩ := stringFrom_cons hend h
      obtain ⟨used, rfl, hmore⟩ := ih next hread
      have hlength : next.begins → 4 ≤ used.length := by
        intro hnext
        cases next with
        | unit leading digits value =>
          cases digits with
          | zero =>
            have hunit := length_of_unit (by omega) hread
            rw [List.length_append] at hunit
            omega
          | succ digits => cases hnext
        | _ => cases hnext
      refine ⟨c :: used, rfl, fun more => ?_⟩
      have hagain := stringStep_congr (t := used ++ more) hstep fun hnext => by
        have := hlength hnext
        rw [List.length_append]
        omega
      rw [List.cons_append, stringFrom, if_neg hend, hagain]
      exact bind_eq_ok.2 ⟨(u, more), hmore more, rfl⟩

theorem string_closed : Closed string :=
  stringFrom_closed true .plain

/-! ### Numbers -/

theorem digits_local : Local fun s => .ok (digits s) := by
  intro s t rest h
  obtain ⟨ht, hrest⟩ := Prod.mk.inj (Except.ok.inj h)
  refine ⟨t, by rw [← ht, ← hrest, List.takeWhile_append_dropWhile], fun more hmore => ?_⟩
  have hall : ∀ c ∈ t, c.isDigit = true := by
    intro c hc
    rw [← ht] at hc
    exact List.mem_takeWhile_imp hc
  have hstop : digits more = ([], more) := by
    cases more with
    | nil => rfl
    | cons c more =>
      obtain ⟨u, hu⟩ := exists_cons_of_head? hmore.symm
      have hc : c.isDigit = false := of_dropWhile_eq_cons (hrest.trans hu)
      simp only [digits, List.takeWhile_cons, List.dropWhile_cons, hc, Bool.false_eq_true, if_false]
  obtain ⟨htake, hdrop⟩ := Prod.mk.inj hstop
  simp only [digits, List.takeWhile_append_of_pos hall, List.dropWhile_append_of_pos hall, htake,
    hdrop, List.append_nil]

theorem someDigits_local (unfinished : SyntaxError) : Local (someDigits unfinished) := by
  intro s t rest h
  cases s with
  | nil => cases h
  | cons c s =>
    simp only [someDigits] at h
    split at h
    · rename_i hc
      obtain ⟨used, hs, hmore⟩ := digits_local h
      refine ⟨used, hs, fun more hhead => ?_⟩
      have hfirst : (used ++ more).head? = (c :: s).head? := by
        rw [hs, List.head?_append, List.head?_append, hhead]
      obtain ⟨u, hu⟩ := exists_cons_of_head? hfirst
      have hagain := hmore more hhead
      rw [hu] at hagain ⊢
      rw [someDigits, if_pos hc]
      exact hagain
    · cases h

theorem someDigits_progress (unfinished : SyntaxError) : Progress (someDigits unfinished) := by
  intro s t rest h
  cases s with
  | nil => cases h
  | cons c s =>
    simp only [someDigits] at h
    split at h
    · rename_i hc
      have hrest : (c :: s).dropWhile Char.isDigit = rest := (Prod.mk.inj (Except.ok.inj h)).2
      rw [List.dropWhile_cons, if_pos hc] at hrest
      have hle := (hrest ▸ List.dropWhile_suffix (l := s) Char.isDigit : rest <:+ s).length_le
      rw [List.length_cons]
      omega
    · cases h

theorem wholePart_local (unfinished : SyntaxError) : Local (wholePart unfinished) := by
  refine (someDigits_local unfinished).bind fun whole => ?_
  dsimp only
  split
  · exact .error
  · exact .pure whole

theorem wholePart_progress (unfinished : SyntaxError) : Progress (wholePart unfinished) := by
  refine (someDigits_progress unfinished).bind_left fun whole => ?_
  dsimp only
  split
  · exact .error
  · exact .pure whole

theorem fractionPart_of_ne {unfinished : SyntaxError} {s : Text} (hs : s.head? ≠ some '.') :
    fractionPart unfinished s = .ok (none, s) := by
  unfold fractionPart
  split
  · exact absurd rfl hs
  · rfl

theorem fractionPart_local (unfinished : SyntaxError) : Local (fractionPart unfinished) := by
  have hpoint : Local fun s => fractionPart unfinished ('.' :: s) :=
    (someDigits_local unfinished).bind fun fraction => .pure (some fraction)
  intro s a rest h
  by_cases hs : s.head? = some '.'
  · obtain ⟨u, rfl⟩ := List.head?_eq_some_iff.1 hs
    obtain ⟨used, rfl, hmore⟩ := hpoint h
    exact ⟨'.' :: used, rfl, hmore⟩
  · rw [fractionPart_of_ne hs] at h
    cases h
    exact ⟨[], rfl, fun more hmore => fractionPart_of_ne (hmore ▸ hs)⟩

def leadingMinus : Text → Bool × Text
  | '-' :: s => (true, s)
  | s => (false, s)

theorem leadingMinus_of_ne {s : Text} (hs : s.head? ≠ some '-') : leadingMinus s = (false, s) := by
  unfold leadingMinus
  split
  · exact absurd rfl hs
  · rfl

theorem leadingMinus_local : Local fun s => .ok (leadingMinus s) := by
  intro s b rest h
  by_cases hs : s.head? = some '-'
  · obtain ⟨u, rfl⟩ := List.head?_eq_some_iff.1 hs
    cases h
    exact ⟨['-'], rfl, fun _ _ => rfl⟩
  · simp only [leadingMinus_of_ne hs] at h
    cases h
    exact ⟨[], rfl, fun more hmore => congrArg _ (leadingMinus_of_ne (hmore ▸ hs))⟩

theorem exponentSign_of_ne {s : Text} (hminus : s.head? ≠ some '-') (hplus : s.head? ≠ some '+') :
    exponentSign s = (false, s) := by
  unfold exponentSign
  split
  · exact absurd rfl hminus
  · exact absurd rfl hplus
  · rfl

theorem exponentSign_local : Local fun s => .ok (exponentSign s) := by
  intro s b rest h
  by_cases hminus : s.head? = some '-'
  · obtain ⟨u, rfl⟩ := List.head?_eq_some_iff.1 hminus
    cases h
    exact ⟨['-'], rfl, fun _ _ => rfl⟩
  · by_cases hplus : s.head? = some '+'
    · obtain ⟨u, rfl⟩ := List.head?_eq_some_iff.1 hplus
      cases h
      exact ⟨['+'], rfl, fun _ _ => rfl⟩
    · simp only [exponentSign_of_ne hminus hplus] at h
      cases h
      refine ⟨[], rfl, fun more hmore => ?_⟩
      exact congrArg _ (exponentSign_of_ne (hmore ▸ hminus) (hmore ▸ hplus))

theorem exponentPart_local (unfinished : SyntaxError) : Local (exponentPart unfinished) := by
  have hdigits : ∀ below : Bool,
      Local (mapped (fun exponent => some (below, exponent)) (someDigits unfinished)) :=
    fun below => (someDigits_local unfinished).mapped _
  have hmark : Local fun s => exponentPart unfinished ('e' :: s) :=
    exponentSign_local.behind hdigits
  intro s a rest h
  cases s with
  | nil =>
    cases h
    refine ⟨[], rfl, fun more hmore => ?_⟩
    rw [List.head?_eq_none_iff.1 hmore]
    rfl
  | cons c s =>
    by_cases hc : c = 'e' ∨ c = 'E'
    · have hsame : ∀ u, exponentPart unfinished (c :: u) = exponentPart unfinished ('e' :: u) := by
        intro u
        simp only [exponentPart, if_pos hc, true_or, if_true]
      rw [hsame] at h
      obtain ⟨used, rfl, hmore⟩ := hmark h
      refine ⟨c :: used, rfl, fun more hhead => ?_⟩
      rw [List.cons_append, hsame]
      exact hmore more hhead
    · simp only [exponentPart, if_neg hc] at h
      cases h
      refine ⟨[], rfl, fun more hmore => ?_⟩
      obtain ⟨u, rfl⟩ := exists_cons_of_head? hmore
      rw [List.nil_append, exponentPart, if_neg hc]

def unsigned (unfinished : SyntaxError) (negative : Bool) : Read Numeral := fun s => do
  let (whole, s) ← wholePart unfinished s
  let (fraction, s) ← fractionPart unfinished s
  let (exponent, s) ← exponentPart unfinished s
  .ok ({ negative, whole, fraction, exponent }, s)

theorem numeral_eq (unfinished : SyntaxError) (s : Text) :
    numeral unfinished s = unsigned unfinished (leadingMinus s).1 (leadingMinus s).2 := rfl

theorem afterWhole_local (unfinished : SyntaxError) (negative : Bool) (whole : Text) :
    Local fun s => (do
      let (fraction, s) ← fractionPart unfinished s
      let (exponent, s) ← exponentPart unfinished s
      .ok (({ negative, whole, fraction, exponent } : Numeral), s)) :=
  (fractionPart_local unfinished).bind fun _ => (exponentPart_local unfinished).bind fun _ => .pure _

theorem unsigned_local (unfinished : SyntaxError) (negative : Bool) :
    Local (unsigned unfinished negative) :=
  (wholePart_local unfinished).bind fun whole => afterWhole_local unfinished negative whole

theorem unsigned_progress (unfinished : SyntaxError) (negative : Bool) :
    Progress (unsigned unfinished negative) :=
  (wholePart_progress unfinished).bind_left fun whole => afterWhole_local unfinished negative whole

theorem numeral_local (unfinished : SyntaxError) : Local (numeral unfinished) :=
  leadingMinus_local.behind (unsigned_local unfinished)

theorem numeral_progress (unfinished : SyntaxError) : Progress (numeral unfinished) := by
  intro s x rest h
  rw [numeral_eq] at h
  have hshort := unsigned_progress unfinished _ h
  have hle : (leadingMinus s).2.length ≤ s.length := (leadingMinus_local.suffix rfl).length_le
  omega

theorem number_local : Local number := by
  refine (numeral_local .endInValue).bind fun numeral => ?_
  dsimp only
  cases numeral.value? with
  | none => exact .error
  | some value => exact .pure value

theorem number_progress : Progress number := by
  refine (numeral_progress .endInValue).bind_left fun numeral => ?_
  dsimp only
  cases numeral.value? with
  | none => exact .error
  | some value => exact .pure value

/-! ### Scalars -/

theorem scalar_nil : scalar [] = malformed .endInValue := rfl

theorem scalar_local : Local scalar := by
  have hstring : Closed (mapped Json.string string) := string_closed.mapped Json.string
  have hnumber : Local (mapped Json.number number) := number_local.mapped Json.number
  intro s a rest h
  cases s with
  | nil => cases h
  | cons c s =>
    -- A word or a string begins behind the first character, a number with it.
    have hbehind : ∀ {r : Read Json}, Closed r → r s = .ok (a, rest) →
        (∀ u, scalar (c :: u) = r u) →
        ∃ used, c :: s = used ++ rest ∧
          ∀ more, more.head? = rest.head? → scalar (used ++ more) = .ok (a, more) := by
      intro r hr hread hscalar
      obtain ⟨used, rfl, hmore⟩ := hr hread
      exact ⟨c :: used, rfl, fun more _ => (hscalar _).trans (hmore more)⟩
    by_cases hn : c = 'n'
    · subst hn
      exact hbehind (word_closed _ _) h fun _ => rfl
    by_cases ht : c = 't'
    · subst ht
      exact hbehind (word_closed _ _) h fun _ => rfl
    by_cases hf : c = 'f'
    · subst hf
      exact hbehind (word_closed _ _) h fun _ => rfl
    by_cases hq : c = '"'
    · subst hq
      exact hbehind hstring h fun _ => rfl
    by_cases hd : c = '-' ∨ c.isDigit
    · simp only [scalar, if_neg hn, if_neg ht, if_neg hf, if_neg hq, if_pos hd] at h
      obtain ⟨used, hs, hmore⟩ := hnumber h
      refine ⟨used, hs, fun more hhead => ?_⟩
      have hfirst : (used ++ more).head? = (c :: s).head? := by
        rw [hs, List.head?_append, List.head?_append, hhead]
      obtain ⟨u, hu⟩ := exists_cons_of_head? hfirst
      have hagain := hmore more hhead
      rw [hu] at hagain ⊢
      simp only [scalar, if_neg hn, if_neg ht, if_neg hf, if_neg hq, if_pos hd]
      exact hagain
    · simp only [scalar, if_neg hn, if_neg ht, if_neg hf, if_neg hq, if_neg hd] at h
      cases h

theorem scalar_progress : Progress scalar := by
  have hnumber : Progress (mapped Json.number number) := number_progress.mapped Json.number
  intro s a rest h
  cases s with
  | nil => cases h
  | cons c s =>
    have hbehind : ∀ {r : Read Json}, Closed r → r s = .ok (a, rest) → rest.length < (c :: s).length := by
      intro r hr hread
      exact Nat.lt_succ_of_le (hr.toLocal.suffix hread).length_le
    simp only [scalar] at h
    split_ifs at h
    · exact hbehind (word_closed _ _) h
    · exact hbehind (word_closed _ _) h
    · exact hbehind (word_closed _ _) h
    · exact hbehind (string_closed.mapped Json.string) h
    · exact hnumber h
    · cases h

end Read

end TableModel
