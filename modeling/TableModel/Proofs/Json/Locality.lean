import Mathlib.Data.List.DropRight
import TableModel.Json.Reader
import TableModel.Proofs.Results

/-!
# What a reader looks at

A reader takes a front part off its text. A reader is closed if this part alone decides what it
returns: put anything else behind the part, and the reader takes the same part and returns the same
value. A list, an object and a string are closed, since each has a mark for its end. A numeral has
none, so its reader looks at the next character too; it is only local, which means that the part can be
put in front of any text that starts with the same character, or in front of nothing if nothing stood
behind it.

Everything between the values is told apart by one character behind some blanks. So what stands
between them is local, and the loops over elements and members, which end in a bracket, are closed as
soon as the readers of their elements are local.
-/

namespace TableModel

namespace Read

variable {α β : Type}

/-- The part that the reader takes and the character behind it decide what it returns. -/
def Local (r : Read α) : Prop :=
  ∀ ⦃s : Text⦄ ⦃a : α⦄ ⦃rest : Text⦄, r s = .ok (a, rest) →
    ∃ used, s = used ++ rest ∧ ∀ more, more.head? = rest.head? → r (used ++ more) = .ok (a, more)

/-- The part that the reader takes decides what it returns. -/
def Closed (r : Read α) : Prop :=
  ∀ ⦃s : Text⦄ ⦃a : α⦄ ⦃rest : Text⦄, r s = .ok (a, rest) →
    ∃ used, s = used ++ rest ∧ ∀ more, r (used ++ more) = .ok (a, more)

def Progress (r : Read α) : Prop :=
  ∀ ⦃s : Text⦄ ⦃a : α⦄ ⦃rest : Text⦄, r s = .ok (a, rest) → rest.length < s.length

theorem Local.suffix {r : Read α} (hr : Local r) {s rest : Text} {a : α}
    (h : r s = .ok (a, rest)) : rest <:+ s := by
  obtain ⟨used, rfl, -⟩ := hr h
  exact List.suffix_append used rest

theorem Closed.toLocal {r : Read α} (hr : Closed r) : Local r := by
  intro s a rest h
  obtain ⟨used, hs, hmore⟩ := hr h
  exact ⟨used, hs, fun more _ => hmore more⟩

theorem Closed.append {r : Read α} (hr : Closed r) {s rest : Text} {a : α}
    (h : r s = .ok (a, rest)) (more : Text) : r (s ++ more) = .ok (a, rest ++ more) := by
  obtain ⟨used, rfl, hmore⟩ := hr h
  rw [List.append_assoc]
  exact hmore (rest ++ more)

/-! ### Readers one after the other -/

theorem Closed.pure (a : α) : Closed fun s => .ok (a, s) := by
  intro s b rest h
  cases h
  exact ⟨[], rfl, fun _ => rfl⟩

theorem Local.pure (a : α) : Local fun s => .ok (a, s) :=
  (Closed.pure a).toLocal

theorem Closed.error {cause : Text → ReadError} : Closed (α := α) fun s => .error (cause s) := by
  intro s a rest h
  cases h

theorem Local.error {cause : Text → ReadError} : Local (α := α) fun s => .error (cause s) :=
  Closed.error.toLocal

private theorem head?_append_congr {used rest more : Text} (h : used ≠ [] ∨ more.head? = rest.head?) :
    (used ++ more).head? = (used ++ rest).head? := by
  cases used with
  | nil => exact h.resolve_left (· rfl)
  | cons c used => rfl

theorem Local.bind {r : Read α} {f : α × Text → Except ReadError (β × Text)} (hr : Local r)
    (hf : ∀ a, Local fun s => f (a, s)) : Local fun s => r s >>= f := by
  intro s b rest h
  obtain ⟨⟨a, mid⟩, hread, hnext⟩ := bind_eq_ok.1 h
  obtain ⟨front, rfl, hfront⟩ := hr hread
  obtain ⟨back, rfl, hback⟩ := hf a hnext
  refine ⟨front ++ back, (List.append_assoc front back rest).symm, fun more hmore => ?_⟩
  rw [List.append_assoc]
  exact bind_eq_ok.2 ⟨(a, back ++ more), hfront _ (head?_append_congr (.inr hmore)), hback more hmore⟩

/-- What is split off the text may be looked at before the rest is read. -/
theorem Local.behind {split : Text → α × Text} {r : α → Read β} (hsplit : Local fun s => .ok (split s))
    (hr : ∀ a, Local (r a)) : Local fun s => r (split s).1 (split s).2 :=
  hsplit.bind (f := fun read => r read.1 read.2) hr

/-- A local reader is closed by a closed one behind it that needs a character. -/
theorem Local.bind_closed {r : Read α} {f : α × Text → Except ReadError (β × Text)} (hr : Local r)
    (hf : ∀ a, Closed fun s => f (a, s)) (hneeds : ∀ a b rest, f (a, []) ≠ .ok (b, rest)) :
    Closed fun s => r s >>= f := by
  intro s b rest h
  obtain ⟨⟨a, mid⟩, hread, hnext⟩ := bind_eq_ok.1 h
  obtain ⟨front, rfl, hfront⟩ := hr hread
  obtain ⟨back, rfl, hback⟩ := hf a hnext
  have hne : back ≠ [] := by
    rintro rfl
    exact hneeds a b [] (hback [])
  refine ⟨front ++ back, (List.append_assoc front back rest).symm, fun more => ?_⟩
  rw [List.append_assoc]
  exact bind_eq_ok.2 ⟨(a, back ++ more), hfront _ (head?_append_congr (.inl hne)), hback more⟩

theorem Closed.bind {r : Read α} {f : α × Text → Except ReadError (β × Text)} (hr : Closed r)
    (hf : ∀ a, Closed fun s => f (a, s)) : Closed fun s => r s >>= f := by
  intro s b rest h
  obtain ⟨⟨a, mid⟩, hread, hnext⟩ := bind_eq_ok.1 h
  obtain ⟨front, rfl, hfront⟩ := hr hread
  obtain ⟨back, rfl, hback⟩ := hf a hnext
  refine ⟨front ++ back, (List.append_assoc front back rest).symm, fun more => ?_⟩
  rw [List.append_assoc]
  exact bind_eq_ok.2 ⟨(a, back ++ more), hfront _, hback more⟩

theorem Progress.bind_left {r : Read α} {f : α × Text → Except ReadError (β × Text)} (hr : Progress r)
    (hf : ∀ a, Local fun s => f (a, s)) : Progress fun s => r s >>= f := by
  intro s b rest h
  obtain ⟨⟨a, mid⟩, hread, hnext⟩ := bind_eq_ok.1 h
  have hfirst := hr hread
  have hsecond := ((hf a).suffix hnext).length_le
  omega

def mapped (f : α → β) (r : Read α) : Read β :=
  fun s => r s >>= fun read => .ok (f read.1, read.2)

theorem Closed.mapped {r : Read α} (hr : Closed r) (f : α → β) : Closed (mapped f r) :=
  hr.bind fun a => .pure (f a)

theorem Local.mapped {r : Read α} (hr : Local r) (f : α → β) : Local (mapped f r) :=
  hr.bind fun a => .pure (f a)

theorem Progress.mapped {r : Read α} (hr : Progress r) (f : α → β) : Progress (mapped f r) :=
  hr.bind_left fun a => .pure (f a)

/-! ### Blanks -/

theorem skipBlanks_skipBlanks (s : Text) : skipBlanks (skipBlanks s) = skipBlanks s :=
  List.dropWhile_idempotent isBlank s

theorem skipBlanks_append_of_blank {blanks : Text} (h : skipBlanks blanks = []) (s : Text) :
    skipBlanks (blanks ++ s) = skipBlanks s := by
  simp only [skipBlanks] at h ⊢
  rw [List.dropWhile_append, if_pos (by simp [h])]

theorem skipBlanks_eq_nil {blanks : Text} (h : ∀ c ∈ blanks, isBlank c) : skipBlanks blanks = [] := by
  rw [skipBlanks, List.dropWhile_eq_nil_iff]
  exact h

theorem of_dropWhile_eq_cons {p : Char → Bool} {s u : Text} {c : Char}
    (h : s.dropWhile p = c :: u) : p c = false := by
  have hhead := List.head?_dropWhile_not p s
  rw [h] at hhead
  exact hhead

theorem skipBlanks_split {s u : Text} {c : Char} (h : skipBlanks s = c :: u) :
    ∃ blanks, s = blanks ++ c :: u ∧ ∀ more, skipBlanks (blanks ++ c :: more) = c :: more := by
  have hblank : skipBlanks (s.takeWhile isBlank) = [] := by
    refine skipBlanks_eq_nil fun d hd => ?_
    exact List.mem_takeWhile_imp hd
  have hc : isBlank c = false := of_dropWhile_eq_cons h
  refine ⟨s.takeWhile isBlank, ?_, fun more => ?_⟩
  · rw [← h, skipBlanks, List.takeWhile_append_dropWhile]
  · rw [skipBlanks_append_of_blank hblank, skipBlanks, List.dropWhile_cons, hc]
    rfl

theorem exists_cons_of_head? {more u : Text} {c : Char} (h : more.head? = (c :: u).head?) :
    ∃ v, more = c :: v := by
  cases more with
  | nil => cases h
  | cons d v =>
    cases h
    exact ⟨v, rfl⟩

/-! ### Between the values -/

theorem nextElement_bracket {first : Bool} {s u : Text} (hs : skipBlanks s = ']' :: u) :
    nextElement first s = .ok (false, ']' :: u) := by
  simp only [nextElement, hs]

theorem nextElement_first {s u : Text} {c : Char} (hs : skipBlanks s = c :: u) (hc : c ≠ ']') :
    nextElement true s = .ok (true, c :: u) := by
  simp only [nextElement, hs, if_true]

theorem nextElement_comma {s u v : Text} {c : Char} (hs : skipBlanks s = ',' :: u)
    (hu : skipBlanks u = c :: v) (hc : c ≠ ']') : nextElement false s = .ok (true, c :: v) := by
  have hcomma : ',' ≠ ']' := by decide
  simp only [nextElement, hs, hu, Bool.false_eq_true, if_false, if_true]
  split
  · contradiction
  · rename_i h
    cases h
    exact absurd rfl hc
  · rfl

theorem nextElement_cases {first next : Bool} {s rest : Text}
    (h : nextElement first s = .ok (next, rest)) :
    (next = false ∧ skipBlanks s = rest ∧ ∃ u, rest = ']' :: u) ∨
      (next = true ∧ ∃ c u, rest = c :: u ∧ c ≠ ']' ∧
        ((first = true ∧ skipBlanks s = rest) ∨
          (first = false ∧ ∃ t, skipBlanks s = ',' :: t ∧ skipBlanks t = rest))) := by
  unfold nextElement at h
  split at h
  · cases h
  · rename_i u hs
    cases h
    exact .inl ⟨rfl, hs, u, rfl⟩
  · rename_i c u hc hs
    split at h
    · rename_i hfirst
      cases h
      exact .inr ⟨rfl, c, u, rfl, hc, .inl ⟨hfirst, hs⟩⟩
    · rename_i hfirst
      split at h
      · rename_i hcomma
        subst hcomma
        split at h
        · cases h
        · cases h
        · rename_i hnil hbracket
          cases h
          obtain ⟨d, v, hu⟩ := List.exists_cons_of_ne_nil hnil
          have hd : d ≠ ']' := fun hd => hbracket v (by rw [hu, hd])
          exact .inr ⟨rfl, d, v, hu, hd, .inr ⟨by simpa using hfirst, u, hs, rfl⟩⟩
      · cases h

theorem nextElement_local (first : Bool) : Local (nextElement first) := by
  intro s next rest h
  rcases nextElement_cases h with ⟨rfl, hs, u, rfl⟩ | ⟨rfl, c, u, rfl, hc, ⟨rfl, hs⟩ | ⟨rfl, t, hs, ht⟩⟩
  · obtain ⟨blanks, rfl, hblanks⟩ := skipBlanks_split hs
    refine ⟨blanks, rfl, fun more hmore => ?_⟩
    obtain ⟨v, rfl⟩ := exists_cons_of_head? hmore
    exact nextElement_bracket (hblanks v)
  · obtain ⟨blanks, rfl, hblanks⟩ := skipBlanks_split hs
    refine ⟨blanks, rfl, fun more hmore => ?_⟩
    obtain ⟨v, rfl⟩ := exists_cons_of_head? hmore
    exact nextElement_first (hblanks v) hc
  · obtain ⟨blanks, rfl, hblanks⟩ := skipBlanks_split hs
    obtain ⟨inner, rfl, hinner⟩ := skipBlanks_split ht
    refine ⟨blanks ++ ',' :: inner, by simp, fun more hmore => ?_⟩
    obtain ⟨v, rfl⟩ := exists_cons_of_head? hmore
    rw [List.append_assoc]
    exact nextElement_comma (hblanks _) (hinner v) hc

theorem nextMember_brace {first : Bool} {s u : Text} (hs : skipBlanks s = '\x7d' :: u) :
    nextMember first s = .ok (false, '\x7d' :: u) := by
  simp only [nextMember, hs]

theorem nextMember_first {s u : Text} (hs : skipBlanks s = '"' :: u) :
    nextMember true s = .ok (true, u) := by
  have hbrace : '"' ≠ '\x7d' := by decide
  simp only [nextMember, hs, if_true]

theorem nextMember_comma {s t u : Text} (hs : skipBlanks s = ',' :: t)
    (ht : skipBlanks t = '"' :: u) : nextMember false s = .ok (true, u) := by
  have hbrace : ',' ≠ '\x7d' := by decide
  simp only [nextMember, hs, ht, Bool.false_eq_true, if_false, if_true]

/-- The three ways to go on in an object. -/
theorem nextMember_cases {first next : Bool} {s rest : Text}
    (h : nextMember first s = .ok (next, rest)) :
    (next = false ∧ skipBlanks s = rest ∧ ∃ u, rest = '\x7d' :: u) ∨
      (next = true ∧
        ((first = true ∧ skipBlanks s = '"' :: rest) ∨
          (first = false ∧ ∃ t, skipBlanks s = ',' :: t ∧ skipBlanks t = '"' :: rest))) := by
  unfold nextMember at h
  split at h
  · cases h
  · rename_i u hs
    cases h
    exact .inl ⟨rfl, hs, u, rfl⟩
  · rename_i c u hc hs
    split at h
    · rename_i hfirst
      split at h
      · rename_i hquote
        cases h
        exact .inr ⟨rfl, .inl ⟨hfirst, hquote ▸ hs⟩⟩
      · cases h
    · rename_i hfirst
      split at h
      · rename_i hcomma
        split at h
        · cases h
        · cases h
        · rename_i hu
          cases h
          exact .inr ⟨rfl, .inr ⟨by simpa using hfirst, u, hcomma ▸ hs, hu⟩⟩
        · cases h
      · cases h

/-- Before a key the reader has taken its quote, so nothing behind the quote matters. -/
theorem nextMember_more {first : Bool} {s rest : Text} (h : nextMember first s = .ok (true, rest)) :
    ∃ used, s = used ++ rest ∧ used ≠ [] ∧
      ∀ more, nextMember first (used ++ more) = .ok (true, more) := by
  rcases nextMember_cases h with ⟨hf, -⟩ | ⟨-, ⟨rfl, hs⟩ | ⟨rfl, t, hs, ht⟩⟩
  · cases hf
  · obtain ⟨blanks, rfl, hblanks⟩ := skipBlanks_split hs
    refine ⟨blanks ++ ['"'], by simp, by simp, fun more => ?_⟩
    rw [List.append_assoc]
    exact nextMember_first (hblanks more)
  · obtain ⟨blanks, rfl, hblanks⟩ := skipBlanks_split hs
    obtain ⟨inner, rfl, hinner⟩ := skipBlanks_split ht
    refine ⟨blanks ++ ',' :: (inner ++ ['"']), by simp, by simp, fun more => ?_⟩
    simp only [List.append_assoc, List.cons_append]
    exact nextMember_comma (hblanks _) (hinner more)

theorem colon_eq_ok {s rest : Text} : colon s = .ok ((), rest) ↔ skipBlanks s = ':' :: rest := by
  constructor
  · intro h
    unfold colon at h
    split at h
    · cases h
    · rename_i hs
      cases h
      exact hs
    · cases h
  · intro hs
    simp only [colon, hs]

theorem colon_closed : Closed colon := by
  intro s a rest h
  obtain ⟨blanks, rfl, hblanks⟩ := skipBlanks_split (colon_eq_ok.1 h)
  refine ⟨blanks ++ [':'], by simp, fun more => ?_⟩
  rw [List.append_assoc]
  exact colon_eq_ok.2 (hblanks more)

end Read

end TableModel
