import TableModel.Proofs.Text.Lines
import TableModel.Schema.Literal
import TableModel.Proofs.Number.Text

/-!
# Reading quoted text back

A text between quotes holds one quote with a backslash before it at most, and this backslash is the one
that was added: the first quote in the text is always the one behind it. So the text can be read back.
Escapes of breaks could also have stood in the text, so that a quoted text on one line is read back only
if there were no breaks.
-/

namespace TableModel

namespace Text

variable {s t : Text}

/-! ### Breaks -/

theorem not_mem_escapeBreak {c : Char} (hc : c = '\r' ∨ c = '\n') (d : Char) : c ∉ escapeBreak d := by
  rw [escapeBreak]
  by_cases hreturn : d = '\r'
  · rw [if_pos hreturn]
    rcases hc with rfl | rfl <;> decide
  · by_cases hfeed : d = '\n'
    · rw [if_neg hreturn, if_pos hfeed]
      rcases hc with rfl | rfl <;> decide
    · rw [if_neg hreturn, if_neg hfeed, List.mem_singleton]
      rcases hc with rfl | rfl
      · exact Ne.symm hreturn
      · exact Ne.symm hfeed

theorem not_mem_quote {c : Char} (hc : c = '\r' ∨ c = '\n') (t : Text) : c ∉ quote t := by
  have hmark : c ∉ "'".toList := by
    rcases hc with rfl | rfl <;> decide
  intro hmem
  rcases List.mem_append.1 hmem with hmem | hmem
  · rcases List.mem_append.1 hmem with hmem | hmem
    · exact hmark hmem
    · obtain ⟨d, -, hd⟩ := List.mem_flatMap.1 hmem
      exact not_mem_escapeBreak hc d hd
  · exact hmark hmem

theorem Unbroken.quote (t : Text) : Unbroken (quote t) :=
  ⟨not_mem_quote (.inl rfl) t, not_mem_quote (.inr rfl) t⟩

theorem mem_escapeQuote {c : Char} (h : c ∈ t.escapeQuote) : c = '\\' ∨ c ∈ t := by
  induction t with
  | nil => exact .inr h
  | cons d t ih =>
    rw [escapeQuote] at h
    split at h
    · rename_i hd
      rw [hd]
      exact List.mem_cons.1 h
    · rcases List.mem_cons.1 h with h | h
      · exact .inr (h ▸ List.mem_cons_self)
      · exact (ih h).imp_right (List.mem_cons_of_mem d)

theorem Unbroken.escapeQuote (h : Unbroken t) : Unbroken t.escapeQuote := by
  refine ⟨?_, ?_⟩
  · intro hmem
    exact (mem_escapeQuote hmem).elim (by decide) h.1
  · intro hmem
    exact (mem_escapeQuote hmem).elim (by decide) h.2

theorem count_escapeQuote {c : Char} (hc : c ≠ '\\') (t : Text) : t.escapeQuote.count c = t.count c := by
  induction t with
  | nil => rfl
  | cons d t ih =>
    rw [escapeQuote]
    split
    · rename_i hd
      rw [hd, List.count_cons_of_ne (Ne.symm hc)]
    · rw [List.count_cons, List.count_cons, ih]

/-- The quotes and the backslash that are added are no breaks. -/
theorem count_inQuotes {c : Char} (hc : c = '\r' ∨ c = '\n') (t : Text) : (inQuotes t).count c = t.count c := by
  have hescape : c ≠ '\\' := by
    rcases hc with rfl | rfl <;> decide
  have hmark : ("'" : Text).count c = 0 := by
    rcases hc with rfl | rfl <;> decide
  rw [inQuotes, List.count_append, List.count_append, hmark, count_escapeQuote hescape, Nat.zero_add, Nat.add_zero]

theorem mem_inQuotes_iff {c : Char} (hc : c = '\r' ∨ c = '\n') : c ∈ inQuotes t ↔ c ∈ t := by
  rw [← List.count_pos_iff, count_inQuotes hc, List.count_pos_iff]

theorem unbroken_inQuotes_iff : Unbroken (inQuotes t) ↔ Unbroken t :=
  and_congr (mem_inQuotes_iff (.inl rfl)).not (mem_inQuotes_iff (.inr rfl)).not

theorem flatMap_escapeBreak (h : Unbroken t) : t.flatMap escapeBreak = t := by
  induction t with
  | nil => rfl
  | cons c t ih =>
    obtain ⟨hreturn, ht⟩ := not_or.1 (mt List.mem_cons.2 h.1)
    obtain ⟨hfeed, hrest⟩ := not_or.1 (mt List.mem_cons.2 h.2)
    rw [List.flatMap_cons, ih ⟨ht, hrest⟩, escapeBreak, if_neg (Ne.symm hreturn),
      if_neg (Ne.symm hfeed)]
    rfl

theorem quote_of_unbroken (h : Unbroken t) : quote t = inQuotes t := by
  rw [quote, flatMap_escapeBreak h.escapeQuote, inQuotes]

/-! ### Quotes -/

theorem escapeQuote_ne_quote_cons (t rest : Text) : t.escapeQuote ≠ '\'' :: rest := by
  cases t with
  | nil =>
    intro h
    cases h
  | cons c t =>
    rw [escapeQuote]
    split
    · intro h
      exact absurd (List.cons.inj h).1 (by decide)
    · rename_i hc
      intro h
      exact hc (List.cons.inj h).1

theorem escapeQuote_inj (h : s.escapeQuote = t.escapeQuote) : s = t := by
  induction s generalizing t with
  | nil =>
    cases t with
    | nil => rfl
    | cons d t =>
      rw [escapeQuote, escapeQuote] at h
      split at h <;> cases h
  | cons c s ih =>
    cases t with
    | nil =>
      rw [escapeQuote, escapeQuote] at h
      split at h <;> cases h
    | cons d t =>
      rw [escapeQuote, escapeQuote] at h
      by_cases hc : c = '\''
      · by_cases hd : d = '\''
        · rw [if_pos hc, if_pos hd] at h
          rw [hc, hd, (List.cons.inj (List.cons.inj h).2).2]
        · rw [if_pos hc, if_neg hd] at h
          exact absurd (List.cons.inj h).2.symm (escapeQuote_ne_quote_cons t s)
      · by_cases hd : d = '\''
        · rw [if_neg hc, if_pos hd] at h
          exact absurd (List.cons.inj h).2 (escapeQuote_ne_quote_cons s t)
        · rw [if_neg hc, if_neg hd] at h
          obtain ⟨hhead, hrest⟩ := List.cons.inj h
          rw [hhead, ih hrest]

theorem inQuotes_inj (h : inQuotes s = inQuotes t) : s = t := by
  rw [inQuotes, inQuotes] at h
  exact escapeQuote_inj (List.append_cancel_left (List.append_cancel_right h))

theorem quote_inj (hs : Unbroken s) (ht : Unbroken t) (h : quote s = quote t) : s = t := by
  rw [quote_of_unbroken hs, quote_of_unbroken ht] at h
  exact inQuotes_inj h

end Text

/-- A number and a text are told apart, and so are two texts. -/
theorem Literal.toScript_text {left right : Literal} (h : left.toScript = right.toScript) {t : Text}
    (htext : left = .text t) : right = .text t := by
  subst htext
  cases right with
  | number n =>
    have hmem : '\'' ∈ n.text := by
      show '\'' ∈ (Literal.number n).toScript
      rw [← h]
      exact List.mem_append_left _ List.mem_cons_self
    exact absurd hmem (Number.not_mem_text (by decide) n)
  | text u => rw [Text.inQuotes_inj h]

end TableModel
