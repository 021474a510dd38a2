import Mathlib.Order.Basic
import TableModel.Proofs.Json.Values
import TableModel.Schema.Chunks

/-!
# Streams of documents

A document is a list, and the reader of a list is closed. So a stream falls into documents at the same
places whatever comes later, and a text whose chunks can all be read may be put in front of any other
text: its chunks stay, and the chunks of the other text follow. That one document is read from a text
as a whole just when the text is a stream with one chunk is the case of blanks behind a single
document.
-/

namespace TableModel

open Read

/-! ### Reading the statements of a document -/

theorem statement_local (levels : Nat) : Local (Statement.format.decoder.read levels) :=
  (Statement.format.decoder_closed levels).toLocal

theorem statements_closed (levels : Nat) : Closed (statementsDecoder.read levels) :=
  Decoder.list_closed statement_local Statement.format.decoder_progress _ levels

theorem statements_progress (levels : Nat) : Progress (statementsDecoder.read levels) :=
  Decoder.list_progress statement_local Statement.format.decoder_progress _ levels

theorem statements_skipBlanks (levels : Nat) (s : Text) :
    statementsDecoder.read levels (skipBlanks s) = statementsDecoder.read levels s := by
  rw [statementsDecoder, Decoder.list_read]
  exact valueBy_skipBlanks s

theorem statements_blank {levels : Nat} {s : Text} (hs : skipBlanks s = []) :
    statementsDecoder.read levels s = malformed .endInValue := by
  rw [statementsDecoder, Decoder.list_read]
  exact valueBy_nil hs

theorem readStatements_eq_ok {s : Text} {statements : List Statement} :
    readStatements s = .ok statements ↔
      ∃ rest, statementsDecoder.read nestingLimit s = .ok (statements, rest) ∧ skipBlanks rest = [] :=
  Decoder.document_eq_ok

/-! ### The chunks of a text, one at a time -/

theorem chunksIn_blank {s : Text} (hs : skipBlanks s = []) (budget : Text) :
    chunksIn budget s = [] := by
  cases budget with
  | nil => rfl
  | cons c budget => simp only [chunksIn, hs]

theorem chunksIn_cons {s : Text} (hs : skipBlanks s ≠ []) (c : Char) (budget : Text) :
    chunksIn (c :: budget) s =
      match statementsDecoder.read nestingLimit s with
      | .ok (statements, rest) => .ok statements :: chunksIn budget rest
      | .error cause => [.error cause] := by
  obtain ⟨d, u, hu⟩ := List.exists_cons_of_ne_nil hs
  rw [← statements_skipBlanks, hu]
  cases hread : statementsDecoder.read nestingLimit (d :: u) with
  | error cause => simp only [chunksIn, hu, hread]
  | ok read => simp only [chunksIn, hu, hread]

theorem skipBlanks_of_length_le_zero {s : Text} (hs : s.length ≤ 0) : skipBlanks s = [] := by
  rw [List.length_eq_zero_iff.1 (Nat.le_zero.1 hs)]
  rfl

/-- A budget of as many characters as the text has is never used up. -/
theorem chunksIn_congr {budget other s : Text} (hbudget : s.length ≤ budget.length)
    (hother : s.length ≤ other.length) : chunksIn budget s = chunksIn other s := by
  induction budget generalizing other s with
  | nil =>
    have hs := skipBlanks_of_length_le_zero hbudget
    rw [chunksIn_blank hs, chunksIn_blank hs]
  | cons c budget ih =>
    by_cases hs : skipBlanks s = []
    · rw [chunksIn_blank hs, chunksIn_blank hs]
    · cases other with
      | nil => exact absurd (skipBlanks_of_length_le_zero hother) hs
      | cons d other =>
        rw [chunksIn_cons hs, chunksIn_cons hs]
        rw [List.length_cons] at hbudget hother
        cases hread : statementsDecoder.read nestingLimit s with
        | error cause => rfl
        | ok read =>
          have hrest := statements_progress nestingLimit hread
          exact congrArg _ (ih (by omega) (by omega))

theorem chunks_blank {s : Text} (hs : skipBlanks s = []) : chunks s = [] :=
  chunksIn_blank hs s

theorem chunks_eq {s : Text} (hs : skipBlanks s ≠ []) :
    chunks s =
      match statementsDecoder.read nestingLimit s with
      | .ok (statements, rest) => .ok statements :: chunks rest
      | .error cause => [.error cause] := by
  cases s with
  | nil => exact absurd rfl hs
  | cons c s =>
    rw [chunks, chunksIn_cons hs]
    cases hread : statementsDecoder.read nestingLimit (c :: s) with
    | error cause => rfl
    | ok read =>
      have hrest := statements_progress nestingLimit hread
      rw [List.length_cons] at hrest
      exact congrArg _ (chunksIn_congr (by omega) le_rfl)

theorem chunks_document {s rest : Text} {statements : List Statement}
    (h : statementsDecoder.read nestingLimit s = .ok (statements, rest)) :
    chunks s = .ok statements :: chunks rest := by
  have hs : skipBlanks s ≠ [] := by
    intro he
    rw [statements_blank he] at h
    cases h
  rw [chunks_eq hs, h]

theorem chunks_unreadable {s : Text} {cause : ReadError} (hs : skipBlanks s ≠ [])
    (h : statementsDecoder.read nestingLimit s = .error cause) : chunks s = [.error cause] := by
  rw [chunks_eq hs, h]

theorem chunks_skipBlanks (s : Text) : chunks (skipBlanks s) = chunks s := by
  by_cases hs : skipBlanks s = []
  · rw [chunks_blank hs, hs]
    rfl
  · have hagain : skipBlanks (skipBlanks s) ≠ [] := by rwa [skipBlanks_skipBlanks]
    rw [chunks_eq hs, chunks_eq hagain, statements_skipBlanks]

/-- A text has no chunk, or one that cannot be read, or a document and the chunks behind it. -/
theorem chunks_cases (s : Text) :
    (skipBlanks s = [] ∧ chunks s = []) ∨ (∃ cause, chunks s = [.error cause]) ∨
      ∃ statements rest, statementsDecoder.read nestingLimit s = .ok (statements, rest) ∧
        rest.length < s.length ∧ chunks s = .ok statements :: chunks rest := by
  by_cases hs : skipBlanks s = []
  · exact .inl ⟨hs, chunks_blank hs⟩
  · cases hread : statementsDecoder.read nestingLimit s with
    | error cause => exact .inr (.inl ⟨cause, chunks_unreadable hs hread⟩)
    | ok read =>
      exact .inr (.inr ⟨read.1, read.2, rfl, statements_progress nestingLimit hread,
        chunks_document hread⟩)

/-! ### Texts one behind the other -/

/-- Texts that can be read to their end are read one behind the other as each is on its own. -/
theorem chunks_append {front : Text} (hfront : ∀ cause, .error cause ∉ chunks front) (back : Text) :
    chunks (front ++ back) = chunks front ++ chunks back := by
  induction hn : front.length using Nat.strong_induction_on generalizing front with
  | _ n ih =>
    rcases chunks_cases front with ⟨hs, hnone⟩ | ⟨cause, herror⟩ | ⟨statements, rest, hread, hlt, hchunks⟩
    · rw [hnone, List.nil_append, ← chunks_skipBlanks, skipBlanks_append_of_blank hs, chunks_skipBlanks]
    · exact absurd (herror ▸ List.mem_singleton_self _) (hfront cause)
    · have hrest : ∀ cause, .error cause ∉ chunks rest := by
        intro cause hmem
        exact hfront cause (hchunks ▸ List.mem_cons_of_mem _ hmem)
      rw [chunks_document ((statements_closed nestingLimit).append hread back),
        ih rest.length (hn ▸ hlt) hrest rfl, hchunks, List.cons_append]

theorem chunks_take (s : Text) (k : Nat) (hk : ∀ cause, .error cause ∉ (chunks s).take k) :
    ∃ front back, s = front ++ back ∧ chunks front = (chunks s).take k := by
  induction k generalizing s with
  | zero => exact ⟨[], s, rfl, rfl⟩
  | succ k ih =>
    rcases chunks_cases s with ⟨hs, hnone⟩ | ⟨cause, herror⟩ | ⟨statements, rest, hread, -, hchunks⟩
    · exact ⟨[], s, rfl, by rw [hnone]; rfl⟩
    · rw [herror, List.take_succ_cons] at hk
      exact absurd List.mem_cons_self (hk cause)
    · rw [hchunks, List.take_succ_cons] at hk ⊢
      obtain ⟨front, back, rfl, hfront⟩ :=
        ih rest fun cause hmem => hk cause (List.mem_cons_of_mem _ hmem)
      obtain ⟨used, rfl, hused⟩ := statements_closed nestingLimit hread
      refine ⟨used ++ front, back, (List.append_assoc used front back).symm, ?_⟩
      rw [chunks_document (hused front), hfront]

/-- Only the last chunk can be one that cannot be read. -/
theorem chunks_shape (s : Text) :
    ∃ read : List (List Statement), chunks s = read.map .ok ∨
      ∃ cause, chunks s = read.map .ok ++ [.error cause] := by
  induction hn : s.length using Nat.strong_induction_on generalizing s with
  | _ n ih =>
    rcases chunks_cases s with ⟨-, hnone⟩ | ⟨cause, herror⟩ | ⟨statements, rest, -, hlt, hchunks⟩
    · exact ⟨[], .inl hnone⟩
    · exact ⟨[], .inr ⟨cause, herror⟩⟩
    · obtain ⟨read, hrest | ⟨cause, hrest⟩⟩ := ih rest.length (hn ▸ hlt) rest rfl
      · exact ⟨statements :: read, .inl (by rw [hchunks, hrest, List.map_cons])⟩
      · exact ⟨statements :: read, .inr ⟨cause, by rw [hchunks, hrest, List.map_cons, List.cons_append]⟩⟩

theorem chunks_error_last {s : Text} {cause : ReadError} {front back : List Chunk}
    (h : chunks s = front ++ .error cause :: back) : back = [] := by
  have hreadable (read : List (List Statement)) (rest : List Chunk) :
      read.map Except.ok ≠ front ++ .error cause :: rest := by
    intro hread
    have hmem : (.error cause : Chunk) ∈ read.map Except.ok :=
      hread ▸ List.mem_append_right front List.mem_cons_self
    obtain ⟨statements, -, ⟨⟩⟩ := List.mem_map.1 hmem
  obtain ⟨read, hs | ⟨other, hs⟩⟩ := chunks_shape s
  · exact absurd (hs.symm.trans h) (hreadable read back)
  · rcases List.eq_nil_or_concat back with hback | ⟨init, last, hback⟩
    · exact hback
    · rw [hs, hback, List.concat_eq_append, ← List.cons_append, ← List.append_assoc] at h
      exact absurd (List.append_inj_left' h rfl) (hreadable read init)

theorem readStatements_iff_chunks {s : Text} {statements : List Statement} :
    readStatements s = .ok statements ↔ chunks s = [.ok statements] := by
  rw [readStatements_eq_ok]
  constructor
  · rintro ⟨rest, hread, hrest⟩
    rw [chunks_document hread, chunks_blank hrest]
  · intro h
    rcases chunks_cases s with ⟨-, hnone⟩ | ⟨cause, herror⟩ | ⟨read, rest, hread, -, hchunks⟩
    · rw [hnone] at h
      cases h
    · rw [herror] at h
      cases h
    · rw [hchunks] at h
      obtain ⟨hfirst, hrest⟩ := List.cons.inj h
      cases hfirst
      refine ⟨rest, hread, ?_⟩
      by_contra hne
      rw [chunks_eq hne] at hrest
      split at hrest <;> cases hrest

/-! ### Streams of given documents -/

/-- A document that can be read, and the blanks before it in a stream. -/
structure StreamPart where
  blanks : Text
  document : Text
  statements : List Statement
  hblanks : blanks.all isBlank
  hread : readStatements document = .ok statements

def streamText (parts : List StreamPart) : Text :=
  parts.flatMap fun part => part.blanks ++ part.document

theorem chunks_blanks_append {blanks : Text} (hblanks : blanks.all isBlank) (s : Text) :
    chunks (blanks ++ s) = chunks s := by
  have hnil := skipBlanks_eq_nil (List.all_eq_true.1 hblanks)
  rw [← chunks_skipBlanks, skipBlanks_append_of_blank hnil, chunks_skipBlanks]

theorem chunks_document_append {document : Text} {statements : List Statement}
    (hread : readStatements document = .ok statements) (s : Text) :
    chunks (document ++ s) = .ok statements :: chunks s := by
  have hdocument := readStatements_iff_chunks.1 hread
  have hnone : ∀ cause, .error cause ∉ chunks document := by
    intro cause hmem
    rw [hdocument, List.mem_singleton] at hmem
    cases hmem
  rw [chunks_append hnone, hdocument]
  rfl

theorem chunks_streamText_append (parts : List StreamPart) (s : Text) :
    chunks (streamText parts ++ s) = parts.map (fun part => .ok part.statements) ++ chunks s := by
  induction parts with
  | nil => rfl
  | cons part parts ih =>
    have htext : streamText (part :: parts) ++ s =
        part.blanks ++ (part.document ++ (streamText parts ++ s)) := by
      simp only [streamText, List.flatMap_cons, List.append_assoc]
    rw [htext, chunks_blanks_append part.hblanks, chunks_document_append part.hread, ih]
    rfl

theorem chunks_eq_of_head? {s : Text} {cause : ReadError}
    (h : (chunks s).head? = some (.error cause)) : chunks s = [.error cause] := by
  obtain ⟨_ | ⟨statements, read⟩, hs | ⟨other, hs⟩⟩ := chunks_shape s
  · rw [hs] at h
    cases h
  · rw [hs] at h ⊢
    cases h
    rfl
  · rw [hs] at h
    cases h
  · rw [hs] at h
    cases h

/-- A stream of documents, with any blanks between them and at its end, falls into just these
documents, and a text that cannot be read behind it only adds its own error. Of any text the chunks
are documents with at most one error behind them, and a text is one document just when it is a stream
of that document alone. -/
theorem chunks_stream :
    (∀ (parts : List StreamPart) (blanks : Text), blanks.all isBlank →
      chunks (streamText parts ++ blanks) = parts.map (fun part => .ok part.statements) ∧
      ∀ (tail : Text) (cause : ReadError), (chunks tail).head? = some (.error cause) →
        chunks (streamText parts ++ (blanks ++ tail)) =
          parts.map (fun part => .ok part.statements) ++ [.error cause]) ∧
    (∀ s : Text, ∃ read : List (List Statement), chunks s = read.map .ok ∨
      ∃ cause, chunks s = read.map .ok ++ [.error cause]) ∧
    ∀ (s : Text) (statements : List Statement),
      readStatements s = .ok statements ↔ chunks s = [.ok statements] := by
  refine ⟨fun parts blanks hblanks => ⟨?_, fun tail cause htail => ?_⟩, chunks_shape,
    fun s statements => readStatements_iff_chunks⟩
  · rw [chunks_streamText_append, chunks_blank (skipBlanks_eq_nil (List.all_eq_true.1 hblanks)), List.append_nil]
  · rw [chunks_streamText_append, chunks_blanks_append hblanks, chunks_eq_of_head? htail]

def twoDocuments : List StreamPart := [
  { blanks := [], document := "[]", statements := [], hblanks := by decide, hread := by decide },
  { blanks := "\n", document := "[\x7b\"type\":\"drop\"\x7d,\x7b\"type\":\"create_table\",\"name\":\"t\"\x7d] "
    statements := [.other, .createTable { name := "t" }], hblanks := by decide, hread := by decide +kernel }]

theorem chunks_stream_twoDocuments :
    " \t".toList.all isBlank ∧
    (chunks "[\x7b]").head? = some (.error (.malformed .keyNotString)) ∧
    chunks (streamText twoDocuments ++ (" \t".toList ++ "[\x7b]")) =
      [.ok [], .ok [.other, .createTable { name := "t" }], .error (.malformed .keyNotString)] := by
  have hblanks : " \t".toList.all isBlank := by decide
  have htail : (chunks "[\x7b]").head? = some (.error (.malformed .keyNotString)) := by decide
  have hparts : twoDocuments.map (fun part => (.ok part.statements : Chunk)) =
      [.ok [], .ok [.other, .createTable { name := "t" }]] := rfl
  refine ⟨hblanks, htail, ?_⟩
  rw [(chunks_stream.1 twoDocuments " \t".toList hblanks).2 "[\x7b]" _ htail, hparts]
  rfl

end TableModel
