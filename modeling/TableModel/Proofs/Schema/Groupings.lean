import TableModel.Proofs.Schema.Forms
import TableModel.Proofs.Schema.Streams

/-!
# Documents put together of statements

A text that is read as one statement where it stands alone between brackets is an element of a list, with its blanks. So
it is read as the same statement in any list, and the statements of a document can be told from the texts between its
commas. Documents one behind the other are then a stream of one chunk for each, wherever the lists are cut.
-/

namespace TableModel

open Json Read Text

variable {v : Json} {t : Text}

theorem spelling_of_brackets (h : DocumentSpelling v ('[' :: (t ++ [']']))) : v.Spelling ('[' :: (t ++ [']'])) := by
  obtain ⟨before, middle, after, heq, hbefore, hafter, hspelling⟩ := h
  have hopen : before = [] := by
    cases before with
    | nil => rfl
    | cons c before =>
      obtain ⟨rfl, -⟩ := List.cons.inj heq
      exact absurd (hbefore '[' List.mem_cons_self) (by decide)
  have hclose : after = [] := by
    rcases List.eq_nil_or_concat' after with hnil | ⟨init, c, rfl⟩
    · exact hnil
    · rw [← List.cons_append, ← List.append_assoc, ← List.append_assoc] at heq
      obtain ⟨-, hlast⟩ := List.append_inj' heq rfl
      obtain ⟨rfl, -⟩ := List.cons.inj hlast
      exact absurd (hafter ']' (List.mem_append_right init List.mem_cons_self)) (by decide)
  rw [hopen, hclose, List.append_nil, List.nil_append] at heq
  rw [heq]
  exact hspelling

theorem Spelling.exists_elements {values : List Json} (h : v.Spelling t) (hv : v = .array values) :
    ∃ (blanks : Text) (elements : List Element), blanks.Blank ∧ (∀ e ∈ elements, e.Sound) ∧
      (∀ e ∈ elements, e.value.Spelling e.text) ∧ elements.map Element.value = values ∧
      t = '[' :: (blanks ++ (List.intercalate [','] (elements.map Element.written) ++ [']'])) := by
  cases h with
  | array hblanks hsound hvalues =>
    cases hv
    exact ⟨_, _, hblanks, hsound, hvalues, rfl, rfl⟩
  | _ => cases hv

/-! ### Texts of statements -/

/-- A text that is read as one statement where it is all that a document lists. -/
structure StatementText where
  text : Text
  statement : Statement
  hread : readStatements ('[' :: (text ++ [']'])) = .ok [statement]

namespace StatementText

structure Writes (given : StatementText) (e : Element) : Prop where
  hsound : e.Sound
  hspelling : e.value.Spelling e.text
  hwritten : e.written = given.text
  hfits : Fits (nestingLimit - 1) e.value
  hnamed : e.value.NamedTag
  hstatement : Statement.format.decoder.ofJson e.value = .ok given.statement

theorem exists_writes (given : StatementText) : ∃ e, given.Writes e := by
  obtain ⟨v, hdocument, hfits, hnamed, hread⟩ := readStatements_iff.1 given.hread
  obtain ⟨values, rfl, hvalues⟩ := Decoder.list_eq_ok.1 hread
  obtain ⟨blanks, elements, hblanks, hsound, hspelling, rfl, htext⟩ :=
    Spelling.exists_elements (spelling_of_brackets hdocument) rfl
  have hone : ∃ e, elements = [e] ∧ Statement.format.decoder.ofJson e.value = .ok given.statement := by
    cases elements with
    | nil => cases hvalues
    | cons e rest =>
      obtain ⟨first, others, hfirst, hothers, hlist⟩ := mapM_cons_eq_ok.1 hvalues
      cases hlist
      cases rest with
      | nil => exact ⟨e, rfl, hfirst⟩
      | cons next rest =>
        obtain ⟨_, _, -, -, hlist⟩ := mapM_cons_eq_ok.1 hothers
        cases hlist
  obtain ⟨e, rfl, hstatement⟩ := hone
  obtain ⟨levels, hlevels, hvalue⟩ := fits_array.1 hfits
  cases hlevels
  have hblank := hsound e List.mem_cons_self
  -- The blanks behind the bracket belong to the element, as they would behind a comma.
  refine ⟨{ e with before := blanks ++ e.before }, ?_, hspelling e List.mem_cons_self, ?_, ?_, ?_, hstatement⟩
  · exact ⟨Blank.append hblanks hblank.hbefore, hblank.hafter⟩
  · rw [List.map_singleton, List.intercalate_singleton, ← List.append_assoc] at htext
    rw [Element.written, List.append_assoc]
    exact (List.append_cancel_right (List.cons.inj htext).2).symm
  · exact hvalue e.value List.mem_cons_self
  · exact hnamed _ rfl e.value List.mem_cons_self

end StatementText

/-! ### Documents -/

def statementsOf (members : List StatementText) : List Statement :=
  members.map (·.statement)

def documentText (members : List StatementText) : Text :=
  '[' :: (List.intercalate [','] (members.map (·.text)) ++ [']'])

/-- The texts are read in a document as they are alone. -/
theorem readStatements_documentText (members : List StatementText) :
    readStatements (documentText members) = .ok (statementsOf members) := by
  choose e he using StatementText.exists_writes
  have htext : documentText members =
      '[' :: ([] ++ (List.intercalate [','] ((members.map e).map Element.written) ++ [']'])) := by
    rw [List.map_map]
    simp only [Function.comp_def, (he _).hwritten]
    rfl
  have hforall {p : Element → Prop} (hp : ∀ given, p (e given)) : ∀ element ∈ members.map e, p element := by
    intro element helement
    obtain ⟨given, -, rfl⟩ := List.mem_map.1 helement
    exact hp given
  have hspelling : (Json.array ((members.map e).map Element.value)).Spelling (documentText members) := by
    rw [htext]
    exact .array (fun c hc => absurd hc List.not_mem_nil) (hforall fun given => (he given).hsound)
      (hforall fun given => (he given).hspelling)
  refine readStatements_iff.2 ⟨_, ⟨[], _, [], by simp, nofun, nofun, hspelling⟩, ?_, ?_, ?_⟩
  · exact fits_array.2 ⟨nestingLimit - 1, rfl, List.forall_mem_map.2 (hforall fun given => (he given).hfits)⟩
  · rintro _ ⟨⟩
    exact List.forall_mem_map.2 (hforall fun given => (he given).hnamed)
  · refine Decoder.list_eq_ok.2 ⟨_, rfl, Decoder.mapM_of_forall₂ ?_⟩
    rw [List.map_map, statementsOf, List.forall₂_map_left_iff, List.forall₂_map_right_iff]
    exact List.forall₂_same.2 fun given _ => (he given).hstatement

def groupedText (groups : List (List StatementText)) : Text :=
  groups.flatMap documentText

theorem chunks_groupedText (groups : List (List StatementText)) :
    chunks (groupedText groups) = groups.map fun group => .ok (statementsOf group) := by
  induction groups with
  | nil => rfl
  | cons group groups ih =>
    rw [groupedText, List.flatMap_cons, chunks_document_append (readStatements_documentText group), ← groupedText, ih]
    rfl

end TableModel
