import TableModel.Proofs.Schema.Parts
import TableModel.Proofs.Schema.Trees

/-!
# Two routes through a decoder

A decoder reads a value straight from the text, or takes apart the tree that the text gives. At every place the first
reader stops where the reader of trees stops, and the tree that it passes over is judged to be what was read. This holds
of the scalars, and is handed on by lists, by optional values and by records, whether they are given as objects or as
lists. It may be that only some trees are let through: a member that a record does not know is where the routes part,
since in the text it is skipped and not read.
-/

namespace TableModel

open Json

namespace Read

variable {α β σ : Type} {levels : Nat} {s rest rest' budget : Text} {first : Bool}

/-! ### Readers beside the reader of trees -/

/-- Where a text is read and also gives a tree that is let through, both readers stop at the same place, and the tree
is judged to be what was read. -/
def Mirrors (levels : Nat) (admits : Json → Prop) (judge : Json → Except ShapeError α) (read : Read α) : Prop :=
  ∀ ⦃s rest rest' : Text⦄ ⦃a : α⦄ ⦃v : Json⦄, read s = .ok (a, rest) → Json.read levels s = .ok (v, rest') →
    admits v → rest = rest' ∧ judge v = .ok a

def MirrorsMembers (levels : Nat) (admits : Text × Json → Prop) (add : σ → Text × Json → Except ShapeError σ)
    (step : σ → Text → Read σ) : Prop :=
  ∀ ⦃state result : σ⦄ ⦃key s rest behind rest' : Text⦄ ⦃value : Json⦄, step state key s = .ok (result, rest) →
    skipBlanks s = ':' :: behind → Json.read levels behind = .ok (value, rest') → admits (key, value) →
      rest = rest' ∧ add state (key, value) = .ok result

variable {admits : Json → Prop} {judge accept : Json → Except ShapeError α} {read : Read α}

theorem Mirrors.mapped (h : Mirrors levels admits judge read) (f : α → β) :
    Mirrors levels admits (fun v => f <$> judge v) (mapped f read) := by
  intro s rest rest' b v hread htree hadmits
  obtain ⟨⟨a, mid⟩, ha, hlast⟩ := bind_eq_ok.1 hread
  cases hlast
  obtain ⟨hrest, hjudge⟩ := h ha htree hadmits
  exact ⟨hrest, congrArg (f <$> ·) hjudge⟩

/-- A value that is not a list or an object is the same token for both readers. -/
theorem mirrors_valueBy {list map : Read α} (hscalar : ∀ ⦃v a⦄, accept v = .ok a → judge v = .ok a)
    (hlist : ∀ ⦃n u rest rest' a values⦄, levels = n + 1 → list u = .ok (a, rest) →
      elementsIn (elementStep n) u true [] u = .ok (values.reverse, rest') → admits (.array values) →
        rest = rest' ∧ judge (.array values) = .ok a)
    (hmap : ∀ ⦃n u rest rest' a members⦄, levels = n + 1 → map u = .ok (a, rest) →
      membersIn (memberStep n) u true [] u = .ok (members.reverse, rest') → admits (.object members) →
        rest = rest' ∧ judge (.object members) = .ok a) :
    Mirrors levels admits judge (valueBy accept list map) := by
  intro s rest rest' a v h htree hadmits
  rcases read_cases htree with ⟨n, u, hlevels, hs, hread⟩ | ⟨n, u, hlevels, hs, hread⟩ | ⟨c, u, hs, hc, hd, hread⟩
  · obtain ⟨values, hloop, rfl⟩ := readElements_eq_ok.1 hread
    rw [valueBy_list hs] at h
    exact hlist hlevels h hloop hadmits
  · obtain ⟨members, hloop, rfl⟩ := readMembers_eq_ok.1 hread
    rw [valueBy_map hs] at h
    exact hmap hlevels h hloop hadmits
  · rw [valueBy_scalar hs hc hd] at h
    obtain ⟨w, hw, haccept⟩ := scalarBy_eq_ok.1 h
    rw [hread] at hw
    cases hw
    exact ⟨rfl, hscalar haccept⟩

/-! ### The loops side by side -/

/-- A loop whose steps mirror a judgement of elements adds the elements that the other loop collects. -/
theorem elementsIn_mirrors {step : σ → Read σ} {add : σ → Json → Except ShapeError σ} {state result : σ}
    (hstep : ∀ state, Mirrors levels admits (add state) (step state)) {values reversed : List Json}
    (h : elementsIn step budget first state s = .ok (result, rest))
    (htree : elementsIn (elementStep levels) budget first reversed s = .ok (values.reverse ++ reversed, rest'))
    (hall : ∀ v ∈ values, admits v) : rest = rest' ∧ values.foldlM add state = .ok result := by
  induction budget generalizing first state s reversed values with
  | nil => cases h
  | cons c budget ih =>
    obtain ⟨⟨more, mid⟩, hnext, hbody⟩ := bind_eq_ok.1 h
    rcases elementsIn_cases htree with ⟨rfl, hend⟩ | ⟨mid', value, behind, others, hmore, hvalue, rfl, hloop'⟩
    · rw [hend] at hnext
      cases hnext
      cases hbody
      exact ⟨rfl, rfl⟩
    · rw [hmore] at hnext
      cases hnext
      obtain ⟨⟨next, behind'⟩, hread, hloop⟩ := bind_eq_ok.1 hbody
      obtain ⟨hadmits, hothers⟩ := List.forall_mem_cons.1 hall
      obtain ⟨rfl, hadd⟩ := hstep state hread hvalue hadmits
      obtain ⟨hrest, hfold⟩ := ih hloop hloop' hothers
      rw [List.foldlM_cons]
      exact ⟨hrest, bind_eq_ok.2 ⟨next, hadd, hfold⟩⟩

theorem membersIn_mirrors {step : σ → Text → Read σ} {admits : Text × Json → Prop}
    {add : σ → Text × Json → Except ShapeError σ} {state result : σ} (hstep : MirrorsMembers levels admits add step)
    {members reversed : List (Text × Json)} (h : membersIn step budget first state s = .ok (result, rest))
    (htree : membersIn (memberStep levels) budget first reversed s = .ok (members.reverse ++ reversed, rest'))
    (hall : ∀ m ∈ members, admits m) : rest = rest' ∧ members.foldlM add state = .ok result := by
  induction budget generalizing first state s reversed members with
  | nil => cases h
  | cons c budget ih =>
    obtain ⟨⟨more, mid⟩, hnext, hbody⟩ := bind_eq_ok.1 h
    rcases membersIn_cases htree with ⟨rfl, hend⟩ |
      ⟨mid', key, gap, behind, value, back, others, hmore, hkey, hcolon, hvalue, rfl, hloop'⟩
    · rw [hend] at hnext
      cases hnext
      cases hbody
      exact ⟨rfl, rfl⟩
    · rw [hmore] at hnext
      cases hnext
      obtain ⟨⟨key', gap'⟩, hkey', hmember⟩ := bind_eq_ok.1 hbody
      rw [hkey] at hkey'
      cases hkey'
      obtain ⟨⟨next, back'⟩, hread, hloop⟩ := bind_eq_ok.1 hmember
      obtain ⟨hadmits, hothers⟩ := List.forall_mem_cons.1 hall
      obtain ⟨rfl, hadd⟩ := hstep hread hcolon hvalue hadmits
      obtain ⟨hrest, hfold⟩ := ih hloop hloop' hothers
      rw [List.foldlM_cons]
      exact ⟨hrest, bind_eq_ok.2 ⟨next, hadd, hfold⟩⟩

end Read

/-! ### Decoders -/

open Read

/-- The text is read as the tree that it gives is judged, if that is let through. -/
def Decoder.Mirrors {α : Type} (d : Decoder α) (admits : Json → Prop) : Prop :=
  ∀ levels, Read.Mirrors levels admits d.ofJson (d.read levels)

namespace Decoder

variable {α β : Type} {d : Decoder α} {admits : Json → Prop}

theorem Mirrors.mono {other : Json → Prop} (h : d.Mirrors admits) (hother : ∀ v, other v → admits v) :
    d.Mirrors other :=
  fun levels _ _ _ _ v hread htree hv => h levels hread htree (hother v hv)

theorem mirrors_ofScalar (expected : Text) (accept? : Json → Option α) : (ofScalar expected accept?).Mirrors admits := by
  intro levels
  dsimp only [ofScalar]
  apply mirrors_valueBy
  · exact fun _ _ h => h
  · intro _ _ _ _ _ _ _ h
    cases h
  · intro _ _ _ _ _ _ _ h
    cases h

theorem mirrors_ofTree (ofJson : Json → Except ShapeError α) : (ofTree ofJson).Mirrors admits := by
  intro levels s rest rest' a v h htree _
  obtain ⟨⟨w, mid⟩, hread, hlast⟩ := bind_eq_ok.1 h
  rw [htree] at hread
  cases hread
  obtain ⟨hjudge, hrest⟩ := judged_eq_ok.1 hlast
  exact ⟨hrest.symm, hjudge⟩

/-- Only `null` starts with its letter. -/
theorem Mirrors.optional (h : d.Mirrors admits) (hnull : ∀ a, d.ofJson .null ≠ .ok a) : (optional d).Mirrors admits := by
  intro levels s rest rest' a v hread htree hadmits
  dsimp only [Decoder.optional] at hread
  split at hread
  · rename_i u hs
    rw [read_scalar hs (by decide) (by decide)] at htree
    obtain ⟨rfl, rfl⟩ := eq_of_word hread
    obtain ⟨hrest, rfl⟩ := @eq_of_word _ _ Json Json.null v "ull" htree
    exact ⟨List.append_cancel_left hrest, rfl⟩
  · obtain ⟨⟨b, mid⟩, hb, hlast⟩ := bind_eq_ok.1 hread
    cases hlast
    rw [← read_skipBlanks] at htree
    obtain ⟨hrest, hjudge⟩ := h levels hb htree hadmits
    have hne : v ≠ .null := by
      intro hv
      rw [hv] at hjudge
      exact hnull b hjudge
    exact ⟨hrest, optional_eq_ok.2 (.inr ⟨hne, b, hjudge, rfl⟩)⟩

theorem Mirrors.list (h : d.Mirrors admits) (expected : Text) :
    (list expected d).Mirrors fun v => ∀ values, v = .array values → ∀ w ∈ values, admits w := by
  intro levels
  rw [list_read]
  apply mirrors_valueBy
  · intro v a hwrong
    cases hwrong
  · intro n u rest rest' as values hlevels hread htree hadmits
    rw [hlevels] at hread
    obtain ⟨⟨reversed, mid⟩, hloop, hlast⟩ := bind_eq_ok.1 hread
    cases hlast
    have hstep : ∀ reversed, Read.Mirrors n admits (d.addElement reversed) (d.elementStep n reversed) := by
      intro reversed s rest rest' result v hstep hvalue hv
      obtain ⟨a, ha, hresult⟩ := elementStep_eq_ok.1 hstep
      obtain ⟨hrest, hjudge⟩ := h n ha hvalue hv
      exact ⟨hrest, addElement_eq_ok.2 ⟨a, hjudge, hresult⟩⟩
    rw [← List.append_nil values.reverse] at htree
    obtain ⟨hrest, hfold⟩ := elementsIn_mirrors hstep hloop htree (hadmits values rfl)
    obtain ⟨as, has, rfl⟩ := foldlM_addElement.1 hfold
    refine ⟨hrest, list_eq_ok.2 ⟨values, rfl, ?_⟩⟩
    rw [has, List.append_nil, List.reverse_reverse]
  · intro _ _ _ _ _ _ _ hread
    cases hread

/-- A value that may be read through a tree mirrors it. -/
theorem ReadsTrees.mirrors {named : Json → Prop} (h : d.ReadsTrees named) : d.Mirrors admits := by
  intro levels s rest rest' a v hread htree _
  obtain ⟨w, hw, -, hjudge⟩ := h.1 hread
  rw [htree] at hw
  cases hw
  exact ⟨rfl, hjudge⟩

end Decoder

/-! ### Records -/

def Field.Mirrors {σ : Type} (field : Field σ) (admits : Json → Prop) : Prop :=
  ∀ levels record, Read.Mirrors levels admits (field.ofJson record) (field.read levels record)

theorem Field.Mirrors.mono {σ : Type} {field : Field σ} {admits other : Json → Prop} (h : field.Mirrors admits)
    (hother : ∀ v, other v → admits v) : field.Mirrors other :=
  fun levels record _ _ _ _ v hread htree hv => h levels record hread htree (hother v hv)

theorem Field.mirrors_of {α σ : Type} {d : Decoder α} {admits : Json → Prop} (h : d.Mirrors admits) (name : Text)
    (set : σ → α → σ) (required : Bool) : (Field.of name d set required).Mirrors admits :=
  fun levels record => (h levels).mapped (set record)

namespace RecordFormat

variable {σ : Type} {format : RecordFormat σ} {admits : Text → Json → Prop} {levels : Nat}

/-- The members of an object are fields, and their values are let through, as are those of a list. -/
def Admits (format : RecordFormat σ) (admits : Text → Json → Prop) : Json → Prop
  | .object members => ∀ m ∈ members, m.1 ∈ format.fields.map Field.name ∧ admits m.1 m.2
  | .array values => ∀ p ∈ format.fields.zip values, admits p.1.name p.2
  | _ => True

theorem readMember_mirrors (hfields : ∀ field ∈ format.fields, field.Mirrors (admits field.name)) :
    MirrorsMembers levels (fun m => m.1 ∈ format.fields.map Field.name ∧ admits m.1 m.2) format.addMember
      (format.readMember levels) := by
  intro state result key s rest behind rest' value h hcolon htree hadmits
  obtain ⟨hkey, hvalue⟩ := hadmits
  dsimp only at hkey hvalue
  rw [readMember] at h
  split at h
  · rename_i hnone
    exact absurd hkey (field?_eq_none.1 hnone)
  · rename_i field hfield
    split at h
    · cases h
    · rename_i hseen
      obtain ⟨⟨⟨⟩, mid⟩, hmid, hbody⟩ := bind_eq_ok.1 h
      rw [colon_eq_ok, hcolon] at hmid
      cases hmid
      obtain ⟨⟨record, last⟩, hread, hlast⟩ := bind_eq_ok.1 hbody
      cases hlast
      have hmirrors := hfields field (mem_of_field? hfield)
      rw [name_of_field? hfield] at hmirrors
      obtain ⟨hrest, hjudge⟩ := hmirrors levels state.2 hread htree hvalue
      refine ⟨hrest, ?_⟩
      simp only [addMember, hfield, if_neg hseen]
      exact bind_eq_ok.2 ⟨record, hjudge, rfl⟩

theorem closeArray_eq_ok {s rest : Text} : closeArray s = .ok ((), rest) ↔ skipBlanks s = ']' :: rest := by
  unfold closeArray
  split
  · simp [*, malformed]
  · simp [*]
  · rename_i hs
    split <;> simp [hs, malformed]
  · rename_i hne _
    constructor
    · intro h
      cases h
    · intro hs
      exact absurd hs (hne rest)

theorem exists_cons_of_elementsIn {step : σ → Read σ} {budget s rest : Text} {first : Bool} {state result : σ}
    (h : elementsIn step budget first state s = .ok (result, rest)) : ∃ c more, budget = c :: more := by
  cases budget with
  | nil => cases h
  | cons c budget => exact ⟨c, budget, rfl⟩

/-- Fields in a list are the elements in order. The list may end before the last field, but not go on behind it. -/
theorem readFields_mirrors {fields : List (Field σ)} {record result : σ} {position : Nat} {s rest rest' budget : Text}
    {values reversed : List Json} (hfields : ∀ field ∈ fields, field.Mirrors (admits field.name))
    (h : format.readFields levels position fields record s = .ok (result, rest))
    (htree : elementsIn (elementStep levels) budget (position == 0) reversed s =
      .ok (values.reverse ++ reversed, rest'))
    (hall : ∀ p ∈ fields.zip values, admits p.1.name p.2) :
    rest = rest' ∧ (fields.zip values).foldlM (fun r p => p.1.ofJson r p.2) record = .ok result ∧
      values.length ≤ fields.length ∧
        Field.firstRequired (position + values.length) (fields.drop values.length) = none := by
  induction fields generalizing position record s budget reversed values with
  | nil =>
    obtain ⟨c, budget, rfl⟩ := exists_cons_of_elementsIn htree
    obtain ⟨⟨⟨⟩, mid⟩, hclose, hlast⟩ := bind_eq_ok.1 h
    cases hlast
    have hbracket : nextElement (position == 0) s = .ok (false, ']' :: rest) :=
      nextElement_bracket (closeArray_eq_ok.1 hclose)
    rcases elementsIn_cases htree with ⟨rfl, hend⟩ | ⟨_, _, _, _, hmore, -⟩
    · rw [hbracket] at hend
      cases hend
      exact ⟨rfl, rfl, le_rfl, rfl⟩
    · rw [hbracket] at hmore
      cases hmore
  | cons field fields ih =>
    obtain ⟨c, budget, rfl⟩ := exists_cons_of_elementsIn htree
    obtain ⟨⟨more, mid⟩, hnext, hbody⟩ := bind_eq_ok.1 h
    obtain ⟨hfield, hfields⟩ := List.forall_mem_cons.1 hfields
    rcases elementsIn_cases htree with ⟨rfl, hend⟩ | ⟨mid', value, behind, others, hmore, hvalue, rfl, hloop⟩
    · rw [hend] at hnext
      cases hnext
      dsimp only at hbody
      cases hrequired : Field.firstRequired position (field :: fields) with
      | some missing =>
        rw [hrequired] at hbody
        cases hbody
      | none =>
        rw [hrequired] at hbody
        obtain ⟨⟨⟨⟩, last⟩, hclose, hlast⟩ := bind_eq_ok.1 hbody
        cases hlast
        rw [closeArray_eq_ok, skipBlanks_cons (by decide)] at hclose
        cases hclose
        exact ⟨rfl, rfl, Nat.zero_le _, hrequired⟩
    · rw [hmore] at hnext
      cases hnext
      obtain ⟨⟨next, behind'⟩, hread, hrest⟩ := bind_eq_ok.1 hbody
      rw [List.zip_cons_cons] at hall ⊢
      obtain ⟨hadmits, hall⟩ := List.forall_mem_cons.1 hall
      obtain ⟨rfl, hadd⟩ := hfield levels record hread hvalue hadmits
      obtain ⟨hend, hfold, hlength, hrequired⟩ := ih hfields hrest hloop hall
      refine ⟨hend, ?_, Nat.succ_le_succ hlength, ?_⟩
      · rw [List.foldlM_cons]
        exact bind_eq_ok.2 ⟨next, hadd, hfold⟩
      · rw [List.length_cons, List.drop_succ_cons, Nat.add_comm others.length 1, ← Nat.add_assoc]
        exact hrequired

theorem decoder_mirrors (hfields : ∀ field ∈ format.fields, field.Mirrors (admits field.name)) :
    format.decoder.Mirrors (format.Admits admits) := by
  intro levels
  dsimp only [decoder]
  apply mirrors_valueBy
  · intro v a hwrong
    cases hwrong
  · intro n u rest rest' result values hlevels hread htree hadmits
    rw [hlevels] at hread
    rw [← List.append_nil values.reverse] at htree
    obtain ⟨hrest, hfold, hlength, hrequired⟩ := readFields_mirrors hfields hread htree hadmits
    refine ⟨hrest, bind_eq_ok.2 ⟨result, hfold, ?_⟩⟩
    rw [Nat.zero_add] at hrequired
    rw [hrequired]
    exact if_neg (Nat.not_lt.2 hlength)
  · intro n u rest rest' result members hlevels hread htree hadmits
    rw [hlevels] at hread
    obtain ⟨⟨⟨seen, record⟩, mid⟩, hloop, hlast⟩ := bind_eq_ok.1 hread
    obtain ⟨hfinish, rfl⟩ := judged_eq_ok.1 hlast
    rw [← List.append_nil members.reverse] at htree
    obtain ⟨hrest, hfold⟩ := membersIn_mirrors (readMember_mirrors hfields) hloop htree hadmits
    exact ⟨hrest, bind_eq_ok.2 ⟨(seen, record), hfold, hfinish⟩⟩

end RecordFormat

end TableModel
