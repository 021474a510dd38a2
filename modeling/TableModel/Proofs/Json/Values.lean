import TableModel.Json.Tagged
import TableModel.Proofs.Json.Scalars

/-!
# What the readers of values look at

The loops over elements and members take closed parts off the text, because they end in a bracket. A
loop is given a budget of characters; the part that it takes is budget enough, as each turn takes at
least one character of it. From the loops it follows that trees are read locally and that tagged values
and lists of them, which are never scalars, are read closed.
-/

namespace TableModel

namespace Read

variable {α σ : Type}

/-! ### The loops -/

theorem elementsIn_closed {step : σ → Read σ} (hstep : ∀ state, Local (step state))
    (hprogress : ∀ state, Progress (step state)) {budget s rest : Text} {first : Bool}
    {state result : σ} (h : elementsIn step budget first state s = .ok (result, rest)) :
    ∃ used, s = used ++ rest ∧ used ≠ [] ∧ ∀ more other : Text, used.length ≤ other.length →
      elementsIn step other first state (used ++ more) = .ok (result, more) := by
  induction budget generalizing first state s with
  | nil => cases h
  | cons c budget ih =>
    obtain ⟨⟨next, t⟩, hnext, hbody⟩ := bind_eq_ok.1 h
    obtain ⟨front, rfl, hfront⟩ := nextElement_local first hnext
    cases next with
    | false =>
      cases hbody
      rcases nextElement_cases hnext with ⟨-, -, u, rfl⟩ | ⟨hf, -⟩
      · refine ⟨front ++ [']'], by simp, by simp, fun more other hother => ?_⟩
        cases other with
        | nil => simp at hother
        | cons d other =>
          rw [List.append_assoc]
          exact bind_eq_ok.2 ⟨_, hfront (']' :: more) rfl, rfl⟩
      · cases hf
    | true =>
      obtain ⟨⟨state', v⟩, hread, hloop⟩ := bind_eq_ok.1 hbody
      obtain ⟨middle, rfl, hmiddle⟩ := hstep state hread
      obtain ⟨back, rfl, hback, hmore⟩ := ih hloop
      have hmiddle_ne : middle ≠ [] := by
        rintro rfl
        exact absurd (hprogress state hread) (lt_irrefl _)
      have hlength : 0 < middle.length := List.length_pos_iff.2 hmiddle_ne
      obtain ⟨d, middle', rfl⟩ := List.exists_cons_of_ne_nil hmiddle_ne
      obtain ⟨e, back', rfl⟩ := List.exists_cons_of_ne_nil hback
      refine ⟨front ++ (d :: middle' ++ e :: back'), by simp, by simp, fun more other hother => ?_⟩
      cases other with
      | nil => simp at hother
      | cons f other =>
        have hbudget : (e :: back').length ≤ other.length := by
          simp only [List.length_append, List.length_cons] at hother ⊢
          omega
        rw [List.append_assoc]
        refine bind_eq_ok.2 ⟨_, hfront _ rfl, ?_⟩
        refine bind_eq_ok.2 ⟨(state', e :: back' ++ more), ?_, hmore more other hbudget⟩
        rw [List.append_assoc]
        exact hmiddle _ rfl

theorem elements_closed {step : σ → Read σ} (hstep : ∀ state, Local (step state))
    (hprogress : ∀ state, Progress (step state)) (first : Bool) (state : σ) :
    Closed (elements step first state) := by
  intro s result rest h
  obtain ⟨used, hs, -, hmore⟩ := elementsIn_closed hstep hprogress h
  refine ⟨used, hs, fun more => hmore more (used ++ more) ?_⟩
  rw [List.length_append]
  exact Nat.le_add_right _ _

theorem membersIn_closed {step : σ → Text → Read σ} (hstep : ∀ state name, Local (step state name))
    {budget s rest : Text} {first : Bool} {state result : σ}
    (h : membersIn step budget first state s = .ok (result, rest)) :
    ∃ used, s = used ++ rest ∧ used ≠ [] ∧ ∀ more other : Text, used.length ≤ other.length →
      membersIn step other first state (used ++ more) = .ok (result, more) := by
  induction budget generalizing first state s with
  | nil => cases h
  | cons c budget ih =>
    obtain ⟨⟨next, t⟩, hnext, hbody⟩ := bind_eq_ok.1 h
    cases next with
    | false =>
      cases hbody
      rcases nextMember_cases hnext with ⟨-, hs, u, rfl⟩ | ⟨hf, -⟩
      · obtain ⟨front, rfl, hfront⟩ := skipBlanks_split hs
        refine ⟨front ++ ['\x7d'], by simp, by simp, fun more other hother => ?_⟩
        cases other with
        | nil => simp at hother
        | cons d other =>
          rw [List.append_assoc]
          exact bind_eq_ok.2 ⟨_, nextMember_brace (hfront more), rfl⟩
      · cases hf
    | true =>
      obtain ⟨front, rfl, hfront_ne, hfront⟩ := nextMember_more hnext
      obtain ⟨⟨name, u⟩, hname, hmember⟩ := bind_eq_ok.1 hbody
      obtain ⟨key, rfl, hkey⟩ := string_closed hname
      obtain ⟨⟨state', v⟩, hread, hloop⟩ := bind_eq_ok.1 hmember
      obtain ⟨middle, rfl, hmiddle⟩ := hstep state name hread
      obtain ⟨back, rfl, hback, hmore⟩ := ih hloop
      obtain ⟨d, front', rfl⟩ := List.exists_cons_of_ne_nil hfront_ne
      obtain ⟨e, back', rfl⟩ := List.exists_cons_of_ne_nil hback
      refine ⟨d :: front' ++ (key ++ (middle ++ e :: back')), by simp, by simp,
        fun more other hother => ?_⟩
      cases other with
      | nil => simp at hother
      | cons f other =>
        have hbudget : (e :: back').length ≤ other.length := by
          simp only [List.length_append, List.length_cons] at hother ⊢
          omega
        simp only [List.append_assoc]
        refine bind_eq_ok.2 ⟨_, hfront _, bind_eq_ok.2 ⟨_, hkey _, ?_⟩⟩
        exact bind_eq_ok.2 ⟨(state', e :: back' ++ more), hmiddle _ rfl, hmore more other hbudget⟩

theorem members_closed {step : σ → Text → Read σ} (hstep : ∀ state name, Local (step state name))
    (state : σ) : Closed (members step state) := by
  intro s result rest h
  obtain ⟨used, hs, -, hmore⟩ := membersIn_closed hstep h
  refine ⟨used, hs, fun more => hmore more (used ++ more) ?_⟩
  rw [List.length_append]
  exact Nat.le_add_right _ _

theorem nested_closed {levels : Nat} {inner : Nat → Read α} (hinner : ∀ n, Closed (inner n)) :
    Closed (nested levels inner) := by
  cases levels with
  | zero => exact .error
  | succ n => exact hinner n

/-! ### Values by their first character -/

/-- Gives what was judged and leaves the text as it is. -/
def judged (answer : Except ShapeError α) : Read α := fun s =>
  match answer with
  | .ok a => .ok (a, s)
  | .error cause => mismatch cause

theorem judged_eq_ok {answer : Except ShapeError α} {s rest : Text} {a : α} :
    judged answer s = .ok (a, rest) ↔ answer = .ok a ∧ s = rest := by
  cases answer with
  | ok b => simp [judged]
  | error cause => simp [judged, mismatch]

theorem judged_closed (answer : Except ShapeError α) : Closed (judged answer) := by
  cases answer with
  | ok a => exact .pure a
  | error cause => exact .error

section ValueBy

variable {accept : Json → Except ShapeError α} {list map : Read α}

def scalarBy (accept : Json → Except ShapeError α) : Read α := fun s => do
  let (value, rest) ← scalar s
  match accept value with
  | .ok a => .ok (a, rest)
  | .error cause => mismatch cause

theorem valueBy_nil {s : Text} (hs : skipBlanks s = []) :
    valueBy accept list map s = malformed .endInValue := by
  simp only [valueBy, hs, scalar_nil]
  rfl

theorem valueBy_list {s u : Text} (hs : skipBlanks s = '[' :: u) :
    valueBy accept list map s = list u := by
  simp only [valueBy, hs]

theorem valueBy_map {s u : Text} (hs : skipBlanks s = '\x7b' :: u) :
    valueBy accept list map s = map u := by
  simp only [valueBy, hs]

theorem valueBy_scalar {s u : Text} {c : Char} (hs : skipBlanks s = c :: u) (hlist : c ≠ '[')
    (hmap : c ≠ '\x7b') : valueBy accept list map s = scalarBy accept (c :: u) := by
  unfold valueBy
  rw [hs]
  split
  · rename_i h
    cases h
    exact absurd rfl hlist
  · rename_i h
    cases h
    exact absurd rfl hmap
  · rfl

theorem valueBy_cases {s rest : Text} {a : α} (h : valueBy accept list map s = .ok (a, rest)) :
    (∃ u, skipBlanks s = '[' :: u ∧ list u = .ok (a, rest)) ∨
      (∃ u, skipBlanks s = '\x7b' :: u ∧ map u = .ok (a, rest)) ∨
      ∃ c u, skipBlanks s = c :: u ∧ c ≠ '[' ∧ c ≠ '\x7b' ∧ scalarBy accept (c :: u) = .ok (a, rest) := by
  cases hs : skipBlanks s with
  | nil =>
    rw [valueBy_nil hs] at h
    cases h
  | cons c u =>
    by_cases hlist : c = '['
    · subst hlist
      rw [valueBy_list hs] at h
      exact .inl ⟨u, rfl, h⟩
    · by_cases hmap : c = '\x7b'
      · subst hmap
        rw [valueBy_map hs] at h
        exact .inr (.inl ⟨u, rfl, h⟩)
      · rw [valueBy_scalar hs hlist hmap] at h
        exact .inr (.inr ⟨c, u, rfl, hlist, hmap, h⟩)

theorem valueBy_skipBlanks (s : Text) :
    valueBy accept list map (skipBlanks s) = valueBy accept list map s := by
  unfold valueBy
  rw [skipBlanks_skipBlanks]

theorem scalarBy_local (accept : Json → Except ShapeError α) : Local (scalarBy accept) := by
  exact scalar_local.bind fun value => (judged_closed (accept value)).toLocal

theorem scalarBy_progress (accept : Json → Except ShapeError α) : Progress (scalarBy accept) := by
  exact scalar_progress.bind_left fun value => (judged_closed (accept value)).toLocal

theorem valueBy_local (hlist : Local list) (hmap : Local map) : Local (valueBy accept list map) := by
  intro s a rest h
  rcases valueBy_cases h with ⟨u, hs, hread⟩ | ⟨u, hs, hread⟩ | ⟨c, u, hs, hc, hd, hread⟩
  · obtain ⟨blanks, rfl, hblanks⟩ := skipBlanks_split hs
    obtain ⟨used, rfl, hmore⟩ := hlist hread
    refine ⟨blanks ++ '[' :: used, by simp, fun more hhead => ?_⟩
    rw [List.append_assoc, List.cons_append, valueBy_list (hblanks _)]
    exact hmore more hhead
  · obtain ⟨blanks, rfl, hblanks⟩ := skipBlanks_split hs
    obtain ⟨used, rfl, hmore⟩ := hmap hread
    refine ⟨blanks ++ '\x7b' :: used, by simp, fun more hhead => ?_⟩
    rw [List.append_assoc, List.cons_append, valueBy_map (hblanks _)]
    exact hmore more hhead
  · obtain ⟨blanks, rfl, hblanks⟩ := skipBlanks_split hs
    obtain ⟨used, hused, hmore⟩ := scalarBy_local accept hread
    refine ⟨blanks ++ used, by rw [hused, List.append_assoc], fun more hhead => ?_⟩
    have hfirst : (used ++ more).head? = (c :: u).head? := by
      rw [hused, List.head?_append, List.head?_append, hhead]
    obtain ⟨v, hv⟩ := exists_cons_of_head? hfirst
    have hagain := hmore more hhead
    rw [hv] at hagain
    rw [List.append_assoc, hv, valueBy_scalar (hblanks v) hc hd]
    exact hagain

theorem valueBy_progress (hlist : Local list) (hmap : Local map) :
    Progress (valueBy accept list map) := by
  intro s a rest h
  rcases valueBy_cases h with ⟨u, hs, hread⟩ | ⟨u, hs, hread⟩ | ⟨c, u, hs, -, -, hread⟩
  · obtain ⟨blanks, rfl, -⟩ := skipBlanks_split hs
    have hle := (hlist.suffix hread).length_le
    rw [List.length_append, List.length_cons]
    omega
  · obtain ⟨blanks, rfl, -⟩ := skipBlanks_split hs
    have hle := (hmap.suffix hread).length_le
    rw [List.length_append, List.length_cons]
    omega
  · obtain ⟨blanks, rfl, -⟩ := skipBlanks_split hs
    have hlt := scalarBy_progress accept hread
    rw [List.length_append]
    omega

theorem valueBy_closed (hlist : Closed list) (hmap : Closed map)
    (hscalar : ∀ value a, accept value ≠ .ok a) : Closed (valueBy accept list map) := by
  intro s a rest h
  rcases valueBy_cases h with ⟨u, hs, hread⟩ | ⟨u, hs, hread⟩ | ⟨c, u, -, -, -, hread⟩
  · obtain ⟨blanks, rfl, hblanks⟩ := skipBlanks_split hs
    obtain ⟨used, rfl, hmore⟩ := hlist hread
    refine ⟨blanks ++ '[' :: used, by simp, fun more => ?_⟩
    rw [List.append_assoc, List.cons_append, valueBy_list (hblanks _)]
    exact hmore more
  · obtain ⟨blanks, rfl, hblanks⟩ := skipBlanks_split hs
    obtain ⟨used, rfl, hmore⟩ := hmap hread
    refine ⟨blanks ++ '\x7b' :: used, by simp, fun more => ?_⟩
    rw [List.append_assoc, List.cons_append, valueBy_map (hblanks _)]
    exact hmore more
  · obtain ⟨⟨value, mid⟩, -, hlast⟩ := bind_eq_ok.1 hread
    exact absurd (judged_eq_ok.1 hlast).1 (hscalar value a)

end ValueBy

end Read

/-! ### Trees -/

namespace Json

open Read

def readElements (levels : Nat) : Read Json := fun s => do
  let (reversed, s) ← elements (fun reversed s => do
    let (value, s) ← Json.read levels s
    .ok (value :: reversed, s)) true [] s
  .ok (.array reversed.reverse, s)

def readMembers (levels : Nat) : Read Json := fun s => do
  let (reversed, s) ← members (fun reversed key s => do
    let ((), s) ← colon s
    let (value, s) ← Json.read levels s
    .ok ((key, value) :: reversed, s)) [] s
  .ok (.object reversed.reverse, s)

theorem read_succ (levels : Nat) :
    Json.read (levels + 1) = valueBy .ok (readElements levels) (readMembers levels) := rfl

theorem readElements_closed {levels : Nat} (hlocal : Local (Json.read levels))
    (hprogress : Progress (Json.read levels)) : Closed (readElements levels) := by
  refine (elements_closed (fun reversed => ?_) (fun reversed => ?_) true []).bind fun reversed => ?_
  · exact hlocal.bind fun value => .pure (value :: reversed)
  · exact hprogress.bind_left fun value => .pure (value :: reversed)
  · exact .pure (Json.array reversed.reverse)

theorem readMembers_closed {levels : Nat} (hlocal : Local (Json.read levels)) :
    Closed (readMembers levels) := by
  refine (members_closed (fun reversed key => ?_) []).bind fun reversed => ?_
  · exact colon_closed.toLocal.bind fun _ => hlocal.bind fun value => .pure ((key, value) :: reversed)
  · exact .pure (Json.object reversed.reverse)

theorem read_local_progress (levels : Nat) : Local (Json.read levels) ∧ Progress (Json.read levels) := by
  induction levels with
  | zero => exact ⟨valueBy_local .error .error, valueBy_progress .error .error⟩
  | succ levels ih =>
    have hlist := (readElements_closed ih.1 ih.2).toLocal
    have hmap := (readMembers_closed ih.1).toLocal
    rw [read_succ]
    exact ⟨valueBy_local hlist hmap, valueBy_progress hlist hmap⟩

theorem read_local (levels : Nat) : Local (Json.read levels) :=
  (read_local_progress levels).1

theorem read_progress (levels : Nat) : Progress (Json.read levels) :=
  (read_local_progress levels).2

end Json

/-! ### Tagged values and lists -/

namespace TaggedFormat

open Read

variable {α : Type} (format : TaggedFormat α)

theorem tag_local (levels : Nat) : Local (Tag.inText.read levels) := by
  dsimp only [Tag.inText, Decoder.ofScalar]
  exact valueBy_local .error .error

theorem readMember_local (levels : Nat) (members : Members) (name : Text) :
    Local (readMember levels members name) := by
  unfold readMember
  split_ifs
  · exact .error
  · exact colon_closed.toLocal.bind fun _ => (tag_local levels).bind fun tag => .pure _
  · exact colon_closed.toLocal.bind fun _ => (Json.read_local levels).bind fun value => .pure _

theorem judge_closed (tag : Tag) (body : Json) : Closed (format.judge tag body) := by
  exact judged_closed (format.ofBody tag body)

theorem readMembers_closed (levels : Nat) : Closed (format.readMembers levels) := by
  refine (members_closed (readMember_local levels) (none, [])).bind fun read => ?_
  dsimp only
  cases finish read with
  | ok body => exact format.judge_closed body.1 body.2
  | error cause => exact .error

theorem readElements_closed (levels : Nat) : Closed (format.readElements levels) := by
  refine (nextElement_local true).bind_closed (fun more => ?_) fun more a rest h => ?_
  · dsimp only
    split_ifs
    · refine (tag_local levels).bind_closed (fun tag => ?_) fun tag b rest h => by cases h
      dsimp only
      refine (elements_closed (fun reversed => ?_) (fun reversed => ?_) false []).bind fun reversed => ?_
      · exact (Json.read_local levels).bind fun value => .pure (value :: reversed)
      · exact (Json.read_progress levels).bind_left fun value => .pure (value :: reversed)
      · exact format.judge_closed tag (.array reversed.reverse)
    · exact .error
  · cases more <;> cases h

theorem decoder_closed (levels : Nat) : Closed (format.decoder.read levels) := by
  dsimp only [decoder]
  refine valueBy_closed (nested_closed format.readElements_closed)
    (nested_closed format.readMembers_closed) fun value a h => ?_
  cases h

theorem decoder_progress (levels : Nat) : Progress (format.decoder.read levels) := by
  dsimp only [decoder]
  exact valueBy_progress (nested_closed format.readElements_closed).toLocal
    (nested_closed format.readMembers_closed).toLocal

end TaggedFormat

namespace Decoder

open Read

variable {α : Type} {d : Decoder α}

def readElements (d : Decoder α) (levels : Nat) : Read (List α) := fun s => do
  let (reversed, s) ← elements (fun reversed s => do
    let (a, s) ← d.read levels s
    .ok (a :: reversed, s)) true [] s
  .ok (reversed.reverse, s)

theorem list_read (expected : Text) (d : Decoder α) (levels : Nat) :
    (list expected d).read levels
      = valueBy (wrongType expected) (nested levels d.readElements)
          (fun _ => mismatch (.wrongType .map expected)) := rfl

theorem readElements_closed (hlocal : ∀ levels, Local (d.read levels))
    (hprogress : ∀ levels, Progress (d.read levels)) (levels : Nat) : Closed (d.readElements levels) := by
  refine (elements_closed (fun reversed => ?_) (fun reversed => ?_) true []).bind fun reversed => ?_
  · exact (hlocal levels).bind fun a => .pure (a :: reversed)
  · exact (hprogress levels).bind_left fun a => .pure (a :: reversed)
  · exact .pure reversed.reverse

theorem list_closed (hlocal : ∀ levels, Local (d.read levels))
    (hprogress : ∀ levels, Progress (d.read levels)) (expected : Text) (levels : Nat) :
    Closed ((list expected d).read levels) := by
  rw [list_read]
  refine valueBy_closed (nested_closed (readElements_closed hlocal hprogress)) .error
    fun value a h => ?_
  cases h

theorem list_progress (hlocal : ∀ levels, Local (d.read levels))
    (hprogress : ∀ levels, Progress (d.read levels)) (expected : Text) (levels : Nat) :
    Progress ((list expected d).read levels) := by
  rw [list_read]
  exact valueBy_progress (nested_closed (readElements_closed hlocal hprogress)).toLocal .error

/-- A document is read and has only blanks behind it. -/
theorem document_eq_ok {s : Text} {a : α} :
    d.document s = .ok a ↔ ∃ rest, d.read nestingLimit s = .ok (a, rest) ∧ skipBlanks rest = [] := by
  constructor
  · intro h
    obtain ⟨⟨read, rest⟩, hread, hend⟩ := bind_eq_ok.1 h
    dsimp only at hend
    split at hend
    · rename_i hrest
      cases hend
      exact ⟨rest, hread, hrest⟩
    · cases hend
  · rintro ⟨rest, hread, hrest⟩
    refine bind_eq_ok.2 ⟨(a, rest), hread, ?_⟩
    simp only [hrest]

end Decoder

end TableModel
