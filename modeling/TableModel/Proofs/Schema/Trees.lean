import TableModel.Proofs.Json.Documents
import TableModel.Proofs.Schema.Streams

/-!
# Statements through trees

The statements of a document are read straight from its text, and an error of shape stops the reader where it
stands. On a document without faults this is the same as to read the whole text as one JSON value and to take
the value apart afterwards: each loop of the reader takes the steps of the loop that collects a tree, and folds
what the tree loop would have collected. One thing the text route asks for beyond the tree: the tag of a
statement has to be its name.
-/

namespace TableModel

open Read Json

variable {levels : Nat} {s rest : Text}

/-! ### Loops that fold -/

section Loops

variable {σ : Type} {state result : σ} {budget : Text} {first : Bool}

/-- Each step reads a member, lets it through and adds it. -/
def FoldsMembers (levels : Nat) (step : σ → Text → Read σ) (admits : Text × Json → Prop)
    (add : σ → Text × Json → Except ShapeError σ) : Prop :=
  ∀ ⦃state result : σ⦄ ⦃key s rest : Text⦄, step state key s = .ok (result, rest) ↔
    ∃ behind value, skipBlanks s = ':' :: behind ∧ Json.read levels behind = .ok (value, rest) ∧
      admits (key, value) ∧ add state (key, value) = .ok result

def FoldsElements (levels : Nat) (step : σ → Read σ) (admits : Json → Prop) (add : σ → Json → Except ShapeError σ) :
    Prop :=
  ∀ ⦃state result : σ⦄ ⦃s rest : Text⦄, step state s = .ok (result, rest) ↔
    ∃ value, Json.read levels s = .ok (value, rest) ∧ admits value ∧ add state value = .ok result

theorem elementsIn_cases {c : Char} {values reversed : List Json}
    (h : elementsIn (elementStep levels) (c :: budget) first reversed s = .ok (values.reverse ++ reversed, rest)) :
    (values = [] ∧ nextElement first s = .ok (false, ']' :: rest)) ∨
      ∃ mid value behind others, nextElement first s = .ok (true, mid) ∧ Json.read levels mid = .ok (value, behind) ∧
        values = value :: others ∧ elementsIn (elementStep levels) budget false (value :: reversed) behind =
          .ok (others.reverse ++ value :: reversed, rest) := by
  obtain ⟨⟨more, mid⟩, hnext, hbody⟩ := bind_eq_ok.1 h
  rcases nextElement_cases hnext with ⟨rfl, -, u, rfl⟩ | ⟨rfl, -⟩
  · obtain ⟨hvalues, rfl⟩ := Prod.mk.inj (Except.ok.inj hbody)
    exact .inl ⟨by simpa using hvalues, hnext⟩
  · obtain ⟨⟨next, behind⟩, hread, hloop⟩ := bind_eq_ok.1 hbody
    obtain ⟨value, hvalue, rfl⟩ := elementStep_eq_ok.1 hread
    obtain ⟨-, collected, -, -, -, -, hresult⟩ := exists_elements (recovers levels) hloop
    obtain rfl : values = value :: collected.map Element.value := by
      apply List.reverse_injective
      exact List.append_left_injective reversed (by simpa using hresult)
    exact .inr ⟨mid, value, behind, _, hnext, hvalue, rfl, by simpa using hloop⟩

theorem membersIn_cases {c : Char} {members reversed : List (Text × Json)}
    (h : membersIn (memberStep levels) (c :: budget) first reversed s = .ok (members.reverse ++ reversed, rest)) :
    (members = [] ∧ nextMember first s = .ok (false, '\x7d' :: rest)) ∨
      ∃ mid key gap behind value back others, nextMember first s = .ok (true, mid) ∧
        Read.string mid = .ok (key, gap) ∧ skipBlanks gap = ':' :: behind ∧ Json.read levels behind = .ok (value, back) ∧
        members = (key, value) :: others ∧ membersIn (memberStep levels) budget false ((key, value) :: reversed) back =
          .ok (others.reverse ++ (key, value) :: reversed, rest) := by
  obtain ⟨⟨more, mid⟩, hnext, hbody⟩ := bind_eq_ok.1 h
  rcases nextMember_cases hnext with ⟨rfl, -, u, rfl⟩ | ⟨rfl, -⟩
  · obtain ⟨hmembers, rfl⟩ := Prod.mk.inj (Except.ok.inj hbody)
    exact .inl ⟨by simpa using hmembers, hnext⟩
  · obtain ⟨⟨key, gap⟩, hkey, hmember⟩ := bind_eq_ok.1 hbody
    obtain ⟨⟨next, back⟩, hread, hloop⟩ := bind_eq_ok.1 hmember
    obtain ⟨behind, value, hcolon, hvalue, rfl⟩ := memberStep_eq_ok.1 hread
    obtain ⟨-, collected, -, -, -, -, hresult⟩ := exists_members (recovers levels) hloop
    obtain rfl : members = (key, value) :: collected.map Member.pair := by
      apply List.reverse_injective
      exact List.append_left_injective reversed (by simpa using hresult)
    exact .inr ⟨mid, key, gap, behind, value, back, _, hnext, hkey, hcolon, hvalue, rfl, by simpa using hloop⟩

/-- A loop that judges the members one by one collects them and folds them. -/
theorem membersIn_iff {step : σ → Text → Read σ} {admits : Text × Json → Prop}
    {add : σ → Text × Json → Except ShapeError σ} (hstep : FoldsMembers levels step admits add)
    (reversed : List (Text × Json)) :
    membersIn step budget first state s = .ok (result, rest) ↔
      ∃ members : List (Text × Json),
        membersIn (memberStep levels) budget first reversed s = .ok (members.reverse ++ reversed, rest) ∧
        (∀ m ∈ members, admits m) ∧ members.foldlM add state = .ok result := by
  induction budget generalizing first state s reversed with
  | nil =>
    constructor
    · rintro ⟨⟩
    · rintro ⟨members, ⟨⟩, -⟩
  | cons c budget ih =>
    constructor
    · intro h
      obtain ⟨⟨more, mid⟩, hnext, hbody⟩ := bind_eq_ok.1 h
      cases more with
      | false =>
        cases hbody
        exact ⟨[], bind_eq_ok.2 ⟨_, hnext, rfl⟩, by simp, rfl⟩
      | true =>
        obtain ⟨⟨key, behindKey⟩, hkey, hmember⟩ := bind_eq_ok.1 hbody
        obtain ⟨⟨next, mid'⟩, hread, hloop⟩ := bind_eq_ok.1 hmember
        obtain ⟨behind, value, hcolon, hvalue, hadmits, hadd⟩ := hstep.1 hread
        obtain ⟨members, hmembers, hall, hfold⟩ := (ih ((key, value) :: reversed)).1 hloop
        refine ⟨(key, value) :: members, ?_, List.forall_mem_cons.2 ⟨hadmits, hall⟩, ?_⟩
        · refine bind_eq_ok.2 ⟨_, hnext, bind_eq_ok.2 ⟨_, hkey, ?_⟩⟩
          refine bind_eq_ok.2 ⟨_, memberStep_eq_ok.2 ⟨behind, value, hcolon, hvalue, rfl⟩, ?_⟩
          simpa using hmembers
        · rw [List.foldlM_cons]
          exact bind_eq_ok.2 ⟨next, hadd, hfold⟩
    · rintro ⟨members, h, hall, hfold⟩
      rcases membersIn_cases h with ⟨rfl, hnext⟩ |
        ⟨mid, key, gap, behind, value, back, others, hnext, hkey, hcolon, hvalue, rfl, hloop⟩
      · cases hfold
        exact bind_eq_ok.2 ⟨_, hnext, rfl⟩
      · obtain ⟨hadmits, hall⟩ := List.forall_mem_cons.1 hall
        rw [List.foldlM_cons] at hfold
        obtain ⟨middle, hadd, hfold⟩ := bind_eq_ok.1 hfold
        refine bind_eq_ok.2 ⟨_, hnext, bind_eq_ok.2 ⟨_, hkey, ?_⟩⟩
        refine bind_eq_ok.2 ⟨_, hstep.2 ⟨behind, value, hcolon, hvalue, hadmits, hadd⟩, ?_⟩
        exact (ih ((key, value) :: reversed)).2 ⟨others, hloop, hall, hfold⟩

theorem elementsIn_iff {step : σ → Read σ} {admits : Json → Prop} {add : σ → Json → Except ShapeError σ}
    (hstep : FoldsElements levels step admits add) (reversed : List Json) :
    elementsIn step budget first state s = .ok (result, rest) ↔
      ∃ values : List Json,
        elementsIn (elementStep levels) budget first reversed s = .ok (values.reverse ++ reversed, rest) ∧
        (∀ v ∈ values, admits v) ∧ values.foldlM add state = .ok result := by
  induction budget generalizing first state s reversed with
  | nil =>
    constructor
    · rintro ⟨⟩
    · rintro ⟨values, ⟨⟩, -⟩
  | cons c budget ih =>
    constructor
    · intro h
      obtain ⟨⟨more, mid⟩, hnext, hbody⟩ := bind_eq_ok.1 h
      cases more with
      | false =>
        cases hbody
        exact ⟨[], bind_eq_ok.2 ⟨_, hnext, rfl⟩, by simp, rfl⟩
      | true =>
        obtain ⟨⟨next, mid'⟩, hread, hloop⟩ := bind_eq_ok.1 hbody
        obtain ⟨value, hvalue, hadmits, hadd⟩ := hstep.1 hread
        obtain ⟨values, hvalues, hall, hfold⟩ := (ih (value :: reversed)).1 hloop
        refine ⟨value :: values, ?_, List.forall_mem_cons.2 ⟨hadmits, hall⟩, ?_⟩
        · refine bind_eq_ok.2 ⟨_, hnext, bind_eq_ok.2 ⟨_, elementStep_eq_ok.2 ⟨value, hvalue, rfl⟩, ?_⟩⟩
          simpa using hvalues
        · rw [List.foldlM_cons]
          exact bind_eq_ok.2 ⟨next, hadd, hfold⟩
    · rintro ⟨values, h, hall, hfold⟩
      rcases elementsIn_cases h with ⟨rfl, hnext⟩ | ⟨mid, value, behind, others, hnext, hvalue, rfl, hloop⟩
      · cases hfold
        exact bind_eq_ok.2 ⟨_, hnext, rfl⟩
      · obtain ⟨hadmits, hall⟩ := List.forall_mem_cons.1 hall
        rw [List.foldlM_cons] at hfold
        obtain ⟨middle, hadd, hfold⟩ := bind_eq_ok.1 hfold
        refine bind_eq_ok.2 ⟨_, hnext, bind_eq_ok.2 ⟨_, hstep.2 ⟨value, hvalue, hadmits, hadd⟩, ?_⟩⟩
        exact (ih (value :: reversed)).2 ⟨others, hloop, hall, hfold⟩

theorem elementsIn_start {reversed result : List Json} :
    elementsIn (elementStep levels) budget first reversed s = .ok (result, rest) ↔
      ∃ values : List Json,
        elementsIn (elementStep levels) budget first [] s = .ok (values.reverse, rest) ∧
          result = values.reverse ++ reversed := by
  have hpush (values start : List Json) :
      values.foldlM (fun acc v => (.ok (v :: acc) : Except ShapeError (List Json))) start =
        .ok (values.reverse ++ start) := by
    induction values generalizing start with
    | nil => rfl
    | cons v values ih =>
      rw [List.foldlM_cons, List.reverse_cons, List.append_assoc]
      exact ih (v :: start)
  have hstep : FoldsElements levels (elementStep levels) (fun _ => True) fun acc v => .ok (v :: acc) := by
    intro state result s rest
    rw [elementStep_eq_ok]
    simp [eq_comm]
  rw [elementsIn_iff hstep []]
  simp [hpush, eq_comm]

/-- A budget that is long enough is as good as any other. -/
theorem elementsIn_budget {other : Text} {reversed result : List Json} (hother : s.length ≤ other.length)
    (h : elementsIn (elementStep levels) budget first reversed s = .ok (result, rest)) :
    elementsIn (elementStep levels) other first reversed s = .ok (result, rest) := by
  have hlocal (reversed : List Json) : Local (elementStep levels reversed) :=
    (Json.read_local levels).bind fun value => .pure (value :: reversed)
  have hprogress (reversed : List Json) : Progress (elementStep levels reversed) :=
    (Json.read_progress levels).bind_left fun value => .pure (value :: reversed)
  obtain ⟨used, rfl, -, hmore⟩ := elementsIn_closed hlocal hprogress h
  rw [List.length_append] at hother
  exact hmore rest other (by omega)

end Loops

/-! ### Values by their kind -/

theorem read_cases {v : Json} (h : Json.read levels s = .ok (v, rest)) :
    (∃ n u, levels = n + 1 ∧ skipBlanks s = '[' :: u ∧ Json.readElements n u = .ok (v, rest)) ∨
      (∃ n u, levels = n + 1 ∧ skipBlanks s = '\x7b' :: u ∧ Json.readMembers n u = .ok (v, rest)) ∨
      ∃ c u, skipBlanks s = c :: u ∧ c ≠ '[' ∧ c ≠ '\x7b' ∧ scalar (c :: u) = .ok (v, rest) := by
  have hscalar {c : Char} {u : Text} (hs : skipBlanks s = c :: u) (hlist : c ≠ '[') (hmap : c ≠ '\x7b') :
      scalar (c :: u) = .ok (v, rest) := by rw [← read_scalar hs hlist hmap levels, h]
  cases levels with
  | zero =>
    rcases valueBy_cases h with ⟨u, -, ⟨⟩⟩ | ⟨u, -, ⟨⟩⟩ | ⟨c, u, hs, hlist, hmap, -⟩
    exact .inr (.inr ⟨c, u, hs, hlist, hmap, hscalar hs hlist hmap⟩)
  | succ n =>
    rcases valueBy_cases h with ⟨u, hs, hread⟩ | ⟨u, hs, hread⟩ | ⟨c, u, hs, hlist, hmap, -⟩
    · exact .inl ⟨n, u, rfl, hs, hread⟩
    · exact .inr (.inl ⟨n, u, rfl, hs, hread⟩)
    · exact .inr (.inr ⟨c, u, hs, hlist, hmap, hscalar hs hlist hmap⟩)

theorem readElements_eq_ok {v : Json} : Json.readElements levels s = .ok (v, rest) ↔
    ∃ values : List Json, elementsIn (elementStep levels) s true [] s = .ok (values.reverse, rest) ∧
      v = .array values := by
  rw [Json.readElements, bind_eq_ok]
  constructor
  · rintro ⟨⟨reversed, mid⟩, hloop, hlast⟩
    cases hlast
    exact ⟨reversed.reverse, by rw [List.reverse_reverse]; exact hloop, rfl⟩
  · rintro ⟨values, hloop, rfl⟩
    exact ⟨(values.reverse, rest), hloop, by simp⟩

theorem readMembers_eq_ok {v : Json} : Json.readMembers levels s = .ok (v, rest) ↔
    ∃ members : List (Text × Json), membersIn (memberStep levels) s true [] s = .ok (members.reverse, rest) ∧
      v = .object members := by
  rw [Json.readMembers, bind_eq_ok]
  constructor
  · rintro ⟨⟨reversed, mid⟩, hloop, hlast⟩
    cases hlast
    exact ⟨reversed.reverse, by rw [List.reverse_reverse]; exact hloop, rfl⟩
  · rintro ⟨members, hloop, rfl⟩
    exact ⟨(members.reverse, rest), hloop, by simp⟩

theorem scalarBy_eq_ok {α : Type} {accept : Json → Except ShapeError α} {a : α} :
    scalarBy accept s = .ok (a, rest) ↔ ∃ v, scalar s = .ok (v, rest) ∧ accept v = .ok a := by
  rw [scalarBy, bind_eq_ok]
  constructor
  · rintro ⟨⟨v, mid⟩, hread, hlast⟩
    obtain ⟨haccept, rfl⟩ := judged_eq_ok.1 hlast
    exact ⟨v, hread, haccept⟩
  · rintro ⟨v, hread, haccept⟩
    exact ⟨(v, rest), hread, judged_eq_ok.2 ⟨haccept, rfl⟩⟩

/-- The text is read as if it were read as a tree first. -/
def Decoder.ReadsTrees {α : Type} (d : Decoder α) (admits : Json → Prop) : Prop :=
  ∀ ⦃levels : Nat⦄ ⦃s rest : Text⦄ ⦃a : α⦄, d.read levels s = .ok (a, rest) ↔
    ∃ v, Json.read levels s = .ok (v, rest) ∧ admits v ∧ d.ofJson v = .ok a

/-! ### Tagged values -/

/-- The tag of a value, if it has one, is a name. -/
def Json.NamedTag : Json → Prop
  | .object members => ∀ m ∈ members, m.1 = tagField → ∃ name, m.2 = .string name
  | .array (first :: _) => ∃ name, first = .string name
  | _ => True

theorem inText_read_iff {tag : Tag} : Tag.inText.read levels s = .ok (tag, rest) ↔
    ∃ name, Json.read levels s = .ok (.string name, rest) ∧ tag = .name name := by
  dsimp only [Tag.inText, Decoder.ofScalar]
  constructor
  · intro h
    rcases valueBy_cases h with ⟨u, -, ⟨⟩⟩ | ⟨u, -, ⟨⟩⟩ | ⟨c, u, hs, hlist, hmap, hread⟩
    obtain ⟨v, hscalar, haccept⟩ := scalarBy_eq_ok.1 hread
    cases v with
    | string name =>
      cases haccept
      exact ⟨name, by rw [read_scalar hs hlist hmap, hscalar], rfl⟩
    | _ => cases haccept
  · rintro ⟨name, h, rfl⟩
    rcases read_cases h with ⟨n, u, -, -, hread⟩ | ⟨n, u, -, -, hread⟩ | ⟨c, u, hs, hlist, hmap, hscalar⟩
    · obtain ⟨values, -, ⟨⟩⟩ := readElements_eq_ok.1 hread
    · obtain ⟨members, -, ⟨⟩⟩ := readMembers_eq_ok.1 hread
    · exact (valueBy_scalar hs hlist hmap).trans (scalarBy_eq_ok.2 ⟨_, hscalar, rfl⟩)

namespace TaggedFormat

variable {α : Type} {format : TaggedFormat α} {a : α}

theorem judge_eq_ok {tag : Tag} {body : Json} :
    format.judge tag body s = .ok (a, rest) ↔ format.ofBody tag body = .ok a ∧ s = rest :=
  judged_eq_ok

theorem readMember_folds (levels : Nat) : FoldsMembers levels (readMember levels)
    (fun m => m.1 = tagField → ∃ name, m.2 = .string name) addMember := by
  intro members result key s rest
  unfold readMember addMember
  dsimp only
  split_ifs with hkey htag
  · simp [mismatch]
  · rw [bind_eq_ok]
    constructor
    · rintro ⟨⟨⟨⟩, behind⟩, hcolon, hbody⟩
      obtain ⟨⟨tag, mid⟩, hread, hlast⟩ := bind_eq_ok.1 hbody
      cases hlast
      obtain ⟨name, hvalue, rfl⟩ := inText_read_iff.1 hread
      exact ⟨behind, .string name, colon_eq_ok.1 hcolon, hvalue, fun _ => ⟨name, rfl⟩, rfl⟩
    · rintro ⟨behind, value, hcolon, hvalue, hname, hadd⟩
      obtain ⟨name, rfl⟩ := hname hkey
      cases hadd
      exact ⟨((), behind), colon_eq_ok.2 hcolon,
        bind_eq_ok.2 ⟨(.name name, rest), inText_read_iff.2 ⟨name, hvalue, rfl⟩, rfl⟩⟩
  · rw [bind_eq_ok]
    constructor
    · rintro ⟨⟨⟨⟩, behind⟩, hcolon, hbody⟩
      obtain ⟨⟨value, mid⟩, hread, hlast⟩ := bind_eq_ok.1 hbody
      cases hlast
      exact ⟨behind, value, colon_eq_ok.1 hcolon, hread, fun h => absurd h hkey, rfl⟩
    · rintro ⟨behind, value, hcolon, hvalue, -, hadd⟩
      cases hadd
      exact ⟨((), behind), colon_eq_ok.2 hcolon, bind_eq_ok.2 ⟨(value, rest), hvalue, rfl⟩⟩

theorem readMembers_iff : format.readMembers levels s = .ok (a, rest) ↔
    ∃ v, Json.readMembers levels s = .ok (v, rest) ∧ v.NamedTag ∧ format.ofJson v = .ok a := by
  have hloop {members : Members} {rest : Text} :
      membersIn (readMember levels) s true (none, []) s = .ok (members, rest) ↔ _ :=
    membersIn_iff (readMember_folds levels) []
  simp only [List.append_nil] at hloop
  rw [readMembers, bind_eq_ok]
  constructor
  · rintro ⟨⟨read, mid⟩, hread, hlast⟩
    obtain ⟨members, hmembers, hnamed, hfold⟩ := hloop.1 hread
    dsimp only at hlast
    cases hfinish : finish read with
    | error cause =>
      rw [hfinish] at hlast
      cases hlast
    | ok body =>
      rw [hfinish] at hlast
      obtain ⟨hbody, rfl⟩ := judge_eq_ok.1 hlast
      refine ⟨.object members, readMembers_eq_ok.2 ⟨members, hmembers, rfl⟩, hnamed, ?_⟩
      exact bind_eq_ok.2 ⟨read, hfold, bind_eq_ok.2 ⟨body, hfinish, hbody⟩⟩
  · rintro ⟨v, hread, hnamed, hvalue⟩
    obtain ⟨members, hmembers, rfl⟩ := readMembers_eq_ok.1 hread
    obtain ⟨read, hfold, hrest⟩ := bind_eq_ok.1 hvalue
    obtain ⟨body, hfinish, hbody⟩ := bind_eq_ok.1 hrest
    refine ⟨(read, rest), hloop.2 ⟨members, hmembers, hnamed, hfold⟩, ?_⟩
    simp only [hfinish]
    exact judge_eq_ok.2 ⟨hbody, rfl⟩

/-- In a list the tag is the first element, and the others are read as the rest of the list. -/
theorem readElements_iff : format.readElements levels s = .ok (a, rest) ↔
    ∃ v, Json.readElements levels s = .ok (v, rest) ∧ v.NamedTag ∧ format.ofJson v = .ok a := by
  rw [readElements, bind_eq_ok]
  constructor
  · rintro ⟨⟨more, mid⟩, hnext, hbody⟩
    cases more with
    | false => cases hbody
    | true =>
      obtain ⟨⟨tag, behind⟩, htag, hbody⟩ := bind_eq_ok.1 hbody
      obtain ⟨⟨reversed, last⟩, hloop, hlast⟩ := bind_eq_ok.1 hbody
      obtain ⟨name, hname, rfl⟩ := inText_read_iff.1 htag
      obtain ⟨hvalue, rfl⟩ := judge_eq_ok.1 hlast
      have hmid := ((nextElement_local true).suffix hnext).length_le
      have hbehind := Json.read_progress levels hname
      obtain ⟨d, s, rfl⟩ := List.exists_cons_of_length_pos (l := s) (by omega)
      rw [List.length_cons] at hmid
      have hrest : elementsIn (elementStep levels) s false [] behind = .ok (reversed.reverse.reverse, last) := by
        rw [List.reverse_reverse]
        exact elementsIn_budget (by omega) hloop
      refine ⟨.array (.string name :: reversed.reverse), readElements_eq_ok.2 ⟨_, ?_, rfl⟩, ⟨name, rfl⟩, ?_⟩
      · refine bind_eq_ok.2 ⟨_, hnext, bind_eq_ok.2 ⟨_, elementStep_eq_ok.2 ⟨_, hname, rfl⟩, ?_⟩⟩
        exact elementsIn_start.2 ⟨reversed.reverse, hrest, by simp⟩
      · exact bind_eq_ok.2 ⟨.name name, rfl, hvalue⟩
  · rintro ⟨v, hread, hnamed, hvalue⟩
    obtain ⟨values, hloop, rfl⟩ := readElements_eq_ok.1 hread
    cases values with
    | nil => cases hvalue
    | cons first values =>
      obtain ⟨name, rfl⟩ := hnamed
      cases s with
      | nil => cases hloop
      | cons d s =>
        obtain ⟨⟨more, mid⟩, hnext, hbody⟩ := bind_eq_ok.1 hloop
        cases more with
        | false => simp at hbody
        | true =>
          obtain ⟨⟨next, behind⟩, hstep, hloop⟩ := bind_eq_ok.1 hbody
          obtain ⟨value, hname, rfl⟩ := elementStep_eq_ok.1 hstep
          obtain ⟨collected, hrest, hresult⟩ := elementsIn_start.1 hloop
          rw [List.reverse_cons] at hresult
          obtain ⟨hvalues, ⟨⟩⟩ := List.append_inj' hresult rfl
          obtain rfl := List.reverse_injective hvalues
          refine ⟨_, hnext, bind_eq_ok.2 ⟨_, inText_read_iff.2 ⟨name, hname, rfl⟩, ?_⟩⟩
          refine bind_eq_ok.2 ⟨_, elementsIn_budget le_rfl hrest, judge_eq_ok.2 ⟨?_, rfl⟩⟩
          rw [List.reverse_reverse]
          exact hvalue

/-- A tagged value with a name for its tag may be read through a tree. -/
theorem readsTrees (format : TaggedFormat α) : format.decoder.ReadsTrees NamedTag := by
  intro levels s rest a
  dsimp only [decoder]
  constructor
  · intro h
    rcases valueBy_cases h with ⟨u, hs, hread⟩ | ⟨u, hs, hread⟩ | ⟨c, u, -, -, -, hread⟩
    · cases levels with
      | zero => cases hread
      | succ levels =>
        obtain ⟨v, hv, hvalue⟩ := readElements_iff.1 hread
        exact ⟨v, (valueBy_list hs).trans hv, hvalue⟩
    · cases levels with
      | zero => cases hread
      | succ levels =>
        obtain ⟨v, hv, hvalue⟩ := readMembers_iff.1 hread
        exact ⟨v, (valueBy_map hs).trans hv, hvalue⟩
    · obtain ⟨v, -, ⟨⟩⟩ := scalarBy_eq_ok.1 hread
  · rintro ⟨v, h, hnamed, hvalue⟩
    rcases read_cases h with ⟨n, u, rfl, hs, hread⟩ | ⟨n, u, rfl, hs, hread⟩ | ⟨c, u, hs, -, -, hscalar⟩
    · exact (valueBy_list hs).trans (readElements_iff.2 ⟨v, hread, hnamed, hvalue⟩)
    · exact (valueBy_map hs).trans (readMembers_iff.2 ⟨v, hread, hnamed, hvalue⟩)
    · obtain ⟨t, -, -, hscalar⟩ := exists_scalarSpelling hscalar
      cases v with
      | array => exact hscalar.elim
      | object => exact hscalar.elim
      | _ => cases hvalue

end TaggedFormat

/-! ### Documents -/

namespace Decoder

variable {α : Type} {d : Decoder α}

def elementStep (d : Decoder α) (levels : Nat) (reversed : List α) : Read (List α) := fun s => do
  let (a, s) ← d.read levels s
  .ok (a :: reversed, s)

def addElement (d : Decoder α) (reversed : List α) (v : Json) : Except ShapeError (List α) := do
  let a ← d.ofJson v
  .ok (a :: reversed)

theorem elementStep_eq_ok {reversed result : List α} : d.elementStep levels reversed s = .ok (result, rest) ↔
    ∃ a, d.read levels s = .ok (a, rest) ∧ result = a :: reversed := by
  rw [elementStep, bind_eq_ok]
  constructor
  · rintro ⟨⟨a, mid⟩, hread, hlast⟩
    cases hlast
    exact ⟨a, hread, rfl⟩
  · rintro ⟨a, hread, rfl⟩
    exact ⟨(a, rest), hread, rfl⟩

theorem addElement_eq_ok {reversed result : List α} {v : Json} :
    d.addElement reversed v = .ok result ↔ ∃ a, d.ofJson v = .ok a ∧ result = a :: reversed := by
  rw [addElement, bind_eq_ok]
  simp only [Except.ok.injEq, eq_comm]

theorem foldlM_addElement {values : List Json} {reversed result : List α} :
    values.foldlM d.addElement reversed = .ok result ↔
      ∃ as, values.mapM d.ofJson = .ok as ∧ result = as.reverse ++ reversed := by
  induction values generalizing reversed with
  | nil =>
    constructor
    · rintro ⟨⟩
      exact ⟨[], rfl, rfl⟩
    · rintro ⟨as, ⟨⟩, rfl⟩
      rfl
  | cons v values ih =>
    rw [List.foldlM_cons, bind_eq_ok]
    constructor
    · rintro ⟨next, hnext, hrest⟩
      obtain ⟨a, ha, rfl⟩ := addElement_eq_ok.1 hnext
      obtain ⟨as, has, rfl⟩ := ih.1 hrest
      exact ⟨a :: as, mapM_cons_eq_ok.2 ⟨a, as, ha, has, rfl⟩, by simp⟩
    · rintro ⟨as, has, rfl⟩
      obtain ⟨a, as, ha, hrest, rfl⟩ := mapM_cons_eq_ok.1 has
      exact ⟨a :: reversed, addElement_eq_ok.2 ⟨a, ha, rfl⟩, ih.2 ⟨as, hrest, by simp⟩⟩

/-- A list of values that may be read through trees may be read through a tree. -/
theorem list_read_iff {admits : Json → Prop} (hd : d.ReadsTrees admits) {as : List α} {expected : Text} :
    (list expected d).read levels s = .ok (as, rest) ↔
      ∃ values, Json.read levels s = .ok (.array values, rest) ∧ (∀ v ∈ values, admits v) ∧
        values.mapM d.ofJson = .ok as := by
  have hstep (levels : Nat) : FoldsElements levels (d.elementStep levels) admits d.addElement := by
    intro reversed result s rest
    unfold ReadsTrees at hd
    simp only [elementStep_eq_ok, addElement_eq_ok, hd]
    constructor
    · rintro ⟨a, ⟨v, hv, hadmits, ha⟩, hresult⟩
      exact ⟨v, hv, hadmits, a, ha, hresult⟩
    · rintro ⟨v, hv, hadmits, a, ha, hresult⟩
      exact ⟨a, ⟨v, hv, hadmits, ha⟩, hresult⟩
  rw [list_read]
  constructor
  · intro h
    rcases valueBy_cases h with ⟨u, hs, hread⟩ | ⟨u, -, hread⟩ | ⟨c, u, -, -, -, hread⟩
    · cases levels with
      | zero => cases hread
      | succ levels =>
        obtain ⟨⟨reversed, mid⟩, hloop, hlast⟩ := bind_eq_ok.1 hread
        cases hlast
        obtain ⟨values, hvalues, hall, hfold⟩ := (elementsIn_iff (hstep levels) []).1 hloop
        obtain ⟨as, has, rfl⟩ := foldlM_addElement.1 hfold
        rw [List.append_nil] at hvalues
        refine ⟨values, (valueBy_list hs).trans (readElements_eq_ok.2 ⟨values, hvalues, rfl⟩), hall, ?_⟩
        simpa using has
    · cases hread
    · obtain ⟨t, -, ⟨⟩⟩ := scalarBy_eq_ok.1 hread
  · rintro ⟨values, h, hall, has⟩
    rcases read_cases h with ⟨n, u, rfl, hs, hread⟩ | ⟨n, u, rfl, hs, hread⟩ | ⟨c, u, hs, -, -, hscalar⟩
    · obtain ⟨values, hloop, ⟨⟩⟩ := readElements_eq_ok.1 hread
      refine (valueBy_list hs).trans (bind_eq_ok.2 ⟨(as.reverse, rest), ?_, by simp⟩)
      refine (elementsIn_iff (hstep n) []).2 ⟨values, by simpa using hloop, hall, ?_⟩
      exact foldlM_addElement.2 ⟨as, has, by simp⟩
    · obtain ⟨members, -, ⟨⟩⟩ := readMembers_eq_ok.1 hread
    · obtain ⟨t, -, -, hscalar⟩ := exists_scalarSpelling hscalar
      exact hscalar.elim

end Decoder

/-- A value is a document that lists statements. -/
structure Json.Lists (v : Json) (statements : List Statement) : Prop where
  hfits : Fits nestingLimit v
  hnamed : ∀ values, v = .array values → ∀ value ∈ values, value.NamedTag
  hread : statementsDecoder.ofJson v = .ok statements

/-- A text is read as statements just if it writes a document that lists them. -/
theorem readStatements_iff {statements : List Statement} :
    readStatements s = .ok statements ↔ ∃ v, DocumentSpelling v s ∧ v.Lists statements := by
  have hread {rest : Text} : statementsDecoder.read nestingLimit s = .ok (statements, rest) ↔ _ :=
    Decoder.list_read_iff Statement.format.readsTrees
  rw [readStatements_eq_ok]
  constructor
  · rintro ⟨rest, h, hrest⟩
    obtain ⟨values, hvalue, hnamed, hstatements⟩ := hread.1 h
    obtain ⟨hdocument, hfits⟩ := read_document_iff.1 ⟨rest, hvalue, hrest⟩
    refine ⟨.array values, hdocument, hfits, ?_, hstatements⟩
    rintro _ ⟨⟩
    exact hnamed
  · rintro ⟨v, hdocument, hfits, hnamed, hstatements⟩
    obtain ⟨rest, hvalue, hrest⟩ := read_document_iff.2 ⟨hdocument, hfits⟩
    cases v with
    | array values => exact ⟨rest, hread.2 ⟨values, hvalue, hnamed values rfl, hstatements⟩, hrest⟩
    | _ => cases hstatements

end TableModel
