import TableModel.Proofs.Json.Numerals
import TableModel.Proofs.Json.Strings
import TableModel.Proofs.Json.Values

/-!
# Reading documents

The reader of values against the grammar: a form of a value that is not nested too deep is read as that
value, whatever stands behind it as long as it does not go on with a numeral, and what is read as a value is
a form of it. Both directions are an induction on the levels that are left, with an inner one on the elements
of a list or the members of an object. So a text has at most one value, and the accepted texts are exactly
those that the grammar gives.
-/

namespace TableModel

namespace Read

open Json

variable {s rest b t u : Text} {c : Char} {v : Json} {levels : Nat}

/-! ### Blanks -/

theorem isBlank_iff : isBlank c = true ↔ c = ' ' ∨ c = '\t' ∨ c = '\n' ∨ c = '\r' := by
  simp [isBlank, or_assoc]

theorem blank_iff_all : b.Blank ↔ b.all isBlank = true := by
  simp only [Text.Blank, List.all_eq_true, isBlank_iff]

theorem skipBlanks_cons (hc : isBlank c = false) (s : Text) : skipBlanks (c :: s) = c :: s := by
  rw [skipBlanks, List.dropWhile_cons, hc]
  rfl

theorem skipBlanks_blank (hb : b.Blank) (hc : isBlank c = false) (s : Text) :
    skipBlanks (b ++ c :: s) = c :: s := by
  have hnil := skipBlanks_eq_nil (List.all_eq_true.1 (blank_iff_all.1 hb))
  rw [skipBlanks_append_of_blank hnil, skipBlanks_cons hc]

theorem exists_blanks (h : skipBlanks s = c :: u) : ∃ b, b.Blank ∧ s = b ++ c :: u := by
  refine ⟨s.takeWhile isBlank, ?_, ?_⟩
  · rw [blank_iff_all, List.all_eq_true]
    exact fun d hd => List.mem_takeWhile_imp hd
  · rw [← h, skipBlanks, List.takeWhile_append_dropWhile]

theorem Blank.append {a b : Text} (ha : a.Blank) (hb : b.Blank) : (a ++ b).Blank := by
  intro c hc
  exact (List.mem_append.1 hc).elim (ha c) (hb c)

theorem endsNumeral_blank (hb : b.Blank) (hc : c = ',' ∨ c = ']' ∨ c = '\x7d') (s : Text) :
    EndsNumeral (b ++ c :: s) := by
  intro d hd
  cases b with
  | nil =>
    cases hd
    rcases hc with rfl | rfl | rfl <;> decide
  | cons e b =>
    cases hd
    rcases hb d List.mem_cons_self with rfl | rfl | rfl | rfl <;> decide

theorem endsNumeral_of_blank (hb : b.Blank) : EndsNumeral b := by
  intro d hd
  rcases hb d (List.mem_of_mem_head? hd) with rfl | rfl | rfl | rfl <;> decide

/-! ### Scalars -/

def IsScalar : Json → Prop
  | .array _ | .object _ => False
  | _ => True

/-- A text starts with a token that is no closing bracket. -/
def Starts (t : Text) : Prop :=
  ∃ c u, t = c :: u ∧ isBlank c = false ∧ c ≠ ']'

theorem starts_numeral {x : Numeral} (h : NumeralSpelling x t) :
    ∃ c u, t = c :: u ∧ (c = '-' ∨ c.isDigit = true) := by
  cases h with
  | @parts negative whole fraction exponent behindPoint behindMark hwhole =>
    obtain ⟨hne, hdigits⟩ := hwhole
    obtain ⟨c, u, rfl⟩ := List.exists_cons_of_ne_nil hne
    cases negative with
    | true => exact ⟨'-', _, rfl, .inl rfl⟩
    | false => exact ⟨c, _, rfl, .inr (hdigits c List.mem_cons_self)⟩

theorem not_marks_of_digit (h : c = '-' ∨ c.isDigit = true) :
    isBlank c = false ∧ c ≠ '[' ∧ c ≠ '\x7b' ∧ c ≠ ']' ∧ c ≠ 'n' ∧ c ≠ 't' ∧ c ≠ 'f' ∧ c ≠ '"' := by
  rcases h with rfl | h
  · decide
  · refine ⟨Bool.eq_false_iff.2 fun hblank => ?_, ?_, ?_, ?_, ?_, ?_, ?_, ?_⟩
    · rcases isBlank_iff.1 hblank with rfl | rfl | rfl | rfl <;> cases h
    all_goals
      rintro rfl
      cases h

theorem scalar_numeral {x : Numeral} {n : Number} (h : NumeralSpelling x t) (hvalue : x.value? = some n)
    (hrest : EndsNumeral rest) : scalar (t ++ rest) = .ok (.number n, rest) := by
  have hnumber := number_of_spelling h hvalue hrest
  obtain ⟨c, u, rfl, hc⟩ := starts_numeral h
  obtain ⟨-, -, -, -, hn, ht, hf, hq⟩ := not_marks_of_digit hc
  rw [List.cons_append] at hnumber ⊢
  simp only [scalar, if_neg hn, if_neg ht, if_neg hf, if_neg hq, if_pos hc, hnumber, bind, Except.bind]

/-- A form of a scalar starts with no bracket, and is read as it. -/
theorem scalar_of_spelling (h : v.Spelling t) (hv : IsScalar v) :
    ∃ c u, t = c :: u ∧ isBlank c = false ∧ c ≠ '[' ∧ c ≠ '\x7b' ∧ c ≠ ']' ∧
      ∀ rest, EndsNumeral rest → scalar (t ++ rest) = .ok (v, rest) := by
  have hnumeral {x : Numeral} {n : Number} {t : Text} (ht : NumeralSpelling x t) (hvalue : x.value? = some n) :
      ∃ c u, t = c :: u ∧ isBlank c = false ∧ c ≠ '[' ∧ c ≠ '\x7b' ∧ c ≠ ']' ∧
        ∀ rest, EndsNumeral rest → scalar (t ++ rest) = .ok (.number n, rest) := by
    obtain ⟨c, u, hcons, hc⟩ := starts_numeral ht
    obtain ⟨hblank, hlist, hmap, hclose, -⟩ := not_marks_of_digit hc
    exact ⟨c, u, hcons, hblank, hlist, hmap, hclose, fun rest => scalar_numeral ht hvalue⟩
  cases h with
  | null => exact ⟨'n', "ull", rfl, by decide, by decide, by decide, by decide, fun rest _ => rfl⟩
  | true => exact ⟨'t', "rue", rfl, by decide, by decide, by decide, by decide, fun rest _ => rfl⟩
  | false => exact ⟨'f', "alse", rfl, by decide, by decide, by decide, by decide, fun rest _ => rfl⟩
  | integer hn => exact hnumeral (numeralSpelling_ofInt _) (value?_integerNumeral hn)
  | numeral ht hvalue => exact hnumeral ht hvalue
  | @string t u ht =>
    refine ⟨'"', _, rfl, by decide, by decide, by decide, by decide, fun rest _ => ?_⟩
    have hread := string_of_spelling ht rest
    rw [List.cons_append, List.append_assoc, List.singleton_append, scalar]
    simp [hread, bind, Except.bind]
  | array => exact hv.elim
  | object => exact hv.elim

theorem starts_of_spelling (h : v.Spelling t) : Starts t := by
  have hscalar (hv : IsScalar v) : Starts t := by
    obtain ⟨c, u, hcons, hblank, -, -, hclose, -⟩ := scalar_of_spelling h hv
    exact ⟨c, u, hcons, hblank, hclose⟩
  cases v with
  | array =>
    cases h
    exact ⟨'[', _, rfl, by decide, by decide⟩
  | object =>
    cases h
    exact ⟨'\x7b', _, rfl, by decide, by decide⟩
  | _ => exact hscalar trivial

theorem eq_of_word {α : Type} {value a : α} {letters : Text} (h : word value letters s = .ok (a, rest)) :
    s = letters ++ rest ∧ a = value := by
  induction letters generalizing s with
  | nil =>
    cases h
    exact ⟨rfl, rfl⟩
  | cons c letters ih =>
    cases s with
    | nil => cases h
    | cons d s =>
      simp only [word] at h
      split_ifs at h with hcd
      · obtain ⟨rfl, ha⟩ := ih h
        exact ⟨by rw [hcd, List.cons_append], ha⟩
      · cases h

theorem exists_scalarSpelling (h : scalar s = .ok (v, rest)) : ∃ t, s = t ++ rest ∧ v.Spelling t ∧ IsScalar v := by
  cases s with
  | nil => cases h
  | cons c s =>
    simp only [scalar] at h
    split_ifs at h with hn ht hf hq hd
    · obtain ⟨rfl, rfl⟩ := eq_of_word h
      exact ⟨"null", by rw [hn]; rfl, .null, trivial⟩
    · obtain ⟨rfl, rfl⟩ := eq_of_word h
      exact ⟨"true", by rw [ht]; rfl, .true, trivial⟩
    · obtain ⟨rfl, rfl⟩ := eq_of_word h
      exact ⟨"false", by rw [hf]; rfl, .false, trivial⟩
    · obtain ⟨⟨text, mid⟩, hstring, hlast⟩ := bind_eq_ok.1 h
      cases hlast
      obtain ⟨u, rfl, hu⟩ := exists_textSpelling hstring
      exact ⟨'"' :: (u ++ ['"']), by simp [hq], .string hu, trivial⟩
    · obtain ⟨⟨n, mid⟩, hnumber, hlast⟩ := bind_eq_ok.1 h
      cases hlast
      obtain ⟨x, t, hs, hx, hvalue⟩ := exists_numberSpelling hnumber
      exact ⟨t, hs, .numeral hx hvalue, trivial⟩
    · cases h

/-! ### The loops -/

def elementStep (levels : Nat) (reversed : List Json) : Read (List Json) := fun s => do
  let (value, s) ← Json.read levels s
  .ok (value :: reversed, s)

def memberStep (levels : Nat) (reversed : List (Text × Json)) (key : Text) : Read (List (Text × Json)) := fun s => do
  let ((), s) ← colon s
  let (value, s) ← Json.read levels s
  .ok ((key, value) :: reversed, s)

theorem elementStep_eq_ok {reversed result : List Json} :
    elementStep levels reversed s = .ok (result, rest) ↔
      ∃ value, Json.read levels s = .ok (value, rest) ∧ result = value :: reversed := by
  rw [elementStep, bind_eq_ok]
  constructor
  · rintro ⟨⟨value, mid⟩, hread, hlast⟩
    cases hlast
    exact ⟨value, hread, rfl⟩
  · rintro ⟨value, hread, rfl⟩
    exact ⟨(value, rest), hread, rfl⟩

theorem memberStep_eq_ok {reversed result : List (Text × Json)} {key : Text} :
    memberStep levels reversed key s = .ok (result, rest) ↔
      ∃ behind value, skipBlanks s = ':' :: behind ∧ Json.read levels behind = .ok (value, rest) ∧
        result = (key, value) :: reversed := by
  rw [memberStep, bind_eq_ok]
  constructor
  · rintro ⟨⟨⟨⟩, behind⟩, hcolon, hrest⟩
    obtain ⟨⟨value, mid⟩, hread, hlast⟩ := bind_eq_ok.1 hrest
    cases hlast
    exact ⟨behind, value, colon_eq_ok.1 hcolon, hread, rfl⟩
  · rintro ⟨behind, value, hcolon, hread, rfl⟩
    exact ⟨((), behind), colon_eq_ok.2 hcolon, bind_eq_ok.2 ⟨(value, rest), hread, rfl⟩⟩

/-- Parts one behind the other, with a comma before each but the first of a list. -/
def separated : Bool → List Text → Text
  | _, [] => []
  | first, t :: ts => (if first then [] else [',']) ++ (t ++ separated false ts)

theorem intercalate_eq_separated (ts : List Text) : List.intercalate [','] ts = separated true ts := by
  have hbehind (t : Text) (ts : List Text) : List.intercalate [','] (t :: ts) = t ++ separated false ts := by
    induction ts generalizing t with
    | nil => simp [separated]
    | cons u ts ih => simp [List.intercalate_cons_cons, ih, separated]
  cases ts with
  | nil => rfl
  | cons t ts => exact hbehind t ts

/-- The forms of a value are read as it, in front of all that does not go on with a numeral. -/
def ReadsAs (levels : Nat) (t : Text) (v : Json) : Prop :=
  ∀ rest, EndsNumeral rest → Json.read levels (t ++ rest) = .ok (v, rest)

theorem endsNumeral_separated (hb : b.Blank) (hc : c = ']' ∨ c = '\x7d') (ts : List Text) (s : Text) :
    EndsNumeral (b ++ (separated false ts ++ c :: s)) := by
  cases ts with
  | nil => exact endsNumeral_blank hb (.inr hc) s
  | cons t ts => exact endsNumeral_blank hb (.inl rfl) _

theorem nextElement_written {first : Bool} {e : Element} (hb : b.Blank) (he : e.Sound) (hstarts : Starts e.text)
    (s : Text) :
    nextElement first (b ++ ((if first then [] else [',']) ++ (e.written ++ s))) =
      .ok (true, e.text ++ (e.after ++ s)) := by
  obtain ⟨c, u, hcons, hblank, hclose⟩ := hstarts
  have hwritten : e.written ++ s = e.before ++ c :: (u ++ (e.after ++ s)) := by
    simp [Element.written, hcons]
  rw [hwritten, hcons]
  cases first with
  | true =>
    apply nextElement_first _ hclose
    rw [if_pos rfl, List.nil_append, ← List.append_assoc]
    exact skipBlanks_blank (Blank.append hb he.hbefore) hblank _
  | false =>
    exact nextElement_comma (skipBlanks_blank hb (by decide) _) (skipBlanks_blank he.hbefore hblank _) hclose

theorem nextMember_written {first : Bool} {m : Member} (hb : b.Blank) (hm : m.Sound) (s : Text) :
    nextMember first (b ++ ((if first then [] else [',']) ++ (m.written ++ s))) =
      .ok (true, m.keyText ++ '"' :: (m.gap ++ ':' :: (m.element.written ++ s))) := by
  have hwritten : m.written ++ s =
      m.before ++ '"' :: (m.keyText ++ '"' :: (m.gap ++ ':' :: (m.element.written ++ s))) := by
    simp [Member.written]
  rw [hwritten]
  cases first with
  | true =>
    apply nextMember_first
    rw [if_pos rfl, List.nil_append, ← List.append_assoc]
    exact skipBlanks_blank (Blank.append hb hm.hbefore) (by decide) _
  | false => exact nextMember_comma (skipBlanks_blank hb (by decide) _) (skipBlanks_blank hm.hbefore (by decide) _)

theorem elementsIn_written {elements : List Element} (hsound : ∀ e ∈ elements, e.Sound)
    (hstarts : ∀ e ∈ elements, Starts e.text) (hreads : ∀ e ∈ elements, ReadsAs levels e.text e.value)
    {first : Bool} {budget : Text} (hbudget : elements.length < budget.length) (hb : b.Blank)
    (reversed : List Json) (s : Text) :
    elementsIn (elementStep levels) budget first reversed
        (b ++ (separated first (elements.map Element.written) ++ ']' :: s)) =
      .ok ((elements.map Element.value).reverse ++ reversed, s) := by
  obtain ⟨d, budget, rfl⟩ := List.exists_cons_of_ne_nil (List.ne_nil_of_length_pos (Nat.zero_lt_of_lt hbudget))
  induction elements generalizing budget b d first reversed with
  | nil => exact bind_eq_ok.2 ⟨_, nextElement_bracket (skipBlanks_blank hb (by decide) s), rfl⟩
  | cons e elements ih =>
    obtain ⟨he, hsound⟩ := List.forall_mem_cons.1 hsound
    obtain ⟨hstart, hstarts⟩ := List.forall_mem_cons.1 hstarts
    obtain ⟨hread, hreads⟩ := List.forall_mem_cons.1 hreads
    have hmore := endsNumeral_separated he.hafter (.inl rfl) (elements.map Element.written) s
    rw [List.map_cons, separated, List.append_assoc, List.append_assoc]
    refine bind_eq_ok.2 ⟨_, nextElement_written hb he hstart _, ?_⟩
    refine bind_eq_ok.2 ⟨_, elementStep_eq_ok.2 ⟨_, hread _ hmore, rfl⟩, ?_⟩
    obtain ⟨f, budget, rfl⟩ := List.exists_cons_of_length_pos (l := budget) (by simp at hbudget; omega)
    refine (ih hsound hstarts hreads he.hafter (e.value :: reversed) f budget (by simpa using hbudget)).trans ?_
    simp

theorem read_skipBlanks (levels : Nat) (s : Text) : Json.read levels (skipBlanks s) = Json.read levels s := by
  cases levels <;> exact valueBy_skipBlanks s

theorem read_blank (hb : b.Blank) (levels : Nat) (s : Text) : Json.read levels (b ++ s) = Json.read levels s := by
  have hnil := skipBlanks_eq_nil (List.all_eq_true.1 (blank_iff_all.1 hb))
  rw [← read_skipBlanks, skipBlanks_append_of_blank hnil, read_skipBlanks]

theorem membersIn_written {members : List Member} (hsound : ∀ m ∈ members, m.Sound)
    (hreads : ∀ m ∈ members, ReadsAs levels m.element.text m.element.value)
    {first : Bool} {budget : Text} (hbudget : members.length < budget.length) (hb : b.Blank)
    (reversed : List (Text × Json)) (s : Text) :
    membersIn (memberStep levels) budget first reversed
        (b ++ (separated first (members.map Member.written) ++ '\x7d' :: s)) =
      .ok ((members.map Member.pair).reverse ++ reversed, s) := by
  obtain ⟨d, budget, rfl⟩ := List.exists_cons_of_ne_nil (List.ne_nil_of_length_pos (Nat.zero_lt_of_lt hbudget))
  induction members generalizing budget b d first reversed with
  | nil => exact bind_eq_ok.2 ⟨_, nextMember_brace (skipBlanks_blank hb (by decide) s), rfl⟩
  | cons m members ih =>
    obtain ⟨hm, hsound⟩ := List.forall_mem_cons.1 hsound
    obtain ⟨hread, hreads⟩ := List.forall_mem_cons.1 hreads
    have hmore := endsNumeral_separated hm.helement.hafter (.inr rfl) (members.map Member.written) s
    have hvalue := hread _ hmore
    rw [← read_blank hm.helement.hbefore] at hvalue
    rw [List.map_cons, separated, List.append_assoc, List.append_assoc]
    refine bind_eq_ok.2 ⟨_, nextMember_written hb hm _, ?_⟩
    refine bind_eq_ok.2 ⟨_, string_of_spelling hm.hkey _, ?_⟩
    rw [Element.written, List.append_assoc, List.append_assoc]
    have hcolon := skipBlanks_blank hm.hgap (c := ':') (by decide)
    refine bind_eq_ok.2 ⟨_, memberStep_eq_ok.2 ⟨_, _, hcolon _, hvalue, rfl⟩, ?_⟩
    obtain ⟨f, budget, rfl⟩ := List.exists_cons_of_length_pos (l := budget) (by simp at hbudget; omega)
    refine (ih hsound hreads hm.helement.hafter (m.pair :: reversed) f budget (by simpa using hbudget)).trans ?_
    simp

/-! ### From a form to the value -/

theorem length_le_separated {ts : List Text} (h : ∀ t ∈ ts, t ≠ []) (first : Bool) :
    ts.length ≤ (separated first ts).length := by
  induction ts generalizing first with
  | nil => simp
  | cons t ts ih =>
    obtain ⟨ht, hts⟩ := List.forall_mem_cons.1 h
    have hpos := List.length_pos_iff.2 ht
    have hrest := ih hts false
    simp only [separated, List.length_append, List.length_cons]
    omega

theorem length_lt_of_separated {ts : List Text} (h : ∀ t ∈ ts, t ≠ []) (b s : Text) :
    ts.length < (b ++ (separated true ts ++ c :: s)).length := by
  have hle := length_le_separated h true
  simp only [List.length_append, List.length_cons]
  omega

theorem Starts.ne_nil (h : Starts t) : t ≠ [] := by
  obtain ⟨c, u, rfl, -⟩ := h
  exact List.cons_ne_nil c u

theorem readElements_written {elements : List Element} (hb : b.Blank) (hsound : ∀ e ∈ elements, e.Sound)
    (hstarts : ∀ e ∈ elements, Starts e.text) (hreads : ∀ e ∈ elements, ReadsAs levels e.text e.value) (s : Text) :
    Json.readElements levels (b ++ (List.intercalate [','] (elements.map Element.written) ++ ']' :: s)) =
      .ok (.array (elements.map Element.value), s) := by
  have hne : ∀ t ∈ elements.map Element.written, t ≠ [] := by
    simp only [List.forall_mem_map, Element.written]
    intro e he hnil
    simp [(hstarts e he).ne_nil] at hnil
  have hbudget := length_lt_of_separated hne b s (c := ']')
  rw [List.length_map] at hbudget
  rw [intercalate_eq_separated]
  refine bind_eq_ok.2 ⟨_, elementsIn_written hsound hstarts hreads hbudget hb [] s, ?_⟩
  simp

theorem readMembers_written {members : List Member} (hb : b.Blank) (hsound : ∀ m ∈ members, m.Sound)
    (hreads : ∀ m ∈ members, ReadsAs levels m.element.text m.element.value) (s : Text) :
    Json.readMembers levels (b ++ (List.intercalate [','] (members.map Member.written) ++ '\x7d' :: s)) =
      .ok (.object (members.map Member.pair), s) := by
  have hne : ∀ t ∈ members.map Member.written, t ≠ [] := by simp [Member.written]
  have hbudget := length_lt_of_separated hne b s (c := '\x7d')
  rw [List.length_map] at hbudget
  rw [intercalate_eq_separated]
  refine bind_eq_ok.2 ⟨_, membersIn_written hsound hreads hbudget hb [] s, ?_⟩
  simp

theorem read_scalar {u : Text} (hs : skipBlanks s = c :: u) (hlist : c ≠ '[') (hmap : c ≠ '\x7b') (levels : Nat) :
    Json.read levels s = scalar (c :: u) := by
  have hread : scalarBy .ok (c :: u) = scalar (c :: u) := by
    rw [scalarBy]
    cases scalar (c :: u) <;> rfl
  rw [← hread]
  cases levels <;> exact valueBy_scalar hs hlist hmap

/-- A form of a value is read as it. -/
theorem readsAs_of_spelling (h : v.Spelling t) (hfits : Fits levels v) : ReadsAs levels t v := by
  have hscalar (levels : Nat) {v : Json} {t : Text} (h : v.Spelling t) (hv : IsScalar v) : ReadsAs levels t v := by
    intro rest hrest
    obtain ⟨c, u, rfl, hblank, hlist, hmap, -, hread⟩ := scalar_of_spelling h hv
    exact (read_scalar (skipBlanks_cons hblank _) hlist hmap levels).trans (hread rest hrest)
  induction levels generalizing v t with
  | zero =>
    apply hscalar 0 h
    cases v <;> trivial
  | succ levels ih =>
    cases h with
    | @array blanks elements hblanks hsound helements =>
      have hreads (e) (he : e ∈ elements) := ih (helements e he) (hfits _ (List.mem_map_of_mem he))
      have hread := readElements_written hblanks hsound (fun e he => starts_of_spelling (helements e he)) hreads
      intro rest _
      rw [read_succ, List.cons_append, valueBy_list (skipBlanks_cons (by decide) _)]
      simpa using hread rest
    | @object blanks members hblanks hsound hmembers =>
      have hreads (m) (hm : m ∈ members) := ih (hmembers m hm) (hfits _ (List.mem_map_of_mem hm))
      have hread := readMembers_written hblanks hsound hreads
      intro rest _
      rw [read_succ, List.cons_append, valueBy_map (skipBlanks_cons (by decide) _)]
      simpa using hread rest
    | _ => exact hscalar _ (by constructor <;> assumption) trivial

/-! ### From a text to the form -/

/-- A value that is read has a form at the front of the text, behind blanks. -/
def Recovers (levels : Nat) : Prop :=
  ∀ ⦃s : Text⦄ ⦃v : Json⦄ ⦃rest : Text⦄, Json.read levels s = .ok (v, rest) →
    ∃ b t, s = b ++ (t ++ rest) ∧ b.Blank ∧ v.Spelling t ∧ Fits levels v

theorem exists_elements (hrecovers : Recovers levels) {budget : Text} {first : Bool} {reversed result : List Json}
    (h : elementsIn (elementStep levels) budget first reversed s = .ok (result, rest)) :
    ∃ (b : Text) (elements : List Element), b.Blank ∧ (∀ e ∈ elements, e.Sound) ∧
      (∀ e ∈ elements, e.value.Spelling e.text ∧ Fits levels e.value) ∧
      s = b ++ (separated first (elements.map Element.written) ++ ']' :: rest) ∧
      result = (elements.map Element.value).reverse ++ reversed := by
  induction budget generalizing first reversed s with
  | nil => cases h
  | cons d budget ih =>
    obtain ⟨⟨more, mid⟩, hnext, hbody⟩ := bind_eq_ok.1 h
    rcases nextElement_cases hnext with ⟨rfl, hs, u, rfl⟩ | ⟨rfl, c, u, rfl, hc, hfirst⟩
    · cases hbody
      obtain ⟨b, hb, rfl⟩ := exists_blanks hs
      exact ⟨b, [], hb, by simp, by simp, rfl, rfl⟩
    · obtain ⟨⟨reversed', mid'⟩, hstep, hloop⟩ := bind_eq_ok.1 hbody
      obtain ⟨value, hread, rfl⟩ := elementStep_eq_ok.1 hstep
      obtain ⟨inner, t, hcons, hinner, ht, hfits⟩ := hrecovers hread
      obtain ⟨after, elements, hafter, hsound, helements, rfl, rfl⟩ := ih hloop
      have hresult (before : Text) :
          (elements.map Element.value).reverse ++ value :: reversed =
            (({ before, value, text := t, after } :: elements : List Element).map Element.value).reverse ++
              reversed := by simp
      rcases hfirst with ⟨rfl, hs⟩ | ⟨rfl, v, hs, hv⟩
      · obtain ⟨b, hb, rfl⟩ := exists_blanks hs
        refine ⟨b, { before := inner, value, text := t, after } :: elements, hb, ?_, ?_, ?_, hresult inner⟩
        · exact List.forall_mem_cons.2 ⟨⟨hinner, hafter⟩, hsound⟩
        · exact List.forall_mem_cons.2 ⟨⟨ht, hfits⟩, helements⟩
        · simp [hcons, separated, Element.written]
      · obtain ⟨b, hb, rfl⟩ := exists_blanks hs
        obtain ⟨b', hb', rfl⟩ := exists_blanks hv
        refine ⟨b, { before := b' ++ inner, value, text := t, after } :: elements, hb, ?_, ?_, ?_, hresult _⟩
        · exact List.forall_mem_cons.2 ⟨⟨Blank.append hb' hinner, hafter⟩, hsound⟩
        · exact List.forall_mem_cons.2 ⟨⟨ht, hfits⟩, helements⟩
        · simp [hcons, separated, Element.written]

theorem exists_members (hrecovers : Recovers levels) {budget : Text} {first : Bool}
    {reversed result : List (Text × Json)}
    (h : membersIn (memberStep levels) budget first reversed s = .ok (result, rest)) :
    ∃ (b : Text) (members : List Member), b.Blank ∧ (∀ m ∈ members, m.Sound) ∧
      (∀ m ∈ members, m.element.value.Spelling m.element.text ∧ Fits levels m.element.value) ∧
      s = b ++ (separated first (members.map Member.written) ++ '\x7d' :: rest) ∧
      result = (members.map Member.pair).reverse ++ reversed := by
  induction budget generalizing first reversed s with
  | nil => cases h
  | cons d budget ih =>
    obtain ⟨⟨more, mid⟩, hnext, hbody⟩ := bind_eq_ok.1 h
    rcases nextMember_cases hnext with ⟨rfl, hs, u, rfl⟩ | ⟨rfl, hfirst⟩
    · cases hbody
      obtain ⟨b, hb, rfl⟩ := exists_blanks hs
      exact ⟨b, [], hb, by simp, by simp, rfl, rfl⟩
    · obtain ⟨⟨key, behindKey⟩, hstring, hmember⟩ := bind_eq_ok.1 hbody
      obtain ⟨keyText, rfl, hkey⟩ := exists_textSpelling hstring
      obtain ⟨⟨reversed', mid'⟩, hstep, hloop⟩ := bind_eq_ok.1 hmember
      obtain ⟨behindColon, value, hcolon, hread, rfl⟩ := memberStep_eq_ok.1 hstep
      obtain ⟨gap, hgap, rfl⟩ := exists_blanks hcolon
      obtain ⟨inner, t, rfl, hinner, ht, hfits⟩ := hrecovers hread
      obtain ⟨after, members, hafter, hsound, hmembers, rfl, rfl⟩ := ih hloop
      have hwritten (before : Text) (hbefore : before.Blank) : ∃ m : Member, m.Sound ∧
          (m.element.value.Spelling m.element.text ∧ Fits levels m.element.value) ∧ m.pair = (key, value) ∧
            m.written = before ++ '"' :: (keyText ++ '"' :: (gap ++ ':' :: (inner ++ (t ++ after)))) :=
        ⟨{ before, key, keyText, gap, element := { before := inner, value, text := t, after } },
          ⟨hbefore, hkey, hgap, ⟨hinner, hafter⟩⟩, ⟨ht, hfits⟩, rfl, rfl⟩
      rcases hfirst with ⟨rfl, hs⟩ | ⟨rfl, v, hs, hv⟩
      · obtain ⟨b, hb, rfl⟩ := exists_blanks hs
        obtain ⟨m, hm, hspelling, hpair, htext⟩ := hwritten [] (by simp [Text.Blank])
        refine ⟨b, m :: members, hb, List.forall_mem_cons.2 ⟨hm, hsound⟩,
          List.forall_mem_cons.2 ⟨hspelling, hmembers⟩, ?_, ?_⟩
        · simp [separated, htext]
        · simp [hpair]
      · obtain ⟨b, hb, rfl⟩ := exists_blanks hs
        obtain ⟨b', hb', rfl⟩ := exists_blanks hv
        obtain ⟨m, hm, hspelling, hpair, htext⟩ := hwritten b' hb'
        refine ⟨b, m :: members, hb, List.forall_mem_cons.2 ⟨hm, hsound⟩,
          List.forall_mem_cons.2 ⟨hspelling, hmembers⟩, ?_, ?_⟩
        · simp [separated, htext]
        · simp [hpair]

theorem fits_of_isScalar (h : IsScalar v) (levels : Nat) : Fits levels v := by
  cases v with
  | array => exact h.elim
  | object => exact h.elim
  | _ => simp [Fits]

theorem exists_arraySpelling (hrecovers : Recovers levels) (h : readElements levels s = .ok (v, rest)) :
    ∃ t, '[' :: s = t ++ rest ∧ v.Spelling t ∧ Fits (levels + 1) v := by
  obtain ⟨⟨result, mid⟩, hloop, hlast⟩ := bind_eq_ok.1 h
  cases hlast
  obtain ⟨blanks, elements, hblanks, hsound, helements, rfl, rfl⟩ := exists_elements hrecovers hloop
  rw [List.append_nil, List.reverse_reverse, ← intercalate_eq_separated]
  refine ⟨_, ?_, .array hblanks hsound fun e he => (helements e he).1, ?_⟩
  · simp
  · rintro v hv
    obtain ⟨e, he, rfl⟩ := List.mem_map.1 hv
    exact (helements e he).2

theorem exists_objectSpelling (hrecovers : Recovers levels) (h : readMembers levels s = .ok (v, rest)) :
    ∃ t, '\x7b' :: s = t ++ rest ∧ v.Spelling t ∧ Fits (levels + 1) v := by
  obtain ⟨⟨result, mid⟩, hloop, hlast⟩ := bind_eq_ok.1 h
  cases hlast
  obtain ⟨blanks, members, hblanks, hsound, hmembers, rfl, rfl⟩ := exists_members hrecovers hloop
  rw [List.append_nil, List.reverse_reverse, ← intercalate_eq_separated]
  refine ⟨_, ?_, .object hblanks hsound fun m hm => (hmembers m hm).1, ?_⟩
  · simp
  · rintro pair hpair
    obtain ⟨m, hm, rfl⟩ := List.mem_map.1 hpair
    exact (hmembers m hm).2

theorem recovers (levels : Nat) : Recovers levels := by
  have hscalar {levels : Nat} {c : Char} {u s : Text} {v : Json} {rest : Text} (hs : skipBlanks s = c :: u)
      (h : scalarBy .ok (c :: u) = .ok (v, rest)) :
      ∃ b t, s = b ++ (t ++ rest) ∧ b.Blank ∧ v.Spelling t ∧ Fits levels v := by
    obtain ⟨b, hb, rfl⟩ := exists_blanks hs
    obtain ⟨⟨value, mid⟩, hread, hlast⟩ := bind_eq_ok.1 h
    cases hlast
    obtain ⟨t, hcons, ht, hv⟩ := exists_scalarSpelling hread
    exact ⟨b, t, by rw [hcons], hb, ht, fits_of_isScalar hv levels⟩
  induction levels with
  | zero =>
    intro s v rest h
    rcases valueBy_cases h with ⟨u, -, hlist⟩ | ⟨u, -, hmap⟩ | ⟨c, u, hs, -, -, hread⟩
    · cases hlist
    · cases hmap
    · exact hscalar hs hread
  | succ levels ih =>
    intro s v rest h
    rw [read_succ] at h
    rcases valueBy_cases h with ⟨u, hs, hlist⟩ | ⟨u, hs, hmap⟩ | ⟨c, u, hs, -, -, hread⟩
    · obtain ⟨b, hb, rfl⟩ := exists_blanks hs
      obtain ⟨t, ht, hspelling, hfits⟩ := exists_arraySpelling ih hlist
      exact ⟨b, t, by rw [ht], hb, hspelling, hfits⟩
    · obtain ⟨b, hb, rfl⟩ := exists_blanks hs
      obtain ⟨t, ht, hspelling, hfits⟩ := exists_objectSpelling ih hmap
      exact ⟨b, t, by rw [ht], hb, hspelling, hfits⟩
    · exact hscalar hs hread

/-! ### Documents -/

/-- The texts that are read as a value with only blanks behind it are the documents that write the value. -/
theorem read_document_iff : (∃ rest, Json.read levels s = .ok (v, rest) ∧ skipBlanks rest = []) ↔
    DocumentSpelling v s ∧ Fits levels v := by
  constructor
  · rintro ⟨rest, hread, hrest⟩
    obtain ⟨b, t, rfl, hb, ht, hfits⟩ := recovers levels hread
    rw [skipBlanks, List.dropWhile_eq_nil_iff] at hrest
    exact ⟨⟨b, t, rest, rfl, hb, blank_iff_all.2 (List.all_eq_true.2 hrest), ht⟩, hfits⟩
  · rintro ⟨⟨b, t, rest, rfl, hb, hrest, ht⟩, hfits⟩
    refine ⟨rest, ?_, skipBlanks_eq_nil (List.all_eq_true.1 (blank_iff_all.1 hrest))⟩
    rw [read_blank hb]
    exact readsAs_of_spelling ht hfits rest (endsNumeral_of_blank hrest)

/-! ### One value -/

theorem fits_object {members : List (Text × Json)} :
    Fits levels (.object members) ↔ ∃ n, levels = n + 1 ∧ ∀ m ∈ members, Fits n m.2 := by
  cases levels <;> simp [Fits]

theorem fits_array {values : List Json} :
    Fits levels (.array values) ↔ ∃ n, levels = n + 1 ∧ ∀ v ∈ values, Fits n v := by
  cases levels <;> simp [Fits]

theorem fits_mono {other : Nat} (h : Fits levels v) (hle : levels ≤ other) : Fits other v := by
  induction levels generalizing other v with
  | zero =>
    apply fits_of_isScalar
    cases v <;> trivial
  | succ levels ih =>
    obtain ⟨n, rfl⟩ := Nat.exists_eq_add_one_of_ne_zero (Nat.pos_iff_ne_zero.1 (Nat.zero_lt_of_lt hle))
    have hle := Nat.le_of_succ_le_succ hle
    cases v with
    | array values => exact fun v hv => ih (h v hv) hle
    | object members => exact fun m hm => ih (h m hm) hle
    | _ => trivial

theorem exists_fits_all {α : Type} {value : α → Json} {items : List α} (h : ∀ x ∈ items, ∃ n, Fits n (value x)) :
    ∃ n, ∀ x ∈ items, Fits n (value x) := by
  induction items with
  | nil => exact ⟨0, by simp⟩
  | cons x items ih =>
    obtain ⟨hx, hitems⟩ := List.forall_mem_cons.1 h
    obtain ⟨m, hm⟩ := hx
    obtain ⟨n, hn⟩ := ih hitems
    refine ⟨max m n, List.forall_mem_cons.2 ⟨fits_mono hm (le_max_left m n), fun y hy => ?_⟩⟩
    exact fits_mono (hn y hy) (le_max_right m n)

theorem exists_fits (h : v.Spelling t) : ∃ n, Fits n v := by
  induction h with
  | array _ _ _ ih =>
    obtain ⟨n, hn⟩ := exists_fits_all ih
    exact ⟨n + 1, by simpa [Fits] using hn⟩
  | object _ _ _ ih =>
    obtain ⟨n, hn⟩ := exists_fits_all ih
    exact ⟨n + 1, by simpa [Fits, Member.pair] using hn⟩
  | _ => exact ⟨0, trivial⟩

theorem documentSpelling_unique {w : Json} (hv : DocumentSpelling v s) (hw : DocumentSpelling w s) : v = w := by
  have hlevels {v : Json} (h : DocumentSpelling v s) : ∃ n, Fits n v := by
    obtain ⟨_, _, _, -, -, -, hspelling⟩ := h
    exact exists_fits hspelling
  obtain ⟨m, hm⟩ := hlevels hv
  obtain ⟨n, hn⟩ := hlevels hw
  obtain ⟨rest, hread, -⟩ := read_document_iff.2 ⟨hv, fits_mono hm (le_max_left m n)⟩
  obtain ⟨rest', hread', -⟩ := read_document_iff.2 ⟨hw, fits_mono hn (le_max_right m n)⟩
  rw [hread] at hread'
  cases hread'
  rfl

end Read

end TableModel
