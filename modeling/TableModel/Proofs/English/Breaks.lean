import TableModel.English.Singular
import TableModel.Proofs.English.Matches
import TableModel.Proofs.Results

/-!
# The words that have no singular

Which words the search for a singular breaks down on. Only a word that starts with a capital and is neither all
small nor all capitals can do so, and only if a rule applies to it. It does so exactly if the ending that the rule
replaces, or a group of it, is not the whole word and starts with a character of several bytes. All words that the
tables and the rules themselves hold are harmless, as they start with characters of one byte.
-/

namespace TableModel

/-- A word that starts with a capital, but is neither all small nor all capitals. -/
structure Capitalised (word : Text) : Prop where
  hsmall : word ≠ word.toLowercase
  hcapitals : word ≠ word.toUppercase
  hinitial : startsUppercase word = true

theorem startsLong_ne_nil {t : Text} (h : startsLong t = true) : t.isEmpty = false := by
  cases t with
  | nil => cases h
  | cons c t => rfl

/-- A form is not put in the case of a word if it starts with a character of several bytes. -/
theorem restoreCase_error_iff {word form : Text} {cause : Fault} : restoreCase word form = .error cause ↔
    cause = .longInitial ∧ Capitalised word ∧ form ≠ word ∧ startsLong form = true := by
  constructor
  · intro h
    unfold restoreCase at h
    split_ifs at h with hsame hsmall hcapitals hinitial hlong
    cases h
    have hstarts : startsUppercase word = true := (Bool.and_eq_true_iff.1 hinitial).1
    exact ⟨rfl, ⟨hsmall, hcapitals, hstarts⟩, fun heq => hsame heq.symm, hlong⟩
  · rintro ⟨rfl, ⟨hsmall, hcapitals, hinitial⟩, hne, hlong⟩
    simp only [restoreCase, if_neg hne.symm, if_neg hsmall, if_neg hcapitals, hinitial,
      startsLong_ne_nil hlong, hlong, Bool.not_false, Bool.and_self, if_true]

theorem restoreCase_isOk {word form : Text} (h : ¬(Capitalised word ∧ form ≠ word ∧ startsLong form = true)) :
    ∃ t, restoreCase word form = .ok t := by
  cases hrestored : restoreCase word form with
  | ok t => exact ⟨t, rfl⟩
  | error cause => exact absurd (restoreCase_error_iff.1 hrestored).2 h

theorem restoreCase_isOk_of_short {word form : Text} (h : startsLong form = false) :
    ∃ t, restoreCase word form = .ok t :=
  restoreCase_isOk fun hlong => by simp [h] at hlong

namespace English

/-- Groups are put back unless one of them starts with a character of several bytes. -/
theorem fillMarks_error_iff {word : Text} {number : Nat} {groups : List Text} {t : Text} {cause : Fault} :
    fillMarks word number groups t = .error cause ↔
      cause = .longInitial ∧ Capitalised word ∧ ∃ group ∈ groups, group ≠ word ∧ startsLong group = true := by
  induction groups generalizing number t with
  | nil => simp [fillMarks]
  | cons group groups ih =>
    rw [fillMarks, bind_eq_error, restoreCase_error_iff]
    constructor
    · rintro (⟨hcause, hword, hgroup⟩ | ⟨value, -, h⟩)
      · exact ⟨hcause, hword, group, List.mem_cons_self, hgroup⟩
      · obtain ⟨hcause, hword, other, hmem, hother⟩ := ih.1 h
        exact ⟨hcause, hword, other, List.mem_cons_of_mem group hmem, hother⟩
    · rintro ⟨hcause, hword, other, hmem, hother⟩
      -- The first group breaks off before the others are looked at.
      by_cases hgroup : Capitalised word ∧ group ≠ word ∧ startsLong group = true
      · exact .inl ⟨hcause, hgroup⟩
      · obtain ⟨value, hvalue⟩ := restoreCase_isOk hgroup
        refine .inr ⟨value, hvalue, ih.2 ⟨hcause, hword, other, ?_, hother⟩⟩
        exact (List.mem_cons.1 hmem).resolve_left fun heq => hgroup ⟨hword, heq ▸ hother⟩

theorem Rule.replace_error_iff {rule : Rule} {word : Text} {hit : Pattern.Hit} {cause : Fault}
    (hrule : startsLong rule.replacement = false) : rule.replace word hit = .error cause ↔
      cause = .longInitial ∧ Capitalised word ∧ ∃ group ∈ hit.groups, group ≠ word ∧ startsLong group = true := by
  obtain ⟨replacement, hreplacement⟩ := @restoreCase_isOk_of_short word _ hrule
  have hreplace : rule.replace word hit = (fillMarks word 0 hit.groups replacement >>= fun ending =>
      .ok (dropMarks (hit.before ++ ending ++ hit.after))) := by
    rw [Rule.replace, hreplacement]
    rfl
  rw [← @fillMarks_error_iff word 0 _ replacement, hreplace]
  constructor
  · intro h
    rcases bind_eq_error.1 h with hfill | ⟨ending, -, ⟨⟩⟩
    exact hfill
  · exact fun h => bind_eq_error.2 (.inl h)

/-- The match of the first of some rules that applies to a word. -/
def firstHit? (word : Text) (rules : List Rule) : Option Pattern.Hit :=
  rules.findSome? fun rule => rule.pattern.find? word

theorem firstHit?_in {word : Text} {rules : List Rule} {hit : Pattern.Hit} (h : firstHit? word rules = some hit) :
    hit.In word := by
  obtain ⟨rule, -, hfind⟩ := List.exists_of_findSome?_eq_some h
  exact Pattern.find?_in hfind

theorem applyFirst_error_iff {word : Text} {rules : List Rule} {cause : Fault}
    (hrules : ∀ rule ∈ rules, startsLong rule.replacement = false) : applyFirst word rules = .error cause ↔
      cause = .longInitial ∧ Capitalised word ∧
        ∃ hit, firstHit? word rules = some hit ∧ ∃ group ∈ hit.groups, group ≠ word ∧ startsLong group = true := by
  induction rules with
  | nil => simp [applyFirst, firstHit?]
  | cons rule rules ih =>
    obtain ⟨hrule, hrules⟩ := List.forall_mem_cons.1 hrules
    cases hfind : rule.pattern.find? word with
    | some hit => simp [applyFirst, firstHit?, hfind, Rule.replace_error_iff hrule]
    | none => simpa [applyFirst, firstHit?, hfind] using ih hrules

/-- A word that the rules are for: it is not empty, and no table tells its singular. -/
structure Regular (word : Text) : Prop where
  hnonempty : word.toLowercase.isEmpty = false
  hirregular : irregularSingular? word.toLowercase = none
  hcountable : word.toLowercase ∉ uncountable

/-- A word that the search for a singular breaks down on. -/
structure Breaks (word : Text) : Prop where
  hword : Capitalised word
  hregular : Regular word
  hinitial : ∃ hit, firstHit? word rules.reverse = some hit ∧
    ∃ group ∈ hit.groups, group ≠ word ∧ startsLong group = true

theorem rules_short : ∀ rule ∈ rules.reverse, startsLong rule.replacement = false := by decide

theorem irregular_short : ∀ entry ∈ irregular, startsLong entry.1 = false := by decide +kernel

theorem irregularSingular?_short {token form : Text} (h : irregularSingular? token = some form) :
    startsLong form = false := by
  unfold irregularSingular? at h
  split at h
  · rename_i hany
    obtain ⟨entry, hmem, hentry⟩ := List.any_eq_true.1 hany
    cases h
    rw [← beq_iff_eq.1 hentry]
    exact irregular_short entry hmem
  · obtain ⟨entry, hfind, rfl⟩ := Option.map_eq_some_iff.1 h
    exact irregular_short entry (List.mem_reverse.1 (List.mem_of_find?_eq_some hfind))

/-- A word has no singular exactly if the search breaks down on it. -/
theorem singular_error_iff {word : Text} {cause : Fault} :
    singular word = .error cause ↔ cause = .longInitial ∧ Breaks word := by
  simp only [singular]
  split
  · rename_i form hirregular
    obtain ⟨t, ht⟩ := @restoreCase_isOk_of_short word _ (irregularSingular?_short hirregular)
    rw [ht]
    refine ⟨nofun, fun h => ?_⟩
    rw [h.2.hregular.hirregular] at hirregular
    cases hirregular
  · rename_i hirregular
    split
    · rename_i hplain
      refine ⟨nofun, fun h => ?_⟩
      obtain ⟨hnonempty, -, hcountable⟩ := h.2.hregular
      simp [hnonempty, hcountable] at hplain
    · rename_i hregular
      rw [Bool.or_eq_true, not_or, Bool.not_eq_true, List.contains_iff_mem] at hregular
      rw [applyFirst_error_iff rules_short]
      constructor
      · exact fun ⟨hcause, hword, hinitial⟩ => ⟨hcause, hword, ⟨hregular.1, hirregular, hregular.2⟩, hinitial⟩
      · exact fun ⟨hcause, hword, _, hinitial⟩ => ⟨hcause, hword, hinitial⟩

/-- A word without characters of several bytes has a singular. -/
theorem Breaks.exists_long {word : Text} (h : Breaks word) : ∃ c ∈ word, 1 < c.utf8Size := by
  obtain ⟨hit, hhit, group, hmem, -, hlong⟩ := h.hinitial
  cases group with
  | nil => cases hlong
  | cons c group =>
    have hpiece := (firstHit?_in hhit).isInfix _ hmem
    exact ⟨c, hpiece.subset List.mem_cons_self, of_decide_eq_true hlong⟩

end English

end TableModel
