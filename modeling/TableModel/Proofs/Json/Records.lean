import Mathlib.Data.List.Nodup
import Mathlib.Data.List.Pairwise
import Mathlib.Data.List.Perm.Basic
import TableModel.Json.Record
import TableModel.Json.Tagged
import TableModel.Proofs.Results

/-!
# Members in any order

What the members of an object come to as a record. The reader goes through them one by one and remembers the
fields that it has seen. Seen from outside only two things count: which fields are given, each at most once, and
what each of them puts into the record. If the fields do not meddle with each other, the order is of no account;
a member that is no field is not there at all, and a field that is given its default might as well be missing.

A tagged value sorts its members into the tag and the body, which it hands on in their order.
-/

namespace TableModel

theorem eq_append_of_getElem? {α : Type} {items : List α} {i : Nat} {a : α} (h : items[i]? = some a) :
    items = items.take i ++ a :: items.drop (i + 1) := by
  obtain ⟨hlt, hget⟩ := List.getElem?_eq_some_iff.1 h
  rw [← hget, ← List.drop_eq_getElem_cons hlt, List.take_append_drop]

/-- Two fields may be given in either order. -/
def Field.Commutes {σ : Type} (f g : Field σ) : Prop :=
  ∀ r a b result, (f.ofJson r a >>= fun r => g.ofJson r b) = .ok result ↔
    (g.ofJson r b >>= fun r => f.ofJson r a) = .ok result

instance {σ : Type} : Std.Symm (@Field.Commutes σ) where
  symm _ _ h r a b result := (h r b a result).symm

theorem Field.of_eq_ok {α σ : Type} {name : Text} {d : Decoder α} {set : σ → α → σ} {required : Bool} {r result : σ}
    {v : Json} : (Field.of name d set required).ofJson r v = .ok result ↔
      ∃ a, d.ofJson v = .ok a ∧ set r a = result := by
  simp only [Field.of]
  cases d.ofJson v with
  | ok a => simp [Functor.map, Except.map]
  | error cause => simp [Functor.map, Except.map]

theorem Field.of_commutes {α β σ : Type} {name other : Text} {d : Decoder α} {e : Decoder β} {set : σ → α → σ}
    {put : σ → β → σ} {required needed : Bool} (h : ∀ r a b, put (set r a) b = set (put r b) a) :
    (Field.of name d set required).Commutes (Field.of other e put needed) := by
  intro r v w result
  simp only [bind_eq_ok, Field.of_eq_ok]
  constructor
  · rintro ⟨-, ⟨a, ha, rfl⟩, b, hb, rfl⟩
    exact ⟨_, ⟨b, hb, rfl⟩, a, ha, (h r a b).symm⟩
  · rintro ⟨-, ⟨b, hb, rfl⟩, a, ha, rfl⟩
    exact ⟨_, ⟨a, ha, rfl⟩, b, hb, h r a b⟩

namespace RecordFormat

variable {σ : Type} {format : RecordFormat σ} {members other front back : List (Text × Json)} {r result : σ}
  {field : Field σ} {name : Text} {v w : Json}

/-- The fields have names of their own, and none meddles with another. -/
structure Independent (format : RecordFormat σ) : Prop where
  hnames : (format.fields.map Field.name).Nodup
  hcommutes : format.fields.Pairwise Field.Commutes

theorem mem_of_field? (h : format.field? name = some field) : field ∈ format.fields :=
  List.mem_of_find?_eq_some h

theorem name_of_field? (h : format.field? name = some field) : field.name = name := by
  simpa using List.find?_some h

theorem field?_of_mem (hindependent : format.Independent) (h : field ∈ format.fields) :
    format.field? field.name = some field := by
  cases hfind : format.field? field.name with
  | none => simpa using List.find?_eq_none.1 hfind field h
  | some other =>
    have hname := name_of_field? hfind
    rw [List.inj_on_of_nodup_map hindependent.hnames (mem_of_field? hfind) h hname]

theorem field?_eq_none : format.field? name = none ↔ name ∉ format.fields.map Field.name := by
  rw [field?, List.find?_eq_none]
  simp

/-! ### The fields that are given -/

def given (format : RecordFormat σ) (members : List (Text × Json)) : List Text :=
  (members.map Prod.fst).filter fun name => (format.field? name).isSome

/-- Puts a member into a record, if it is a field. -/
def put (format : RecordFormat σ) (r : σ) (member : Text × Json) : Except ShapeError σ :=
  match format.field? member.1 with
  | none => .ok r
  | some field => field.ofJson r member.2

theorem put_of_none (h : format.field? name = none) : format.put r (name, v) = .ok r := by
  simp only [put, h]

theorem put_of_some (h : format.field? name = some field) : format.put r (name, v) = field.ofJson r v := by
  simp only [put, h]

theorem given_cons_of_none (h : format.field? name = none) :
    format.given ((name, v) :: members) = format.given members := by
  simp [given, h]

theorem given_cons_of_some (h : format.field? name = some field) :
    format.given ((name, v) :: members) = name :: format.given members := by
  simp [given, h]

theorem given_perm (h : members.Perm other) : (format.given members).Perm (format.given other) :=
  (h.map Prod.fst).filter _

theorem addMember_of_none {seen : List Text} (h : format.field? name = none) :
    format.addMember (seen, r) (name, v) = .ok (seen, r) := by
  simp only [addMember, h]

theorem addMember_of_some {seen : List Text} {state : List Text × σ} (h : format.field? name = some field) :
    format.addMember (seen, r) (name, v) = .ok state ↔
      name ∉ seen ∧ ∃ next, field.ofJson r v = .ok next ∧ state = (name :: seen, next) := by
  simp only [addMember, h, name_of_field? h, List.contains_iff_mem]
  split_ifs with hseen
  · simp [hseen]
  · rw [bind_eq_ok]
    simp [hseen, eq_comm]

theorem foldlM_addMember {seen seen' : List Text} :
    members.foldlM format.addMember (seen, r) = .ok (seen', result) ↔
      (format.given members).Nodup ∧ (∀ name ∈ format.given members, name ∉ seen) ∧
        seen' = (format.given members).reverse ++ seen ∧ members.foldlM format.put r = .ok result := by
  induction members generalizing seen r with
  | nil => simp [given, pure, Except.pure, eq_comm]
  | cons member members ih =>
    obtain ⟨name, v⟩ := member
    rw [List.foldlM_cons, List.foldlM_cons]
    cases hfield : format.field? name with
    | none =>
      rw [addMember_of_none hfield, put_of_none hfield, given_cons_of_none hfield]
      exact ih
    | some field =>
      rw [put_of_some hfield, given_cons_of_some hfield, bind_eq_ok, bind_eq_ok]
      simp only [addMember_of_some hfield, List.nodup_cons, List.forall_mem_cons, List.reverse_cons,
        List.append_assoc, List.singleton_append]
      constructor
      · rintro ⟨state, ⟨hseen, next, hnext, rfl⟩, hrest⟩
        obtain ⟨hnodup, hfresh, rfl, hput⟩ := ih.1 hrest
        refine ⟨⟨fun hmem => hfresh name hmem List.mem_cons_self, hnodup⟩, ⟨hseen, fun n hn hmem => ?_⟩, rfl, next,
          hnext, hput⟩
        exact hfresh n hn (List.mem_cons_of_mem name hmem)
      · rintro ⟨⟨hname, hnodup⟩, ⟨hseen, hfresh⟩, rfl, next, hnext, hput⟩
        refine ⟨_, ⟨hseen, next, hnext, rfl⟩, ih.2 ⟨hnodup, fun n hn hmem => ?_, rfl, hput⟩⟩
        rcases List.mem_cons.1 hmem with rfl | hmem
        · exact hname hn
        · exact hfresh n hn hmem

theorem finish_eq_ok {seen : List Text} : format.finish seen r = .ok result ↔
    (∀ field ∈ format.fields, field.required = true → field.name ∈ seen) ∧ r = result := by
  rw [finish]
  split
  · rename_i field hfind
    have hmissing := List.find?_some hfind
    have hmem := List.mem_of_find?_eq_some hfind
    simp only [Bool.and_eq_true, Bool.not_eq_true', List.contains_eq_mem, decide_eq_false_iff_not] at hmissing
    constructor
    · rintro ⟨⟩
    · rintro ⟨hall, -⟩
      exact absurd (hall field hmem hmissing.1) hmissing.2
  · rename_i hfind
    have hall : ∀ field ∈ format.fields, field.required = true → field.name ∈ seen := by
      simpa using hfind
    simp only [Except.ok.injEq, iff_and_self]
    exact fun _ => hall

/-- The record of members: no field is given twice, none that is required is missing, and each that is given puts
its value into the record. -/
theorem ofMembers_eq_ok : format.ofMembers members = .ok result ↔
    (format.given members).Nodup ∧
      (∀ field ∈ format.fields, field.required = true → field.name ∈ format.given members) ∧
        members.foldlM format.put format.start = .ok result := by
  rw [ofMembers, bind_eq_ok]
  constructor
  · rintro ⟨⟨seen, record⟩, hfold, hfinish⟩
    obtain ⟨hnodup, -, rfl, hput⟩ := foldlM_addMember.1 hfold
    obtain ⟨hrequired, rfl⟩ := finish_eq_ok.1 hfinish
    refine ⟨hnodup, fun field hfield hreq => ?_, hput⟩
    simpa using hrequired field hfield hreq
  · rintro ⟨hnodup, hrequired, hput⟩
    refine ⟨_, foldlM_addMember.2 ⟨hnodup, by simp, rfl, hput⟩, finish_eq_ok.2 ⟨fun field hfield hreq => ?_, rfl⟩⟩
    simpa using hrequired field hfield hreq

theorem given_of_names (hindependent : format.Independent) (h : members.map Prod.fst = format.fields.map Field.name) :
    format.given members = format.fields.map Field.name := by
  rw [given, h, List.filter_eq_self, List.forall_mem_map]
  intro field hfield
  rw [field?_of_mem hindependent hfield]
  rfl

theorem ofMembers_of_names (hindependent : format.Independent)
    (h : members.map Prod.fst = format.fields.map Field.name)
    (hput : members.foldlM format.put format.start = .ok result) : format.ofMembers members = .ok result := by
  rw [ofMembers_eq_ok, given_of_names hindependent h]
  exact ⟨hindependent.hnames, fun field hfield _ => List.mem_map_of_mem hfield, hput⟩

/-! ### Other members with the same record -/

theorem put_comm (hindependent : format.Independent) {m n : Text × Json} (hne : m.1 ≠ n.1)
    (h : (format.put r m >>= fun r => format.put r n) = .ok result) :
    (format.put r n >>= fun r => format.put r m) = .ok result := by
  obtain ⟨name, v⟩ := m
  obtain ⟨other, w⟩ := n
  cases hname : format.field? name with
  | none =>
    simp only [put_of_none hname, bind, Except.bind] at h ⊢
    rw [h]
  | some f =>
    cases hother : format.field? other with
    | none =>
      simp only [put_of_none hother, bind_eq_ok] at h
      obtain ⟨_, hput, ⟨⟩⟩ := h
      rw [put_of_none hother]
      exact hput
    | some g =>
      simp only [put_of_some hname, put_of_some hother] at h ⊢
      have hfields : f ≠ g := by
        rintro rfl
        exact hne ((name_of_field? hname).symm.trans (name_of_field? hother))
      have hcommutes := hindependent.hcommutes.forall (mem_of_field? hname) (mem_of_field? hother) hfields
      exact (hcommutes r v w result).1 h

theorem foldlM_put_perm (hindependent : format.Independent) (h : members.Perm other)
    (hnodup : (format.given members).Nodup) (hput : members.foldlM format.put r = .ok result) :
    other.foldlM format.put r = .ok result := by
  induction h generalizing r with
  | nil => exact hput
  | @cons m members other hperm ih =>
    rw [List.foldlM_cons] at hput ⊢
    obtain ⟨next, hnext, hrest⟩ := bind_eq_ok.1 hput
    have hsublist : (format.given members).Sublist (format.given (m :: members)) :=
      ((List.sublist_cons_self m members).map Prod.fst).filter _
    exact bind_eq_ok.2 ⟨next, hnext, ih (hnodup.sublist hsublist) hrest⟩
  | swap m n members =>
    simp only [List.foldlM_cons, ← bind_assoc] at hput ⊢
    obtain ⟨next, hnext, hrest⟩ := bind_eq_ok.1 hput
    refine bind_eq_ok.2 ⟨next, ?_, hrest⟩
    by_cases hne : n.1 = m.1
    · obtain ⟨name, v⟩ := m
      obtain ⟨other, w⟩ := n
      obtain rfl : other = name := hne
      cases hname : format.field? other with
      | none =>
        simp only [put_of_none hname, bind, Except.bind] at hnext ⊢
        exact hnext
      | some f => simp [given_cons_of_some hname] at hnodup
    · exact put_comm hindependent hne hnext
  | trans hfirst _ ih ih' => exact ih' ((given_perm hfirst).nodup_iff.1 hnodup) (ih hnodup hput)

/-- Members may stand in any order. -/
theorem ofMembers_perm (hindependent : format.Independent) (h : members.Perm other)
    (hmembers : format.ofMembers members = .ok result) : format.ofMembers other = .ok result := by
  obtain ⟨hnodup, hrequired, hput⟩ := ofMembers_eq_ok.1 hmembers
  have hgiven : (format.given members).Perm (format.given other) := given_perm h
  refine ofMembers_eq_ok.2 ⟨hgiven.nodup_iff.1 hnodup, fun field hfield hreq => ?_, ?_⟩
  · exact hgiven.mem_iff.1 (hrequired field hfield hreq)
  · exact foldlM_put_perm hindependent h hnodup hput

theorem ofMembers_unknown (hname : format.field? name = none) :
    format.ofMembers (front ++ (name, v) :: back) = format.ofMembers (front ++ back) := by
  have hadd (state : List Text × σ) : format.addMember state (name, v) = .ok state := addMember_of_none hname
  have hfold : (front ++ (name, v) :: back).foldlM format.addMember ([], format.start) =
      (front ++ back).foldlM format.addMember ([], format.start) := by
    simp only [List.foldlM_append, List.foldlM_cons, hadd]
    rfl
  rw [ofMembers, ofMembers, hfold]

/-- A field with the value that it starts with may be left out. -/
theorem ofMembers_default (hindependent : format.Independent) (hname : format.field? name = some field)
    (hreq : field.required = false) (hdefault : field.ofJson format.start v = .ok format.start)
    (h : format.ofMembers (front ++ (name, v) :: back) = .ok result) :
    format.ofMembers (front ++ back) = .ok result := by
  have hfirst := ofMembers_perm hindependent List.perm_middle h
  obtain ⟨hnodup, hrequired, hput⟩ := ofMembers_eq_ok.1 hfirst
  rw [given_cons_of_some hname] at hnodup hrequired
  rw [List.foldlM_cons, put_of_some hname, hdefault] at hput
  refine ofMembers_eq_ok.2 ⟨hnodup.of_cons, fun g hg hreq' => ?_, hput⟩
  refine (List.mem_cons.1 (hrequired g hg hreq')).resolve_left fun hsame => ?_
  have hfield : g = field :=
    List.inj_on_of_nodup_map hindependent.hnames hg (mem_of_field? hname) (hsame.trans (name_of_field? hname).symm)
  rw [hfield, hreq] at hreq'
  cases hreq'

/-- A value may be exchanged for another that its field takes for the same. -/
theorem ofMembers_member (hname : format.field? name = some field)
    (hsame : ∀ r result, field.ofJson r v = .ok result → field.ofJson r w = .ok result)
    (h : format.ofMembers (front ++ (name, v) :: back) = .ok result) :
    format.ofMembers (front ++ (name, w) :: back) = .ok result := by
  obtain ⟨hnodup, hrequired, hput⟩ := ofMembers_eq_ok.1 h
  have hgiven : format.given (front ++ (name, w) :: back) = format.given (front ++ (name, v) :: back) := by
    simp [given]
  rw [ofMembers_eq_ok, hgiven]
  refine ⟨hnodup, hrequired, ?_⟩
  simp only [List.foldlM_append, List.foldlM_cons] at hput ⊢
  obtain ⟨middle, hfront, hrest⟩ := bind_eq_ok.1 hput
  obtain ⟨next, hnext, hback⟩ := bind_eq_ok.1 hrest
  rw [put_of_some hname] at hnext
  refine bind_eq_ok.2 ⟨middle, hfront, bind_eq_ok.2 ⟨next, ?_, hback⟩⟩
  rw [put_of_some hname, hsame middle next hnext]

theorem ofElements_element {before after : List Json} (hfield : format.fields[before.length]? = some field)
    (hsame : ∀ r result, field.ofJson r v = .ok result → field.ofJson r w = .ok result)
    (h : format.ofElements (before ++ v :: after) = .ok result) :
    format.ofElements (before ++ w :: after) = .ok result := by
  have hfields := eq_append_of_getElem? hfield
  have hzip (u : Json) : format.fields.zip (before ++ u :: after) =
      (format.fields.take before.length).zip before ++
        (field, u) :: (format.fields.drop (before.length + 1)).zip after := by
    have hlength : (format.fields.take before.length).length = before.length :=
      List.length_take_of_le (Nat.le_of_lt (List.getElem?_eq_some_iff.1 hfield).1)
    conv_lhs => rw [hfields]
    rw [List.zip_append hlength, List.zip_cons_cons]
  have hlength : (before ++ w :: after).length = (before ++ v :: after).length := by simp
  rw [ofElements, hzip] at h ⊢
  rw [hlength]
  simp only [List.foldlM_append, List.foldlM_cons] at h ⊢
  obtain ⟨last, hfold, hrest⟩ := bind_eq_ok.1 h
  obtain ⟨middle, hbefore, hbehind⟩ := bind_eq_ok.1 hfold
  obtain ⟨next, hnext, hafter⟩ := bind_eq_ok.1 hbehind
  exact bind_eq_ok.2 ⟨last, bind_eq_ok.2 ⟨middle, hbefore, bind_eq_ok.2 ⟨next, hsame _ _ hnext, hafter⟩⟩, hrest⟩

end RecordFormat

/-! ### Tagged values -/

namespace TaggedFormat

variable {α : Type} {format : TaggedFormat α} {ms other : List (Text × Json)} {a : α} {tag : Tag}

def tags (ms : List (Text × Json)) : List (Text × Json) :=
  ms.filter fun m => m.1 = tagField

def body (ms : List (Text × Json)) : List (Text × Json) :=
  ms.filter fun m => m.1 ≠ tagField

theorem lookup_of_tags {m : Text × Json} (h : tags ms = [m]) : ms.lookup tagField = some m.2 := by
  induction ms with
  | nil => cases h
  | cons n ms ih =>
    by_cases hn : n.1 = tagField
    · rw [tags, List.filter_cons_of_pos (by simpa using hn)] at h
      obtain ⟨rfl, -⟩ := List.cons.inj h
      rw [List.lookup_cons, hn, beq_self_eq_true]
    · rw [tags, List.filter_cons_of_neg (by simpa using hn)] at h
      rw [List.lookup_cons, beq_false_of_ne (Ne.symm hn)]
      exact ih h

theorem addMember_of_ne {members : Members} {m : Text × Json} (h : m.1 ≠ tagField) :
    addMember members m = .ok (members.1, m :: members.2) :=
  if_neg h

theorem addMember_of_tag {reversed : List (Text × Json)} {members : Members} {m : Text × Json} (h : m.1 = tagField) :
    addMember (none, reversed) m = .ok members ↔ ∃ tag, Tag.ofJson m.2 = .ok tag ∧ members = (some tag, reversed) := by
  rw [addMember, if_pos h, if_neg (by simp), bind_eq_ok]
  simp [eq_comm]

theorem foldlM_addMember_some {reversed : List (Text × Json)} {members : Members} :
    ms.foldlM addMember (some tag, reversed) = .ok members ↔
      tags ms = [] ∧ members = (some tag, (body ms).reverse ++ reversed) := by
  induction ms generalizing reversed with
  | nil => simp [tags, body, pure, Except.pure, eq_comm]
  | cons m ms ih =>
    rw [List.foldlM_cons, bind_eq_ok]
    by_cases hm : m.1 = tagField
    · simp [addMember, tags, hm]
    · simp [addMember_of_ne hm, ih, tags, body, hm]

/-- Among members without a tag there is one that is the tag, and the others belong to the body. -/
theorem foldlM_addMember_none {reversed : List (Text × Json)} {reversed' : List (Text × Json)} :
    ms.foldlM addMember (none, reversed) = .ok (some tag, reversed') ↔
      ∃ m, tags ms = [m] ∧ Tag.ofJson m.2 = .ok tag ∧ reversed' = (body ms).reverse ++ reversed := by
  induction ms generalizing reversed with
  | nil => simp [tags, pure, Except.pure]
  | cons m ms ih =>
    rw [List.foldlM_cons, bind_eq_ok]
    by_cases hm : m.1 = tagField
    · simp only [addMember_of_tag hm]
      constructor
      · rintro ⟨-, ⟨tag', htag, rfl⟩, hrest⟩
        obtain ⟨hnone, hlast⟩ := foldlM_addMember_some.1 hrest
        cases hlast
        refine ⟨m, ?_, htag, ?_⟩
        · rw [tags, List.filter_cons_of_pos (by simpa using hm), ← tags, hnone]
        · simp [body, hm]
      · rintro ⟨n, hn, htag, rfl⟩
        rw [tags, List.filter_cons_of_pos (by simpa using hm), ← tags] at hn
        obtain ⟨rfl, hnone⟩ := List.cons.inj hn
        exact ⟨_, ⟨tag, htag, rfl⟩, foldlM_addMember_some.2 ⟨hnone, by simp [body, hm]⟩⟩
    · simp [addMember_of_ne hm, ih, tags, body, hm]

/-- An object has one tag, and the rest of it is the body. -/
theorem ofJson_object_eq_ok : format.ofJson (.object ms) = .ok a ↔
    ∃ m tag, tags ms = [m] ∧ Tag.ofJson m.2 = .ok tag ∧ format.ofBody tag (.object (body ms)) = .ok a := by
  rw [ofJson, bind_eq_ok]
  constructor
  · rintro ⟨⟨tag?, reversed⟩, hfold, hrest⟩
    obtain ⟨⟨tag, rest⟩, hfinish, hbody⟩ := bind_eq_ok.1 hrest
    cases tag? with
    | none => cases hfinish
    | some tag =>
      cases hfinish
      obtain ⟨m, hm, htag, rfl⟩ := foldlM_addMember_none.1 hfold
      exact ⟨m, tag, hm, htag, by simpa using hbody⟩
  · rintro ⟨m, tag, hm, htag, hbody⟩
    refine ⟨_, foldlM_addMember_none.2 ⟨m, hm, htag, rfl⟩, bind_eq_ok.2 ⟨_, rfl, ?_⟩⟩
    simpa using hbody

/-- The tag may stand anywhere among the other members. -/
theorem ofJson_tag_eq_ok {front back : List (Text × Json)} {value : Json}
    (hnone : ∀ m ∈ front ++ back, m.1 ≠ tagField) :
    format.ofJson (.object (front ++ (tagField, value) :: back)) = .ok a ↔
      ∃ tag, Tag.ofJson value = .ok tag ∧ format.ofBody tag (.object (front ++ back)) = .ok a := by
  have hbody : body (front ++ (tagField, value) :: back) = front ++ back := by
    rw [body, List.filter_append, List.filter_cons_of_neg (by simp), ← List.filter_append, List.filter_eq_self]
    simpa using hnone
  have htags : tags (front ++ (tagField, value) :: back) = [(tagField, value)] := by
    obtain ⟨hfront, hback⟩ := List.forall_mem_append.1 hnone
    rw [tags, List.filter_append, List.filter_cons_of_pos (by simp), List.filter_eq_nil_iff.2 (by simpa using hfront),
      List.filter_eq_nil_iff.2 (by simpa using hback), List.nil_append]
  rw [ofJson_object_eq_ok, htags, hbody]
  simp

end TaggedFormat

end TableModel
