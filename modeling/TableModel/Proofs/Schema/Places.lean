import TableModel.Proofs.Schema.Trees
import TableModel.Proofs.Schema.Parts

/-!
# Where a value stands in a document

A value inside a document is found from outside: an element of a list by its position, a field of a record by its key
or, if the record is given as a list, by the position of the key, and the record of a tagged value beside a tag that
selects it. What is found at a place is what the decoder of that place reads into the statements, because fields do not
meddle with each other: each of them may be taken as the last to be put in. So the value of a default, of a parameter or
of an option in the text is the value that the table holds there.
-/

namespace TableModel

open Read

namespace Json

/-! ### Places -/

def element? (v : Json) (position : Nat) : Option Json :=
  match v with
  | .array values => values[position]?
  | _ => none

def field? (v : Json) (kind : RecordKind) (key : Text) : Option Json :=
  match v with
  | .object members => members.lookup key
  | .array values => values[(kind.fields.map FieldPart.key).idxOf key]?
  | _ => none

/-- What stands beside the tag of a value, if the tag selects the record. -/
def body? (v : Json) (kind : TaggedKind) (record : RecordKind) : Option Json :=
  match v with
  | .object members =>
    if (members.lookup tagField).bind kind.select = some record then some (.object (TaggedFormat.body members))
    else none
  | .array (tag :: values) => if kind.select tag = some record then some (.array values) else none
  | _ => none

/-- The table that a statement of a document creates. -/
def tableAt (v : Json) (i : Nat) : Option Json :=
  (v.element? i).bind (·.body? .statement .table)

def columnAt (v : Json) (i j : Nat) : Option Json :=
  (((v.tableAt i).bind (·.field? .table "columns")).bind (·.element? j)).bind (·.body? .entry .column)

def defaultAt (v : Json) (i j : Nat) : Option Json :=
  (v.columnAt i j).bind (·.field? .column "default_value")

def parameterAt (v : Json) (i j k : Nat) : Option Json :=
  (((v.columnAt i j).bind (·.field? .column "data_type")).bind (·.field? .columnType "params")).bind (·.element? k)

def optionAt (v : Json) (i k : Nat) : Option Json :=
  (((v.tableAt i).bind (·.field? .table "options")).bind (·.element? k)).bind (·.field? .option "value")

end Json

/-! ### Fields of a record -/

/-- A step that may change places with all that follow is the last step of some run to the same end. -/
theorem exists_last_step {ε σ ι : Type} {step : σ → ι → Except ε σ} {back : List ι} {r result : σ} (item : ι)
    (hcomm : ∀ other ∈ back, ∀ ⦃r result⦄, (step r item >>= fun r => step r other) = .ok result →
      (step r other >>= fun r => step r item) = .ok result)
    (h : (item :: back).foldlM step r = .ok result) : ∃ middle, step middle item = .ok result := by
  induction back generalizing r with
  | nil =>
    obtain ⟨next, hnext, hlast⟩ := bind_eq_ok.1 h
    cases hlast
    exact ⟨r, hnext⟩
  | cons other back ih =>
    obtain ⟨hother, hback⟩ := List.forall_mem_cons.1 hcomm
    rw [List.foldlM_cons] at h
    obtain ⟨next, hnext, hrest⟩ := bind_eq_ok.1 h
    rw [List.foldlM_cons] at hrest
    obtain ⟨later, hlater, hrest⟩ := bind_eq_ok.1 hrest
    obtain ⟨next', hnext', hlater'⟩ := bind_eq_ok.1 (hother (bind_eq_ok.2 ⟨next, hnext, hlater⟩))
    apply ih hback
    rw [List.foldlM_cons]
    exact bind_eq_ok.2 ⟨later, hlater', hrest⟩

namespace RecordFormat

variable {σ : Type} {format : RecordFormat σ} {result : σ} {field : Field σ} {v : Json}

theorem exists_field_of_ofMembers {members : List (Text × Json)} (hindependent : format.Independent)
    (hfield : field ∈ format.fields) (h : format.ofMembers members = .ok result)
    (hv : members.lookup field.name = some v) : ∃ r, field.ofJson r v = .ok result := by
  obtain ⟨front, back, rfl, -⟩ := List.lookup_eq_some_iff.1 hv
  have hname := field?_of_mem hindependent hfield
  obtain ⟨hnodup, -, hput⟩ := ofMembers_eq_ok.1 h
  rw [List.foldlM_append] at hput
  obtain ⟨middle, -, hback⟩ := bind_eq_ok.1 hput
  have hgiven : format.given (front ++ (field.name, v) :: back) =
      format.given front ++ field.name :: format.given back := by
    simp [given, hname]
  rw [hgiven, List.nodup_append] at hnodup
  have hbehind : field.name ∉ format.given back := (List.nodup_cons.1 hnodup.2.1).1
  have hlast : ∃ r, format.put r (field.name, v) = .ok result := by
    refine exists_last_step (field.name, v) (fun other hother r result => put_comm hindependent ?_) hback
    intro heq
    apply hbehind
    rw [given, List.mem_filter, hname]
    exact ⟨List.mem_map.2 ⟨other, hother, heq.symm⟩, rfl⟩
  obtain ⟨r, hr⟩ := hlast
  exact ⟨r, by rwa [put_of_some hname] at hr⟩

theorem exists_field_of_ofElements {values : List Json} (hindependent : format.Independent)
    (hfield : field ∈ format.fields) (h : format.ofElements values = .ok result)
    (hv : values[(format.fields.map Field.name).idxOf field.name]? = some v) :
    ∃ r, field.ofJson r v = .ok result := by
  obtain ⟨earlier, later, hfields⟩ := List.append_of_mem hfield
  have hnames := hindependent.hnames
  have hcommutes := hindependent.hcommutes
  rw [hfields, List.map_append, List.map_cons, List.nodup_append] at hnames
  have hposition : (format.fields.map Field.name).idxOf field.name = earlier.length := by
    have hfirst : field.name ∉ earlier.map Field.name := fun hmem => hnames.2.2 _ hmem _ List.mem_cons_self rfl
    rw [hfields, List.map_append, List.idxOf_append_of_notMem hfirst, List.map_cons, List.idxOf_cons_self,
      List.length_map, Nat.add_zero]
  rw [hposition] at hv
  have hvalues := eq_append_of_getElem? hv
  have hlength : earlier.length = (values.take earlier.length).length :=
    (List.length_take_of_le (Nat.le_of_lt (List.getElem?_eq_some_iff.1 hv).1)).symm
  obtain ⟨record, hfold, hchecked⟩ := bind_eq_ok.1 h
  have hresult : record = result := by
    split at hchecked
    · cases hchecked
    · split at hchecked
      · cases hchecked
      · exact Except.ok.inj hchecked
  rw [hfields, hvalues, List.zip_append hlength, List.zip_cons_cons, List.foldlM_append] at hfold
  obtain ⟨middle, -, hback⟩ := bind_eq_ok.1 hfold
  rw [hfields, List.pairwise_append, List.pairwise_cons] at hcommutes
  have hlast : ∃ r, field.ofJson r v = .ok record := by
    refine exists_last_step (field, v) (fun other hother r result hboth => ?_) hback
    exact (hcommutes.2.1.1 other.1 (List.of_mem_zip hother).1 r v other.2 result).1 hboth
  rwa [hresult] at hlast

end RecordFormat

namespace RecordKind

/-- The values of a field are read by a decoder, and the record holds them. -/
def Holds {α : Type} (kind : RecordKind) (key : Text) (d : Decoder α) (get : kind.type → α) : Prop :=
  ∃ set required, Field.of key d set required ∈ kind.format.fields ∧ ∀ r a, get (set r a) = a

theorem holds_columns : Holds .table "columns" (.list "a sequence" TableEntry.format.decoder) Table.entries :=
  ⟨_, _, List.mem_of_getElem? (i := 1) rfl, fun _ _ => rfl⟩

theorem holds_options : Holds .table "options" (.list "a sequence" TableOption.format.decoder) Table.options :=
  ⟨_, _, List.mem_of_getElem? (i := 2) rfl, fun _ _ => rfl⟩

theorem holds_dataType : Holds .column "data_type" ColumnType.format.decoder Column.dataType :=
  ⟨_, _, List.mem_of_getElem? (i := 1) rfl, fun _ _ => rfl⟩

theorem holds_defaultValue : Holds .column "default_value" (.optional Literal.decoder) Column.defaultValue :=
  ⟨_, _, List.mem_of_getElem? (i := 4) rfl, fun _ _ => rfl⟩

theorem holds_params : Holds .columnType "params" (.list "a sequence" Literal.decoder) ColumnType.params :=
  ⟨_, _, List.mem_of_getElem? (i := 1) rfl, fun _ _ => rfl⟩

theorem holds_value : Holds .option "value" (.optional Literal.decoder) TableOption.value :=
  ⟨_, _, List.mem_of_getElem? (i := 1) rfl, fun _ _ => rfl⟩

theorem Holds.ofJson {α : Type} {kind : RecordKind} {key : Text} {d : Decoder α} {get : kind.type → α} {v w : Json}
    {r : kind.type} (hholds : kind.Holds key d get) (h : kind.format.decoder.ofJson v = .ok r)
    (hw : v.field? kind key = some w) : d.ofJson w = .ok (get r) := by
  obtain ⟨set, required, hfield, hget⟩ := hholds
  have hput : ∃ start, (Field.of key d set required).ofJson start w = .ok r := by
    cases v with
    | object members => exact RecordFormat.exists_field_of_ofMembers kind.independent hfield h hw
    | array values =>
      rw [Json.field?, ← format_names] at hw
      exact RecordFormat.exists_field_of_ofElements kind.independent hfield h hw
    | _ => cases h
  obtain ⟨start, hstart⟩ := hput
  obtain ⟨a, ha, rfl⟩ := Field.of_eq_ok.1 hstart
  rw [ha, hget]

end RecordKind

/-! ### Elements and bodies -/

theorem Decoder.ofJson_element {α : Type} {d : Decoder α} {expected : Text} {v w : Json} {as : List α} {i : Nat}
    (h : (list expected d).ofJson v = .ok as) (hw : v.element? i = some w) :
    ∃ a, as[i]? = some a ∧ d.ofJson w = .ok a := by
  obtain ⟨values, rfl, has⟩ := list_eq_ok.1 h
  have hforall := mapM_eq_ok_iff.1 has
  obtain ⟨hlt, rfl⟩ := List.getElem?_eq_some_iff.1 hw
  have hlt' : i < as.length := hforall.length_eq ▸ hlt
  exact ⟨as[i], List.getElem?_eq_getElem hlt', hforall.get hlt hlt'⟩

namespace TaggedKind

variable {kind : TaggedKind} {record : RecordKind} {name : Text} {tag : Tag} {value : Json}

theorem exists_position_lookup {kinds : List (Text × RecordKind)} {variants : List (Text × Decoder kind.type)}
    (h : List.Forall₂ kind.Variant kinds variants) (hrecord : kinds.lookup name = some record) :
    ∃ m : Nat, (kinds[m]?).map Prod.snd = some record ∧ variants.lookup name = (variants[m]?).map Prod.snd := by
  induction h with
  | nil => cases hrecord
  | @cons k v kinds variants hfirst _ ih =>
    rw [List.lookup_cons] at hrecord ⊢
    rw [hfirst.1]
    cases hname : name == k.1 with
    | true =>
      rw [hname] at hrecord
      exact ⟨0, hrecord, rfl⟩
    | false =>
      rw [hname] at hrecord
      obtain ⟨m, hm⟩ := ih hrecord
      exact ⟨m + 1, hm⟩

theorem exists_position (htag : Tag.ofJson value = .ok tag) (hrecord : kind.select value = some record) :
    ∃ m : Nat, (kind.kinds[m]?).map Prod.snd = some record ∧
      kind.format.variant? tag = (kind.format.variants[m]?).map Prod.snd := by
  unfold Tag.ofJson at htag
  split at htag
  · cases htag
    exact exists_position_lookup kind.variants hrecord
  · rename_i n
    cases htag
    exact ⟨n, hrecord, rfl⟩
  · cases htag

/-- What stands beside a tag is read by the variant of the record that the tag selects. -/
theorem ofJson_body {v w : Json} {a : kind.type} (h : kind.format.ofJson v = .ok a)
    (hw : v.body? kind record = some w) : ∃ (m : Nat) (d : Decoder kind.type),
      (kind.kinds[m]?).map Prod.snd = some record ∧ (kind.format.variants[m]?).map Prod.snd = some d ∧
        d.ofJson w = .ok a := by
  have hbody : ∃ value tag, kind.select value = some record ∧ Tag.ofJson value = .ok tag ∧
      kind.format.ofBody tag w = .ok a := by
    cases v with
    | object members =>
      rw [Json.body?] at hw
      split_ifs at hw with hselect
      cases hw
      obtain ⟨m, tag, hm, htag, hbody⟩ := TaggedFormat.ofJson_object_eq_ok.1 h
      rw [TaggedFormat.lookup_of_tags hm] at hselect
      exact ⟨m.2, tag, hselect, htag, hbody⟩
    | array values =>
      cases values with
      | nil => cases h
      | cons first values =>
        obtain ⟨tag, htag, hbody⟩ := bind_eq_ok.1 h
        rw [Json.body?] at hw
        split_ifs at hw with hselect
        cases hw
        exact ⟨first, tag, hselect, htag, hbody⟩
    | _ => cases hw
  obtain ⟨value, tag, hselect, htag, hbody⟩ := hbody
  obtain ⟨m, hrecord, hvariant⟩ := exists_position htag hselect
  obtain ⟨f, hf, hread⟩ := exists_read htag hselect
  exact ⟨m, _, hrecord, hvariant ▸ hf, Decoder.map_eq_ok.2 ((hread w a).1 hbody)⟩

end TaggedKind

/-! ### Places in a document -/

namespace Json.Lists

variable {v w : Json} {statements : List Statement} {i j k : Nat} {n : Number}

theorem table_at (h : v.Lists statements) (hw : v.tableAt i = some w) :
    ∃ table, statements[i]? = some (.createTable table) ∧ Table.format.decoder.ofJson w = .ok table := by
  obtain ⟨u, hu, hbody⟩ := Option.bind_eq_some_iff.1 hw
  obtain ⟨statement, hstatement, hread⟩ := Decoder.ofJson_element h.hread hu
  obtain ⟨m, d, hrecord, hd, hvalue⟩ := @TaggedKind.ofJson_body .statement _ _ _ _ hread hbody
  -- The first kind of statement is the only one.
  cases m with
  | zero =>
    cases hd
    obtain ⟨table, htable, rfl⟩ := Decoder.map_eq_ok.1 hvalue
    exact ⟨table, hstatement, htable⟩
  | succ m => cases hrecord

theorem column_at (h : v.Lists statements) (hw : v.columnAt i j = some w) :
    ∃ table column, statements[i]? = some (.createTable table) ∧ table.entries[j]? = some (.column column) ∧
      Column.format.decoder.ofJson w = .ok column := by
  obtain ⟨e, he, hbody⟩ := Option.bind_eq_some_iff.1 hw
  obtain ⟨es, hes, helement⟩ := Option.bind_eq_some_iff.1 he
  obtain ⟨t, ht, hfield⟩ := Option.bind_eq_some_iff.1 hes
  obtain ⟨table, hstatement, htable⟩ := h.table_at ht
  have hentries := RecordKind.holds_columns.ofJson htable hfield
  obtain ⟨entry, hentry, hread⟩ := Decoder.ofJson_element hentries helement
  obtain ⟨m, d, hrecord, hd, hvalue⟩ := @TaggedKind.ofJson_body .entry _ _ _ _ hread hbody
  cases m with
  | zero =>
    cases hd
    obtain ⟨column, hcolumn, rfl⟩ := Decoder.map_eq_ok.1 hvalue
    exact ⟨table, column, hstatement, hentry, hcolumn⟩
  | succ m =>
    cases m with
    | zero => cases hrecord
    | succ m => cases hrecord

theorem default_at (h : v.Lists statements) (hw : v.defaultAt i j = some (.number n)) :
    ∃ table column, statements[i]? = some (.createTable table) ∧ table.entries[j]? = some (.column column) ∧
      column.defaultValue = some (.number n) := by
  obtain ⟨c, hc, hfield⟩ := Option.bind_eq_some_iff.1 hw
  obtain ⟨table, column, hstatement, hentry, hcolumn⟩ := h.column_at hc
  have hdefault := RecordKind.holds_defaultValue.ofJson hcolumn hfield
  refine ⟨table, column, hstatement, hentry, ?_⟩
  exact (Except.ok.inj hdefault).symm

theorem parameter_at (h : v.Lists statements) (hw : v.parameterAt i j k = some (.number n)) :
    ∃ table column, statements[i]? = some (.createTable table) ∧ table.entries[j]? = some (.column column) ∧
      column.dataType.params[k]? = some (.number n) := by
  obtain ⟨ps, hps, helement⟩ := Option.bind_eq_some_iff.1 hw
  obtain ⟨t, ht, hparams⟩ := Option.bind_eq_some_iff.1 hps
  obtain ⟨c, hc, htype⟩ := Option.bind_eq_some_iff.1 ht
  obtain ⟨table, column, hstatement, hentry, hcolumn⟩ := h.column_at hc
  have hdataType := RecordKind.holds_dataType.ofJson hcolumn htype
  have hlist := RecordKind.holds_params.ofJson hdataType hparams
  obtain ⟨parameter, hparameter, hread⟩ := Decoder.ofJson_element hlist helement
  cases hread
  exact ⟨table, column, hstatement, hentry, hparameter⟩

theorem option_at (h : v.Lists statements) (hw : v.optionAt i k = some (.number n)) :
    ∃ table option, statements[i]? = some (.createTable table) ∧ table.options[k]? = some option ∧
      option.value = some (.number n) := by
  obtain ⟨o, ho, hfield⟩ := Option.bind_eq_some_iff.1 hw
  obtain ⟨os, hos, helement⟩ := Option.bind_eq_some_iff.1 ho
  obtain ⟨t, ht, hoptions⟩ := Option.bind_eq_some_iff.1 hos
  obtain ⟨table, hstatement, htable⟩ := h.table_at ht
  have hlist := RecordKind.holds_options.ofJson htable hoptions
  obtain ⟨option, hoption, hread⟩ := Decoder.ofJson_element hlist helement
  have hvalue := RecordKind.holds_value.ofJson hread hfield
  exact ⟨table, option, hstatement, hoption, (Except.ok.inj hvalue).symm⟩

end Json.Lists

end TableModel
