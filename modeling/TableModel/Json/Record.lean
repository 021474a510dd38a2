import TableModel.Json.Decoder

/-!
# Records

The decoder of a record, from the list of its fields. A field may be left out unless it is required; the
record then keeps the value it started with. No field may be given twice, and members that are not
fields are ignored.
-/

namespace TableModel

/-- A field of a record `σ`: how its value is read and put into the record. -/
structure Field (σ : Type) where
  name : Text
  required : Bool
  ofJson : σ → Json → Except ShapeError σ
  read : Nat → σ → Read σ

namespace Field

/-- The field with this decoder, whose value is put into the record by `set`. -/
def of {α σ : Type} (name : Text) (d : Decoder α) (set : σ → α → σ) (required : Bool := false) :
    Field σ where
  name := name
  required := required
  ofJson record value := set record <$> d.ofJson value
  read levels record s := do
    let (a, s) ← d.read levels s
    .ok (set record a, s)

/-- The position of the first required field, the first field of the list being at `position`. -/
def firstRequired {σ : Type} (position : Nat) : List (Field σ) → Option Nat
  | [] => none
  | field :: fields => if field.required then some position else firstRequired (position + 1) fields

end Field

/-- A record: the words for it in messages, its fields in order, and the record without any field. -/
structure RecordFormat (σ : Type) where
  title : Text
  fields : List (Field σ)
  start : σ

namespace RecordFormat

open Read

variable {σ : Type} (format : RecordFormat σ)

def field? (name : Text) : Option (Field σ) :=
  format.fields.find? (·.name == name)

/-- The record, unless a required field is not among those seen. -/
def finish (seen : List Text) (record : σ) : Except ShapeError σ :=
  match format.fields.find? (fun field => field.required && !seen.contains field.name) with
  | some field => .error (.missingField field.name)
  | none => .ok record

/-- Adds a member to a record of which the fields `seen` have been read. -/
def addMember (state : List Text × σ) (member : Text × Json) :
    Except ShapeError (List Text × σ) :=
  match format.field? member.1 with
  | none => .ok state
  | some field =>
    if state.1.contains field.name then .error (.duplicateField field.name)
    else do
      let record ← field.ofJson state.2 member.2
      .ok (field.name :: state.1, record)

def ofMembers (members : List (Text × Json)) : Except ShapeError σ := do
  let (seen, record) ← members.foldlM format.addMember ([], format.start)
  format.finish seen record

def ofElements (values : List Json) : Except ShapeError σ := do
  let record ← (format.fields.zip values).foldlM (fun r (field, value) => field.ofJson r value)
    format.start
  match Field.firstRequired values.length (format.fields.drop values.length) with
  | some position => .error (.tooShort position format.title format.fields.length)
  | none =>
    if format.fields.length < values.length then
      .error (.surplus values.length format.fields.length)
    else .ok record

/-- Reads a member from its colon on. -/
def readMember (levels : Nat) (state : List Text × σ) (name : Text) : Read (List Text × σ) := fun s =>
  match format.field? name with
  | none => do
    let ((), s) ← colon s
    let ((), s) ← skip s
    .ok (state, s)
  | some field =>
    if state.1.contains field.name then mismatch (.duplicateField field.name)
    else do
      let ((), s) ← colon s
      let (record, s) ← field.read levels state.2 s
      .ok ((field.name :: state.1, record), s)

def readMembers (levels : Nat) : Read σ := fun s => do
  let ((seen, record), s) ← members (format.readMember levels) ([], format.start) s
  match format.finish seen record with
  | .ok record => .ok (record, s)
  | .error cause => mismatch cause

/-- Reads the fields from a position on, and the closing bracket. -/
def readFields (levels : Nat) : Nat → List (Field σ) → σ → Read σ
  | _, [], record, s => do
    let ((), s) ← closeArray s
    .ok (record, s)
  | position, field :: fields, record, s => do
    let (more, s) ← nextElement (position == 0) s
    if more then
      let (record, s) ← field.read levels record s
      readFields levels (position + 1) fields record s
    else
      match Field.firstRequired position (field :: fields) with
      | some position => mismatch (.tooShort position format.title format.fields.length)
      | none => do
        let ((), s) ← closeArray s
        .ok (record, s)

def decoder : Decoder σ where
  ofJson
    | .object members => format.ofMembers members
    | .array values => format.ofElements values
    | value => Decoder.wrongType format.title value
  read levels :=
    valueBy (Decoder.wrongType format.title)
      (nested levels fun levels => format.readFields levels 0 format.fields format.start)
      (nested levels format.readMembers)

end RecordFormat

end TableModel
