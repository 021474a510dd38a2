import TableModel.Json.Decoder

/-!
# Tagged values

The decoder of a type with several variants, of which a tag names one. A tag that names no variant
stands for a variant of its own, which takes any members and no further elements. In a tree a variant
may also be given by its position; the text has to give the name.
-/

namespace TableModel

def tagField : Text := "type"

/-- What selects a variant. -/
inductive Tag where
  | name (name : Text)
  | position (position : Nat)
  deriving DecidableEq, Repr

namespace Tag

def title : Text := "variant identifier"

def ofJson : Json → Except ShapeError Tag
  | .string t => .ok (.name t)
  | .number (.integer (.ofNat n)) => .ok (.position n)
  | value => Decoder.wrongType title value

def inText : Decoder Tag :=
  Decoder.ofScalar title fun
    | .string t => some (.name t)
    | _ => none

end Tag

/-- A type with variants: the words for it in messages, its variants by name, and the variant of every
other tag. -/
structure TaggedFormat (α : Type) where
  title : Text
  variants : List (Text × Decoder α)
  other : α

namespace TaggedFormat

open Read

variable {α : Type} (format : TaggedFormat α)

def variant? : Tag → Option (Decoder α)
  | .name t => format.variants.lookup t
  | .position n => (format.variants[n]?).map (·.2)

def ofBody (tag : Tag) (body : Json) : Except ShapeError α :=
  match format.variant? tag with
  | some d => d.ofJson body
  | none =>
    match body with
    | .array (value :: values) => .error (.surplus (value :: values).length 0)
    | _ => .ok format.other

/-- The members of an object so far: the tag, if it has been read, and the others in reverse. -/
abbrev Members := Option Tag × List (Text × Json)

/-- The tag of an object, and its other members as an object of their own. -/
def finish (members : Members) : Except ShapeError (Tag × Json) :=
  match members with
  | (none, _) => .error (.missingField tagField)
  | (some tag, reversed) => .ok (tag, .object reversed.reverse)

def addMember (members : Members) (member : Text × Json) : Except ShapeError Members :=
  if member.1 = tagField then
    if members.1.isSome then .error (.duplicateField tagField)
    else do
      let tag ← Tag.ofJson member.2
      .ok (some tag, members.2)
  else .ok (members.1, member :: members.2)

def ofJson (value : Json) : Except ShapeError α :=
  match value with
  | .object members => do
    let members ← members.foldlM addMember (none, [])
    let (tag, body) ← finish members
    format.ofBody tag body
  | .array [] => .error (.missingField tagField)
  | .array (first :: values) => do
    let tag ← Tag.ofJson first
    format.ofBody tag (.array values)
  | value => Decoder.wrongType format.title value

def readMember (levels : Nat) (members : Members) (name : Text) : Read Members := fun s =>
  if name = tagField then
    if members.1.isSome then mismatch (.duplicateField tagField)
    else do
      let ((), s) ← colon s
      let (tag, s) ← Tag.inText.read levels s
      .ok ((some tag, members.2), s)
  else do
    let ((), s) ← colon s
    let (value, s) ← Json.read levels s
    .ok ((members.1, (name, value) :: members.2), s)

/-- The value of a body that has been read, in front of the rest of the text. -/
def judge (tag : Tag) (body : Json) : Read α := fun s =>
  match format.ofBody tag body with
  | .ok a => .ok (a, s)
  | .error cause => mismatch cause

/-- Reads an object from behind its opening brace. -/
def readMembers (levels : Nat) : Read α := fun s => do
  let (read, s) ← members (readMember levels) (none, []) s
  match finish read with
  | .ok (tag, body) => format.judge tag body s
  | .error cause => mismatch cause

/-- Reads a list from behind its opening bracket. -/
def readElements (levels : Nat) : Read α := fun s => do
  let (more, s) ← nextElement true s
  if more then
    let (tag, s) ← Tag.inText.read levels s
    let (reversed, s) ← elements (fun reversed s => do
      let (value, s) ← Json.read levels s
      .ok (value :: reversed, s)) false [] s
    format.judge tag (.array reversed.reverse) s
  else mismatch (.missingField tagField)

def decoder : Decoder α where
  ofJson := format.ofJson
  read levels :=
    valueBy (Decoder.wrongType format.title)
      (nested levels format.readElements) (nested levels format.readMembers)

end TaggedFormat

end TableModel
