import TableModel.Json.Tree
import TableModel.Json.Skip

/-!
# Decoders

A decoder reads a value of some type by two routes: from a JSON tree, and straight from the text. The
second route finds an error of shape where it stands and does not read on, so that of several faults in
a document the first one is told; a record read this way also passes over the members it does not know
without building them. On a document without faults the two routes agree.

A record is written as an object of its fields in any order, or as the list of its fields in their own
order with the last ones left out. A tagged value is an object with a member that names the variant, or
a list that starts with this name, and holds the fields of the variant beside it. The rest of a tagged
value is always read as a tree first.
-/

namespace TableModel

/-- Two ways to read a value: from a tree, and from the text with so many levels left for lists and
objects. -/
structure Decoder (α : Type) where
  ofJson : Json → Except ShapeError α
  read : Nat → Read α

namespace Decoder

open Read

variable {α β : Type}

def wrongType (expected : Text) (value : Json) : Except ShapeError α :=
  .error (.wrongType value.found expected)

/-- Reads a value that is not a list or an object. -/
def ofScalar (expected : Text) (accept? : Json → Option α) : Decoder α :=
  let ofJson (value : Json) : Except ShapeError α :=
    match accept? value with
    | some a => .ok a
    | none => wrongType expected value
  { ofJson
    read := fun _ =>
      valueBy ofJson
        (fun _ => mismatch (.wrongType .sequence expected))
        (fun _ => mismatch (.wrongType .map expected)) }

def string : Decoder Text :=
  ofScalar "a string" fun
    | .string t => some t
    | _ => none

def boolean : Decoder Bool :=
  ofScalar "a boolean" fun
    | .boolean b => some b
    | _ => none

/-- Reads the whole value as a tree before it is judged. -/
def ofTree (ofJson : Json → Except ShapeError α) : Decoder α where
  ofJson := ofJson
  read levels s := do
    let (value, s) ← Json.read levels s
    match ofJson value with
    | .ok a => .ok (a, s)
    | .error cause => mismatch cause

/-- Reads `null` as the absence of a value. -/
def optional (d : Decoder α) : Decoder (Option α) where
  ofJson
    | .null => .ok none
    | value => some <$> d.ofJson value
  read levels s :=
    match skipBlanks s with
    | 'n' :: rest => word none "ull" rest
    | s => do
      let (a, s) ← d.read levels s
      .ok (some a, s)

def map (f : α → β) (d : Decoder α) : Decoder β where
  ofJson value := f <$> d.ofJson value
  read levels s := do
    let (a, s) ← d.read levels s
    .ok (f a, s)

def list (expected : Text) (d : Decoder α) : Decoder (List α) where
  ofJson
    | .array values => values.mapM d.ofJson
    | value => wrongType expected value
  read levels :=
    valueBy (wrongType expected)
      (nested levels fun levels s => do
        let (reversed, s) ← elements (fun reversed s => do
          let (a, s) ← d.read levels s
          .ok (a :: reversed, s)) true [] s
        .ok (reversed.reverse, s))
      (fun _ => mismatch (.wrongType .map expected))

/-- Reads a value and then only blanks up to the end of the text. -/
def document (d : Decoder α) (s : Text) : Except ReadError α := do
  let (a, rest) ← d.read nestingLimit s
  match skipBlanks rest with
  | [] => .ok a
  | _ => malformed .trailingCharacters

end Decoder

end TableModel
