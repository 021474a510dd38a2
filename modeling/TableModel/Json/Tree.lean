import TableModel.Json.Container

/-!
# Trees

Reading a JSON value whole, without asking for a shape. Lists and objects may stand inside each other
127 deep, counting the outermost one, and the recursion is on the levels left.
-/

namespace TableModel

/-- The levels of lists and objects that a document may have. -/
def nestingLimit : Nat := 127

namespace Json

open Read

/-- Reads a value with so many levels left for lists and objects. -/
def read : Nat → Read Json
  | 0 => valueBy .ok (fun _ => malformed .nestedTooDeep) (fun _ => malformed .nestedTooDeep)
  | levels + 1 =>
    valueBy .ok
      (fun s => do
        let (reversed, s) ← elements (fun reversed s => do
          let (value, s) ← read levels s
          .ok (value :: reversed, s)) true [] s
        .ok (.array reversed.reverse, s))
      (fun s => do
        let (reversed, s) ← members (fun reversed key s => do
          let ((), s) ← colon s
          let (value, s) ← read levels s
          .ok ((key, value) :: reversed, s)) [] s
        .ok (.object reversed.reverse, s))

end Json

end TableModel
