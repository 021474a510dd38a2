import TableModel.Number.Basic
import TableModel.Text.Shown

/-!
# JSON values

A JSON value as a tree. An object is the list of its members as they were written: their order counts
when a document has two faults, and a repeated key is the business of whoever takes the object apart.
-/

namespace TableModel

inductive Json where
  | null
  | boolean (value : Bool)
  | number (value : Number)
  | string (value : Text)
  | array (elements : List Json)
  | object (members : List (Text × Json))
  deriving Repr

/-- What a message says about a value that has the wrong type: a scalar is told with its text, a list
or an object by its kind alone. -/
inductive Found where
  | null
  | boolean (value : Bool)
  | number (value : Number)
  | string (value : Text)
  | sequence
  | map
  deriving DecidableEq, Repr

def Json.found : Json → Found
  | null => .null
  | boolean b => .boolean b
  | number n => .number n
  | string t => .string t
  | array _ => .sequence
  | object _ => .map

def Found.text : Found → Text
  | null => "null"
  | boolean true => "boolean `true`"
  | boolean false => "boolean `false`"
  | number (.integer n) => "integer `" ++ Text.ofInt n ++ "`"
  | number x => "floating point `" ++ x.text ++ "`"
  | string t => "string " ++ t.shown
  | sequence => "sequence"
  | map => "map"

end TableModel
