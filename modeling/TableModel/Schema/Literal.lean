import TableModel.Json.Decoder
import TableModel.Text.Quoted

/-!
# Literals

A scalar value as a table definition gives it: a parameter of a type, the default of a column, or the
value of a table option. It is a number or a text.
-/

namespace TableModel

inductive Literal where
  | number (value : Number)
  | text (value : Text)
  deriving DecidableEq, Repr

namespace Literal

def toText : Literal → Text
  | number n => n.text
  | text t => t

/-- The literal with its first single quote escaped. -/
def escaped : Literal → Text
  | number n => n.text
  | text t => t.escapeQuote

/-- The literal as a value in a script: a text stands in quotes. -/
def toScript : Literal → Text
  | number n => n.text
  | text t => t.inQuotes

def ofNat (n : Nat) : Literal :=
  number (.integer n)

/-- A JSON number or a JSON string. -/
def ofJson : Json → Except ShapeError Literal
  | .number n => .ok (number n)
  | .string t => .ok (text t)
  | _ => .error .notLiteral

def decoder : Decoder Literal :=
  Decoder.ofTree ofJson

end Literal

end TableModel
