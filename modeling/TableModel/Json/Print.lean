import TableModel.Json.Value

/-!
# Printing JSON

The text of a JSON value without any blanks. In a string only what has to be escaped is: the quote, the
backslash and the control characters, those without a letter of their own by their code point.
-/

namespace TableModel

namespace Json

def printChar (c : Char) : Text :=
  if c = '"' then "\\\""
  else if c = '\\' then "\\\\"
  else if c = '\x08' then "\\b"
  else if c = '\x0c' then "\\f"
  else if c = '\n' then "\\n"
  else if c = '\r' then "\\r"
  else if c = '\t' then "\\t"
  else if c < ' ' then
    ['\\', 'u', '0', '0', Nat.digitChar (c.toNat / 16), Nat.digitChar (c.toNat % 16)]
  else [c]

def printString (t : Text) : Text :=
  "\"" ++ t.flatMap printChar ++ "\""

mutual

def print : Json → Text
  | null => "null"
  | boolean true => "true"
  | boolean false => "false"
  | number n => n.text
  | string t => printString t
  | array values => "[" ++ printElements values ++ "]"
  | object members => "\x7b" ++ printMembers members ++ "\x7d"

/-- The texts of the elements of a list, with commas between them. -/
def printElements : List Json → Text
  | [] => []
  | [value] => value.print
  | value :: values => value.print ++ "," ++ printElements values

def printMembers : List (Text × Json) → Text
  | [] => []
  | [(key, value)] => printString key ++ ":" ++ value.print
  | (key, value) :: members => printString key ++ ":" ++ value.print ++ "," ++ printMembers members

end

end Json

end TableModel
