import TableModel.Json.Error

/-!
# Readers

A reader takes a value from the front of a text and returns it with the rest of the text. This module
holds what stands between the values: blanks, commas, colons and brackets.
-/

namespace TableModel

/-- A reader takes a value from the front of a text, and leaves the rest. -/
abbrev Read (α : Type) := Text → Except ReadError (α × Text)

/-- A failure for a text that is not JSON. -/
def malformed {α : Type} (cause : SyntaxError) : Except ReadError α :=
  .error (.malformed cause)

/-- A failure for a value that has not the shape asked for. -/
def mismatch {α : Type} (cause : ShapeError) : Except ReadError α :=
  .error (.mismatch cause)

namespace Read

def isBlank (c : Char) : Bool :=
  c == ' ' || c == '\t' || c == '\n' || c == '\r'

def skipBlanks (s : Text) : Text :=
  s.dropWhile isBlank

/-- Whether another element follows in a list; `first` says that none came before. The closing bracket
is left where it is. -/
def nextElement (first : Bool) : Read Bool := fun s =>
  match skipBlanks s with
  | [] => malformed .endInArray
  | ']' :: rest => .ok (false, ']' :: rest)
  | c :: rest =>
    if first then .ok (true, c :: rest)
    else if c = ',' then
      match skipBlanks rest with
      | [] => malformed .endInValue
      | ']' :: _ => malformed .trailingComma
      | rest => .ok (true, rest)
    else malformed .expectedCommaOrBracket

/-- Whether another member follows in an object; `first` says that none came before. The text is left
just after the quote that opens the key, or at the closing brace. -/
def nextMember (first : Bool) : Read Bool := fun s =>
  match skipBlanks s with
  | [] => malformed .endInObject
  | '\x7d' :: rest => .ok (false, '\x7d' :: rest)
  | c :: rest =>
    if first then
      if c = '"' then .ok (true, rest) else malformed .keyNotString
    else if c = ',' then
      match skipBlanks rest with
      | [] => malformed .endInValue
      | '\x7d' :: _ => malformed .trailingComma
      | '"' :: rest => .ok (true, rest)
      | _ => malformed .keyNotString
    else malformed .expectedCommaOrBrace

def colon : Read Unit := fun s =>
  match skipBlanks s with
  | [] => malformed .endInObject
  | ':' :: rest => .ok ((), rest)
  | _ => malformed .expectedColon

/-- Reads the closing bracket after the last element that is wanted. -/
def closeArray : Read Unit := fun s =>
  match skipBlanks s with
  | [] => malformed .endInArray
  | ']' :: rest => .ok ((), rest)
  | ',' :: rest =>
    match skipBlanks rest with
    | ']' :: _ => malformed .trailingComma
    | _ => malformed .trailingCharacters
  | _ => malformed .trailingCharacters

end Read

end TableModel
