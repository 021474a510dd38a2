import TableModel.Json.Value

/-!
# Reading errors

Reading a document fails because the text is not JSON, or because a value is not of the shape that is
asked for. Both are given by their causes; the words are in `ReadError.message`.
-/

namespace TableModel

/-- What is wrong with a text that is not JSON. -/
inductive SyntaxError where
  /-- The text ends where an element, a comma or the closing bracket has to stand. -/
  | endInArray
  /-- The text ends where a member, a colon, a comma or the closing brace has to stand. -/
  | endInObject
  /-- The text ends inside a string. -/
  | endInString
  /-- The text ends where a value has to stand, or inside one. -/
  | endInValue
  | expectedColon
  | expectedCommaOrBracket
  | expectedCommaOrBrace
  /-- A word other than `true`, `false` and `null`. -/
  | expectedWord
  | expectedValue
  | invalidEscape
  | invalidNumber
  | numberOutOfRange
  | controlCharacter
  | keyNotString
  /-- A trailing surrogate without a leading one, or a leading one before another escape. -/
  | unpairedSurrogate
  /-- A leading surrogate with no escape after it. -/
  | unfinishedPair
  | trailingComma
  /-- Something other than blanks after the value. -/
  | trailingCharacters
  | nestedTooDeep
  deriving DecidableEq, Repr

/-- What is wrong with a JSON value that has not the shape asked for. -/
inductive ShapeError where
  | wrongType (found : Found) (expected : Text)
  | missingField (name : Text)
  | duplicateField (name : Text)
  /-- Neither a number nor a text. -/
  | notLiteral
  /-- A list with more elements than there are fields. -/
  | surplus (length fields : Nat)
  /-- A list that ends before a required field of a record. -/
  | tooShort (length : Nat) (title : Text) (fields : Nat)
  deriving DecidableEq, Repr

inductive ReadError where
  | malformed (cause : SyntaxError)
  | mismatch (cause : ShapeError)
  deriving DecidableEq, Repr

inductive ReadError.Category where
  | endOfInput
  | malformed
  | mismatch
  deriving DecidableEq, Repr

namespace SyntaxError

/-- Whether the text only stops too early. -/
def isEnd : SyntaxError → Bool
  | endInArray | endInObject | endInString | endInValue => true
  | _ => false

def message : SyntaxError → Text
  | endInArray => "EOF while parsing a list"
  | endInObject => "EOF while parsing an object"
  | endInString => "EOF while parsing a string"
  | endInValue => "EOF while parsing a value"
  | expectedColon => "expected `:`"
  | expectedCommaOrBracket => "expected `,` or `]`"
  | expectedCommaOrBrace => "expected `,` or `\x7d`"
  | expectedWord => "expected ident"
  | expectedValue => "expected value"
  | invalidEscape => "invalid escape"
  | invalidNumber => "invalid number"
  | numberOutOfRange => "number out of range"
  | controlCharacter => "control character (\\u0000-\\u001F) found while parsing a string"
  | keyNotString => "key must be a string"
  | unpairedSurrogate => "lone leading surrogate in hex escape"
  | unfinishedPair => "unexpected end of hex escape"
  | trailingComma => "trailing comma"
  | trailingCharacters => "trailing characters"
  | nestedTooDeep => "recursion limit exceeded"

end SyntaxError

namespace ShapeError

def elements (n : Nat) : Text :=
  Text.ofNat n ++ if n = 1 then " element" else " elements"

def message : ShapeError → Text
  | wrongType found expected => "invalid type: " ++ found.text ++ ", expected " ++ expected
  | missingField name => "missing field `" ++ name ++ "`"
  | duplicateField name => "duplicate field `" ++ name ++ "`"
  | notLiteral => "data did not match any variant of untagged enum Literal"
  | surplus length fields =>
    "invalid length " ++ Text.ofNat length ++ ", expected " ++ elements fields ++ " in sequence"
  | tooShort length title fields =>
    "invalid length " ++ Text.ofNat length ++ ", expected " ++ title ++ " with " ++ elements fields

end ShapeError

namespace ReadError

def category : ReadError → Category
  | malformed cause => if cause.isEnd then .endOfInput else .malformed
  | mismatch _ => .mismatch

def message : ReadError → Text
  | malformed cause => cause.message
  | mismatch cause => cause.message

end ReadError

end TableModel
