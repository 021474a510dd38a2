import TableModel.Json.Reader
import TableModel.Number.Numeral

/-!
# Numbers

The numeral at the front of a text. The whole part is a zero alone or digits that do not start with a
zero; a point and an exponent mark each need a digit. Where the text ends instead of giving a digit, the
numeral is only unfinished, which a caller that skips over values does not tell from a wrong one.
-/

namespace TableModel

namespace Read

def digits (s : Text) : Text × Text :=
  (s.takeWhile Char.isDigit, s.dropWhile Char.isDigit)

/-- The digits at the front of a text, at least one. -/
def someDigits (unfinished : SyntaxError) : Read Text := fun s =>
  match s with
  | [] => malformed unfinished
  | c :: _ => if c.isDigit then .ok (digits s) else malformed .invalidNumber

def wholePart (unfinished : SyntaxError) : Read Text := fun s => do
  let (whole, rest) ← someDigits unfinished s
  if whole.head? = some '0' ∧ 1 < whole.length then malformed .invalidNumber
  else .ok (whole, rest)

def fractionPart (unfinished : SyntaxError) : Read (Option Text) := fun s =>
  match s with
  | '.' :: rest => do
    let (fraction, rest) ← someDigits unfinished rest
    .ok (some fraction, rest)
  | s => .ok (none, s)

/-- The sign of an exponent, and whether it is negative. -/
def exponentSign : Text → Bool × Text
  | '-' :: rest => (true, rest)
  | '+' :: rest => (false, rest)
  | s => (false, s)

def exponentPart (unfinished : SyntaxError) : Read (Option (Bool × Text)) := fun s =>
  match s with
  | [] => .ok (none, [])
  | c :: rest =>
    if c = 'e' ∨ c = 'E' then do
      let (below, rest) := exponentSign rest
      let (exponent, rest) ← someDigits unfinished rest
      .ok (some (below, exponent), rest)
    else .ok (none, c :: rest)

/-- The numeral at the front of a text. -/
def numeral (unfinished : SyntaxError) : Read Numeral := fun s => do
  let (negative, s) : Bool × Text :=
    match s with
    | '-' :: rest => (true, rest)
    | s => (false, s)
  let (whole, s) ← wholePart unfinished s
  let (fraction, s) ← fractionPart unfinished s
  let (exponent, s) ← exponentPart unfinished s
  .ok ({ negative, whole, fraction, exponent }, s)

def number : Read Number := fun s => do
  let (numeral, rest) ← numeral .endInValue s
  match numeral.value? with
  | some value => .ok (value, rest)
  | none => malformed .numberOutOfRange

/-- Checks the form of the number at the front of a text. -/
def skipNumber : Read Unit := fun s => do
  let (_, rest) ← numeral .invalidNumber s
  .ok ((), rest)

end Read

end TableModel
