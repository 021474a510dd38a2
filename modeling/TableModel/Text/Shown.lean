import TableModel.Unicode.Printable

/-!
# Text shown in messages

An error message shows a text between double quotes. A character without a shape of its own is shown
by its code point, so that the message stays readable whatever the text holds.
-/

namespace TableModel

namespace Text

def showChar (c : Char) : Text :=
  if c = '\x00' then "\\0"
  else if c = '\t' then "\\t"
  else if c = '\r' then "\\r"
  else if c = '\n' then "\\n"
  else if c = '\\' ∨ c = '"' then ['\\', c]
  else if isPrintable c then [c]
  else "\\u\x7b" ++ Nat.toDigits 16 c.toNat ++ "\x7d"

/-- The text between double quotes as a message shows it. -/
def shown (t : Text) : Text :=
  "\"" ++ t.flatMap showChar ++ "\""

end Text

end TableModel
