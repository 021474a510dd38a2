/-!
# Text

Text is a list of characters, so that a function on it is a recursion on a list and what the function
does is a statement about lists. A string literal stands for its characters wherever text is expected.
-/

namespace TableModel

/-- Text, character by character. -/
abbrev Text := List Char

/-- A string stands for its characters. -/
instance : Coe String Text := ⟨String.toList⟩

namespace Text

def utf8Size (t : Text) : Nat :=
  t.foldr (fun c size => c.utf8Size + size) 0

def ofNat (n : Nat) : Text :=
  Nat.toDigits 10 n

/-- An integer in decimal digits, with a sign in front if it is negative. -/
def ofInt : Int → Text
  | .ofNat n => ofNat n
  | .negSucc n => '-' :: ofNat (n + 1)

/-- The parts of a text between the occurrences of a character. -/
def splitAt (separator : Char) : Text → List Text
  | [] => [[]]
  | c :: rest =>
    if c = separator then [] :: splitAt separator rest
    else
      match splitAt separator rest with
      | [] => [[c]]
      | part :: parts => (c :: part) :: parts

end Text

end TableModel
