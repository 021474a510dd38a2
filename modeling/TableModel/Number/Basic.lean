import TableModel.Number.Shortest

/-!
# Numbers

A number of a document is an integer of at most 64 bits or a binary64 number. The two are told apart
for good: an integer is written with its own digits, however large it is.
-/

namespace TableModel

/-- An integer, or a binary64 number with its sign. -/
inductive Number where
  | integer (value : Int)
  | real (negative : Bool) (magnitude : Binary64)
  deriving DecidableEq, Repr

namespace Number

def text : Number → Text
  | integer value => Text.ofInt value
  | real negative magnitude => if negative then '-' :: magnitude.text else magnitude.text

end Number

end TableModel
