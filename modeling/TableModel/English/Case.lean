import TableModel.Fault
import TableModel.Unicode.Uppercase
import TableModel.Unicode.Lowercase

/-!
# The case of a word

A word form that comes from a table or a rule is put in the case of the word it stands for: all small,
all capitals, or with a capital at the start.
-/

namespace TableModel

def startsUppercase (t : Text) : Bool :=
  match t with
  | [] => false
  | c :: _ => isUppercase c

/-- Whether a text starts with a character of several bytes. -/
def startsLong (t : Text) : Bool :=
  match t with
  | [] => false
  | c :: _ => decide (1 < c.utf8Size)

/-- The form in the case of the word. A form for a word that starts with a capital stays as it is, and
must not start with a character of several bytes. -/
def restoreCase (word form : Text) : Except Fault Text :=
  if word = form then .ok form
  else if word = word.toLowercase then .ok form.toLowercase
  else if word = word.toUppercase then .ok form.toUppercase
  else if startsUppercase word && !form.isEmpty then
    if startsLong form then .error .longInitial else .ok form
  else .ok form.toLowercase

end TableModel
