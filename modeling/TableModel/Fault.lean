import TableModel.Text.Basic

/-!
# Faults

The two situations that the generator gives up on without an error of its own: a run that meets one
ends there and then.
-/

namespace TableModel

/-- Why a run breaks down. -/
inductive Fault where
  /-- An indentation unit of more spaces than a text can have. -/
  | indentTooWide
  /-- A part of a capitalised word, to be put back in the case of the word, starts with a character of
  several bytes. -/
  | longInitial
  deriving DecidableEq, Repr

def Fault.message : Fault → Text
  | indentTooWide => "the indentation is too wide"
  | longInitial => "the initial is longer than one byte"

end TableModel
