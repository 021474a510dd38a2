import TableModel.Fault
import TableModel.Types.Mapping

/-!
# Failures

Everything that can go wrong between a schema document and the files made of it.
-/

namespace TableModel

/-- Why a file or a directory cannot be read or made. -/
inductive FileError where
  | notFound
  | alreadyExists
  | notADirectory
  | isADirectory
  | nameTooLong
  /-- A path that holds a NUL. -/
  | invalidPath
  /-- A file whose bytes are no text. -/
  | notText
  /-- Any other reason, in the words of the system. -/
  | refused (words : Text)
  deriving DecidableEq, Repr

def FileError.message : FileError → Text
  | notFound => "No such file or directory (os error 2)"
  | alreadyExists => "File exists (os error 17)"
  | notADirectory => "Not a directory (os error 20)"
  | isADirectory => "Is a directory (os error 21)"
  | nameTooLong => "File name too long (os error 36)"
  | invalidPath => "file name contained an unexpected NUL byte"
  | notText => "stream did not contain valid UTF-8"
  | refused words => words

/-- Why no model files come of a schema. -/
inductive Failure where
  /-- The document cannot be read. -/
  | unreadable (cause : ReadError)
  /-- The type of a column cannot be mapped. -/
  | column (table column : Text) (cause : TypeError)
  /-- A file cannot be read or written. -/
  | file (path : Text) (cause : FileError)
  | fault (cause : Fault)
  deriving DecidableEq, Repr

def Failure.message : Failure → Text
  | unreadable cause => "invalid schema input: " ++ cause.message
  | column table name cause =>
    "table `" ++ table ++ "`, column `" ++ name ++ "`: " ++ cause.message
  | file path cause => "unable to write `" ++ path ++ "`: " ++ cause.message
  | fault cause => cause.message

end TableModel
