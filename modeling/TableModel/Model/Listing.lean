import TableModel.Json.Print
import TableModel.Model.Generate

/-!
# Listings

The model files of a schema as one JSON document, for a caller that wants them as a text: a list of
objects that hold the name and the content of a file.
-/

namespace TableModel

def ModelFile.toJson (file : ModelFile) : Json :=
  .object [("file_name", .string file.name), ("content", .string file.content)]

/-- The model files of a schema document with the usual options, as a JSON text. -/
def generateListing (schema : Text) : Except Failure Text := do
  let files ← ({} : Options).generate schema
  .ok (Json.print (.array (files.map ModelFile.toJson)))

/-- The answer for a caller that knows nothing but texts: the listing, or else the words of the failure. -/
def answerListing (schema : Text) : Except Fault (Except Text Text) :=
  match generateListing schema with
  | .ok text => .ok (.ok text)
  | .error (.fault cause) => .error cause
  | .error failure => .ok (.error failure.message)

end TableModel
