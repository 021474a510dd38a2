import TableModel.English.Singular
import TableModel.Model.Assemble
import TableModel.Model.Render
import TableModel.Schema.Chunks

/-!
# Generating model files

The model files of a schema. All tables of a document are assembled before the first model is written,
so that a failure leaves nothing behind.
-/

namespace TableModel

/-- How model files are named and laid out. -/
structure Options where
  inflect : Inflector := English.singular
  /-- The spaces of one level of indentation. -/
  indentWidth : Nat := 4
  extension : Text := "js"

structure ModelFile where
  name : Text
  content : Text
  deriving DecidableEq, Repr

namespace Options

/-- The widest indentation unit that can be made, `2 ^ 63 - 1`. -/
def greatestIndentWidth : Nat := 9223372036854775807

def indentUnit (options : Options) : Except Fault Text :=
  if options.indentWidth ≤ greatestIndentWidth then .ok (Text.spaces options.indentWidth)
  else .error .indentTooWide

def fileName (options : Options) (baseName : Text) : Text :=
  baseName ++ "." ++ options.extension

def render (options : Options) (model : Model) : Except Fault ModelFile := do
  let unit ← options.indentUnit
  .ok { name := options.fileName model.baseName, content := model.render unit }

def assemble (options : Options) (statements : List Statement) : Except Failure (List Model) :=
  assembleAll options.inflect statements

def renderAll (options : Options) (models : List Model) : Except Failure (List ModelFile) :=
  match models.mapM options.render with
  | .ok files => .ok files
  | .error cause => .error (.fault cause)

/-- The model files of the statements of one document. -/
def generateStatements (options : Options) (statements : List Statement) :
    Except Failure (List ModelFile) := do
  let models ← options.assemble statements
  options.renderAll models

def generateChunk (options : Options) : Chunk → Except Failure (List ModelFile)
  | .ok statements => options.generateStatements statements
  | .error cause => .error (.unreadable cause)

/-- The model files of a schema document. -/
def generate (options : Options) (schema : Text) : Except Failure (List ModelFile) :=
  options.generateChunk (readStatements schema)

end Options

end TableModel
