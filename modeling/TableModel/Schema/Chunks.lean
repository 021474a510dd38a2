import TableModel.Schema.Format

/-!
# Documents and chunks

A text holds one schema document, or a stream of them back to back. Each document of a stream is a
chunk. A chunk is only read when its turn comes, and after one that cannot be read there are no more.
-/

namespace TableModel

def readStatements (s : Text) : Except ReadError (List Statement) :=
  statementsDecoder.document s

/-- A chunk of a stream: its statements, or the reason why it cannot be read. -/
abbrev Chunk := Except ReadError (List Statement)

/-- The chunks at the front of a text, at most as many as `budget` has characters. -/
def chunksIn : Text → Text → List Chunk
  | [], _ => []
  | _ :: budget, s =>
    match Read.skipBlanks s with
    | [] => []
    | s =>
      match statementsDecoder.read nestingLimit s with
      | .ok (statements, rest) => .ok statements :: chunksIn budget rest
      | .error cause => [.error cause]

/-- The chunks of a text. Each takes at least one character, so that the text itself is a budget for
them. -/
def chunks (s : Text) : List Chunk :=
  chunksIn s s

end TableModel
