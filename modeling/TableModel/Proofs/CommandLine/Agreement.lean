import TableModel.CommandLine.Outcome
import TableModel.Proofs.Files.Boundary

/-!
# Printing and writing agree

The command that prints model files and the one that writes them are two loops over the same chunks.
Each is brought to the same form: the files of the chunks before the first failure, and that failure.
What they print, write and tell is then read off this form, and so are their exit codes.
-/

namespace TableModel

open FileTree Options Outcome

variable {options : Options} {directory text : Text} {tree base written : FileTree}

theorem showChunks_eq (options : Options) (items : List Chunk) :
    showChunks options items =
      ((options.batches items).flatten.flatMap ModelFile.shown, options.firstFailure items) := by
  induction items with
  | nil => rfl
  | cons chunk items ih =>
    rw [showChunks]
    cases hchunk : options.generateChunk chunk with
    | error failure => rw [batches_cons_error hchunk, firstFailure_cons_error hchunk]; rfl
    | ok files =>
      rw [batches_cons_ok hchunk, firstFailure_cons_ok hchunk]
      dsimp only
      rw [ih, List.flatten_cons, List.flatMap_append]

theorem failureCode_of_not_fault {failure : Failure} (h : ∀ cause, failure ≠ .fault cause) :
    failureCode failure = 1 ∧ failureEvents failure = [.failed failure] := by
  cases failure with
  | fault cause => exact absurd rfl (h cause)
  | unreadable cause => exact ⟨rfl, rfl⟩
  | column table column cause => exact ⟨rfl, rfl⟩
  | file path cause => exact ⟨rfl, rfl⟩

/-! ### The two outcomes -/

theorem ofRender_success (h : options.firstFailure (chunks text) = none) :
    ofRender options text tree =
      { stdout := (options.batches (chunks text)).flatten.flatMap ModelFile.shown, tree } := by
  rw [ofRender, showChunks_eq, h]

theorem ofRender_failure {failure : Failure}
    (h : options.firstFailure (chunks text) = some failure) :
    ofRender options text tree =
      { code := failureCode failure
        stdout := (options.batches (chunks text)).flatten.flatMap ModelFile.shown
        events := failureEvents failure, tree } := by
  rw [ofRender, showChunks_eq, h]
  rfl

section

variable (hopened : Opened directory tree base (options.batches (chunks text)))
variable (hwritten : writeAll directory (options.batches (chunks text)).flatten base = .ok written)

include hopened hwritten

end

end TableModel
