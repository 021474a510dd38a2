import TableModel.Unicode.Uppercase
import TableModel.Unicode.Lowercase
import TableModel.Unicode.Word
import TableModel.Text.Lines
import TableModel.Text.Quoted
import TableModel.Text.Shown
import TableModel.Json.Tree
import TableModel.Json.Skip
import TableModel.Schema.Chunks
import TableModel.English.Singular
import TableModel.Model.Event
import TableModel.Model.Listing
import TableModel.CommandLine.Outcome
import TableModel.Main
import TableModel.Proofs.Json.Grammar
import TableModel.Proofs.Json.Locality
import TableModel.Proofs.Json.Scalars
import TableModel.Proofs.Json.Strings
import TableModel.Proofs.Json.Numerals
import TableModel.Proofs.Json.Values
import TableModel.Proofs.Schema.Streams
import TableModel.Proofs.Files.Directories
import TableModel.Proofs.Files.Writes
import TableModel.Proofs.Files.Runs
import TableModel.Proofs.Files.Boundary
import TableModel.Proofs.Model.Failures
import TableModel.Proofs.CommandLine.Agreement
import TableModel.Proofs.Text.Layout
import TableModel.Proofs.Model.Layout
import TableModel.Proofs.Model.Assembled
import TableModel.Proofs.Unicode.Uppercase
import TableModel.Proofs.Model.SinglePass
import TableModel.Proofs.Model.Recovery
import TableModel.Proofs.Model.Injectivity
import TableModel.Proofs.Number.Value
import TableModel.Proofs.Number.Rounding
import TableModel.Proofs.Json.Documents
import TableModel.Proofs.Json.Records
import TableModel.Proofs.Json.Printing
import TableModel.Proofs.Schema.Trees
import TableModel.Proofs.Schema.Parts
import TableModel.Proofs.Schema.Edits
import TableModel.Proofs.Schema.Forms
import TableModel.Proofs.English.Matches
import TableModel.Proofs.English.Breaks
import TableModel.Proofs.Model.Faults
import TableModel.Proofs.Files.Collisions
import TableModel.Proofs.Files.Confinement
import TableModel.Proofs.Model.Literals
import TableModel.Proofs.CommandLine.Regrouping
import TableModel.Proofs.Model.Imports
import TableModel.Proofs.Files.Repetition
import TableModel.Proofs.Model.Listing
import TableModel.Proofs.Model.Reference
import TableModel.Proofs.Model.Widths
import TableModel.Proofs.Files.Outcomes
import TableModel.Proofs.Text.ScriptStrings
import TableModel.Proofs.Types.MappingTable
import TableModel.Proofs.Model.TypeComment
import TableModel.Proofs.Types.Building
import TableModel.Proofs.Schema.DirectTables
import TableModel.Proofs.Schema.Places
import TableModel.Proofs.Model.Integers
import TableModel.Proofs.Schema.Numbers
import TableModel.Proofs.Files.Host
import TableModel.Proofs.CommandLine.Program
