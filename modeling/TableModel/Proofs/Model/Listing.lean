import TableModel.Proofs.Json.Documents
import TableModel.Proofs.Json.Printing
import TableModel.Proofs.Model.Faults

/-!
# Listings are read back

A listing carries file contents, and so any text that a schema holds, inside the strings of a JSON document. A reader of
JSON gets from it the files that were put in, character for character, because a printed value is one of the forms of
the value and a text is a form of one value at most.
-/

namespace TableModel

open Read

namespace Json

variable {v w : Json}

/-- A printed value is a form of no other value. -/
theorem documentSpelling_print_iff (hv : v.Integral) : DocumentSpelling w v.print ↔ w = v := by
  constructor
  · intro hw
    exact documentSpelling_unique hw (documentSpelling_print hv)
  · intro heq
    rw [heq]
    exact documentSpelling_print hv

theorem document_print (hv : v.Integral) (hfits : Fits nestingLimit v) :
    (Decoder.ofTree Except.ok).document v.print = .ok v := by
  obtain ⟨rest, hread, hrest⟩ := read_document_iff.2 ⟨documentSpelling_print hv, hfits⟩
  exact Decoder.document_eq_ok.2 ⟨rest, bind_eq_ok.2 ⟨(v, rest), hread, rfl⟩, hrest⟩

theorem print_inj (hv : v.Integral) (hw : w.Integral) : v.print = w.print ↔ v = w := by
  constructor
  · intro heq
    apply (documentSpelling_print_iff hw).1
    rw [← heq]
    exact documentSpelling_print hv
  · intro heq
    rw [heq]

end Json

namespace ModelFile

variable {files others : List ModelFile}

theorem toJson_inj {file other : ModelFile} : file.toJson = other.toJson ↔ file = other := by
  cases file
  cases other
  simp [toJson]

def listing (files : List ModelFile) : Json :=
  .array (files.map toJson)

theorem integral_listing (files : List ModelFile) : (listing files).Integral := by
  simp [listing, toJson]

/-- A listing is two levels deep: a list of objects. -/
theorem fits_listing (files : List ModelFile) : Json.Fits nestingLimit (listing files) := by
  have htwo : Json.Fits 2 (listing files) := by
    simp [listing, toJson, Json.Fits]
  exact fits_mono htwo (by decide)

theorem listing_inj : listing files = listing others ↔ files = others := by
  rw [listing, listing, Json.array.injEq]
  exact (List.map_injective_iff.2 fun _ _ => toJson_inj.1).eq_iff

end ModelFile

variable {schema : Text} {files : List ModelFile}

theorem answerListing_of_files (h : ({} : Options).generate schema = .ok files) :
    answerListing schema = .ok (.ok (ModelFile.listing files).print) := by
  have hlisting : generateListing schema = .ok (ModelFile.listing files).print := bind_eq_ok.2 ⟨files, h, rfl⟩
  rw [answerListing, hlisting]

theorem answerListing_of_fault {cause : Fault} (h : ({} : Options).generate schema = .error (.fault cause)) :
    answerListing schema = .error cause := by
  rw [answerListing, generateListing_error_iff.2 h]

theorem answerListing_of_failure {failure : Failure} (h : ({} : Options).generate schema = .error failure)
    (hfault : ∀ cause, failure ≠ .fault cause) : answerListing schema = .ok (.error failure.message) := by
  rw [answerListing, generateListing_error_iff.2 h]
  cases failure with
  | fault cause => exact absurd rfl (hfault cause)
  | _ => rfl

theorem answerListing_isOk_iff : (∃ text, answerListing schema = .ok (.ok text)) ↔
    ∃ files, ({} : Options).generate schema = .ok files := by
  constructor
  · intro h
    obtain ⟨text, htext⟩ := h
    cases hgenerate : ({} : Options).generate schema with
    | ok files => exact ⟨files, rfl⟩
    | error failure =>
      rw [answerListing, generateListing_error_iff.2 hgenerate] at htext
      cases failure <;> cases htext
  · intro h
    obtain ⟨files, hgenerate⟩ := h
    exact ⟨_, answerListing_of_files hgenerate⟩

theorem answerListing_fault_iff {cause : Fault} :
    answerListing schema = .error cause ↔ ({} : Options).generate schema = .error (.fault cause) := by
  refine ⟨fun h => ?_, answerListing_of_fault⟩
  cases hgenerate : ({} : Options).generate schema with
  | ok files =>
    rw [answerListing_of_files hgenerate] at h
    cases h
  | error failure =>
    rw [answerListing, generateListing_error_iff.2 hgenerate] at h
    cases failure with
    | fault other =>
      cases h
      rfl
    | _ => cases h

/-- The answer for a caller agrees with the run. There is a listing exactly if there are files, and whoever reads it
finds one object for each file in their order, with the name and the content of the file and nothing else. Of a failure
there are its words, and the answer breaks down only where the run does. -/
theorem answerListing_agrees (schema : Text) :
    ((∃ text, answerListing schema = .ok (.ok text)) ↔ ∃ files, ({} : Options).generate schema = .ok files) ∧
    (∀ files, ({} : Options).generate schema = .ok files → ∃ text value, answerListing schema = .ok (.ok text) ∧
      value = .array (files.map fun file =>
        .object [("file_name", .string file.name), ("content", .string file.content)]) ∧
      (Decoder.ofTree Except.ok).document text = .ok value ∧
      ∀ other, Json.DocumentSpelling other text ↔ other = value) ∧
    (∀ failure, ({} : Options).generate schema = .error failure → (∀ cause, failure ≠ .fault cause) →
      answerListing schema = .ok (.error failure.message)) ∧
    ∀ cause, answerListing schema = .error cause ↔ ({} : Options).generate schema = .error (.fault cause) := by
  refine ⟨answerListing_isOk_iff, fun files hgenerate => ?_, fun failure => answerListing_of_failure,
    fun cause => answerListing_fault_iff⟩
  have hintegral := ModelFile.integral_listing files
  have hread := Json.document_print hintegral (ModelFile.fits_listing files)
  have hunique (other : Json) := Json.documentSpelling_print_iff (w := other) hintegral
  exact ⟨_, ModelFile.listing files, answerListing_of_files hgenerate, rfl, hread, hunique⟩

/-- A comment of a quote, a backslash, a line break in two characters, a tab, another control character and a letter
beyond ASCII. -/
def quotedComment : Text :=
  "\"\\\r\n\t\x01\u00e9"

def quotedSchema : Text :=
  Json.print (.array [.object [("type", .string "create_table"), ("name", .string "people"), ("columns", .array [
    .object [("type", .string "column"), ("name", .string "a"), ("comment", .string quotedComment),
      ("data_type", .object [("type", .string "TEXT")])]])]])

/-- The comment comes as it is into the file, and from there into the listing. -/
example : (({} : Options).generate quotedSchema).map
    (·.map fun file => (file.name, decide (quotedComment <:+: file.content))) = .ok [("person.js", true)] := by
  decide +kernel

/-- A caller that gets the same listing for two schemas has got the same files. -/
theorem generate_eq_of_answerListing_eq {other text : Text} (h : answerListing schema = .ok (.ok text))
    (hother : answerListing other = .ok (.ok text)) :
    ({} : Options).generate schema = ({} : Options).generate other := by
  obtain ⟨files, hfiles⟩ := answerListing_isOk_iff.1 ⟨text, h⟩
  obtain ⟨others, hothers⟩ := answerListing_isOk_iff.1 ⟨text, hother⟩
  rw [answerListing_of_files hfiles] at h
  rw [answerListing_of_files hothers, ← h, Except.ok.injEq, Except.ok.injEq,
    Json.print_inj (ModelFile.integral_listing others) (ModelFile.integral_listing files)] at hother
  rw [hfiles, hothers, ModelFile.listing_inj.1 hother]

end TableModel
