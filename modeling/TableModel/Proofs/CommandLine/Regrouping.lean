import TableModel.Json.Print
import TableModel.Proofs.CommandLine.Agreement
import TableModel.Proofs.Model.Assembled
import TableModel.Proofs.Model.Failures
import TableModel.Proofs.Schema.Groupings

/-!
# Cutting a list of statements into documents

The same statements may come in one document or in many, one behind the other. Where all of them give their files, the
cuts cannot be seen in what is made of them. Where a column fails it is the same one however they are cut, and the cuts
only decide which files there are before: those of the documents that end before the one with this column.
-/

namespace TableModel

variable {inflect : Inflector} {options : Options}

/-! ### Statements one behind the other -/

theorem failingColumn_append (front back : List Statement) :
    failingColumn (front ++ back) = (failingColumn front).or (failingColumn back) :=
  List.findSome?_append

theorem failingColumn_flatten {groups : List (List Statement)} (h : ∀ group ∈ groups, failingColumn group = none) :
    failingColumn groups.flatten = none := by
  rw [failingColumn, List.findSome?_eq_none_iff]
  intro statement hstatement
  obtain ⟨group, hgroup, hmem⟩ := List.mem_flatten.1 hstatement
  exact List.findSome?_eq_none_iff.1 (h group hgroup) statement hmem

theorem assembleAll_append {front back : List Statement} {models more : List Model}
    (hfront : assembleAll inflect front = .ok models) (hback : assembleAll inflect back = .ok more) :
    assembleAll inflect (front ++ back) = .ok (models ++ more) := by
  induction front generalizing models with
  | nil =>
    cases hfront
    exact hback
  | cons statement front ih =>
    obtain ⟨model, hmodel, hfront⟩ := bind_eq_ok.1 hfront
    obtain ⟨others, hothers, hfront⟩ := bind_eq_ok.1 hfront
    cases hfront
    rw [List.append_assoc]
    exact bind_eq_ok.2 ⟨model, hmodel, bind_eq_ok.2 ⟨others ++ more, ih hothers, rfl⟩⟩

namespace Options

theorem generateStatements_append {front back : List Statement} {files more : List ModelFile}
    (hfront : options.generateStatements front = .ok files) (hback : options.generateStatements back = .ok more) :
    options.generateStatements (front ++ back) = .ok (files ++ more) := by
  obtain ⟨models, hmodels, hfiles⟩ := bind_eq_ok.1 hfront
  obtain ⟨others, hothers, hmore⟩ := bind_eq_ok.1 hback
  refine bind_eq_ok.2 ⟨models ++ others, assembleAll_append hmodels hothers, renderAll_eq_ok.2 ?_⟩
  rw [List.mapM_append, renderAll_eq_ok.1 hfiles, renderAll_eq_ok.1 hmore]
  rfl

theorem generateStatements_flatten {groups : List (List Statement)} {batches : List (List ModelFile)}
    (h : groups.map options.generateStatements = batches.map .ok) :
    options.generateStatements groups.flatten = .ok batches.flatten := by
  induction groups generalizing batches with
  | nil =>
    rw [List.map_nil, eq_comm, List.map_eq_nil_iff] at h
    rw [h]
    rfl
  | cons group groups ih =>
    obtain ⟨files, rest, rfl, hfiles, hrest⟩ := List.map_eq_cons_iff.1 h.symm
    exact generateStatements_append hfiles.symm (ih hrest.symm)

/-! ### Statements in chunks -/

variable {groups : List (List Statement)}

theorem ne_fault_of_firstFailure {items : List Chunk} {failure : Failure}
    (hfault : ∀ cause, options.firstFailure items ≠ some (.fault cause))
    (h : options.firstFailure items = some failure) :
    ∀ cause, failure ≠ .fault cause := by
  rintro cause rfl
  exact hfault cause h

theorem groups_complete (h : options.firstFailure (groups.map .ok) = none) :
    groups.map options.generateStatements = (options.batches (groups.map .ok)).map .ok := by
  have hchunks := generateChunk_of_firstFailure h
  rw [List.map_map] at hchunks
  exact hchunks

theorem failingColumn_of_complete (h : options.firstFailure (groups.map .ok) = none) :
    failingColumn groups.flatten = none := by
  apply failingColumn_flatten
  intro group hgroup
  have hmem := List.mem_map_of_mem (f := options.generateStatements) hgroup
  rw [groups_complete h] at hmem
  obtain ⟨files, -, hfiles⟩ := List.mem_map.1 hmem
  exact (options.generateStatements_ends group).failing_of_ok hfiles.symm

/-- A run over groups that fails with a column ends in the group that holds it. -/
theorem groups_failed {failure : Failure} (h : options.firstFailure (groups.map .ok) = some failure)
    (hfault : ∀ cause, failure ≠ .fault cause) :
    ∃ front group back, groups = front ++ group :: back ∧ failingColumn front.flatten = none ∧
      failingColumn group = some failure ∧
      front.map options.generateStatements = (options.batches (groups.map .ok)).map .ok := by
  obtain ⟨read, chunk, rest, hsplit, hread, hchunk⟩ := split_of_firstFailure h
  obtain ⟨front, others, rfl, rfl, hothers⟩ := List.map_eq_append_iff.1 hsplit
  obtain ⟨group, back, rfl, rfl, rfl⟩ := List.map_eq_cons_iff.1 hothers
  refine ⟨front, group, back, rfl, failingColumn_of_complete hread, ?_, ?_⟩
  · exact (options.generateStatements_ends group).failing_of_error hchunk hfault
  · rw [List.map_append, List.map_cons, (append_cons_error hread hchunk _).1]
    exact groups_complete hread

/-- A run over groups fails with the first column that does, wherever the groups end. -/
theorem firstFailure_groups (hfault : ∀ cause, options.firstFailure (groups.map .ok) ≠ some (.fault cause)) :
    options.firstFailure (groups.map .ok) = failingColumn groups.flatten := by
  cases h : options.firstFailure (groups.map .ok) with
  | none => exact (failingColumn_of_complete h).symm
  | some failure =>
    obtain ⟨front, group, back, rfl, hfront, hgroup, -⟩ := groups_failed h (ne_fault_of_firstFailure hfault h)
    rw [List.flatten_append, List.flatten_cons, failingColumn_append, failingColumn_append, hfront, hgroup]
    rfl

end Options

/-! ### Texts of statements in groups -/

open FileTree Options Outcome

variable {groups : List (List StatementText)}

theorem statementsOf_flatten (groups : List (List StatementText)) :
    statementsOf groups.flatten = (groups.map statementsOf).flatten :=
  List.map_flatten

theorem chunks_groupedText_eq_map (groups : List (List StatementText)) :
    chunks (groupedText groups) = (groups.map statementsOf).map .ok := by
  rw [chunks_groupedText, List.map_map]
  rfl

theorem groupedText_complete (h : failingColumn (statementsOf groups.flatten) = none)
    (hfault : ∀ cause, options.firstFailure (chunks (groupedText groups)) ≠ some (.fault cause)) :
    options.firstFailure (chunks (groupedText groups)) = none ∧
      options.generateStatements (statementsOf groups.flatten) =
        .ok (options.batches (chunks (groupedText groups))).flatten := by
  rw [statementsOf_flatten] at h ⊢
  rw [chunks_groupedText_eq_map] at hfault ⊢
  have hnone := (firstFailure_groups hfault).trans h
  exact ⟨hnone, generateStatements_flatten (groups_complete hnone)⟩

theorem groupedText_failed {failure : Failure} (h : failingColumn (statementsOf groups.flatten) = some failure)
    (hfault : ∀ cause, options.firstFailure (chunks (groupedText groups)) ≠ some (.fault cause)) :
    options.firstFailure (chunks (groupedText groups)) = some failure ∧
      ∃ front group back, groups = front ++ group :: back ∧
        failingColumn (statementsOf front.flatten) = none ∧ failingColumn (statementsOf group) = some failure ∧
        front.map (fun whole => options.generateStatements (statementsOf whole)) =
          (options.batches (chunks (groupedText groups))).map .ok := by
  rw [statementsOf_flatten] at h
  rw [chunks_groupedText_eq_map] at hfault ⊢
  have hsome := (firstFailure_groups hfault).trans h
  obtain ⟨front, group, back, hsplit, hfront, hgroup, hfiles⟩ :=
    groups_failed hsome (ne_fault_of_firstFailure hfault hsome)
  obtain ⟨texts, others, rfl, rfl, hothers⟩ := List.map_eq_append_iff.1 hsplit
  obtain ⟨text, rest, rfl, rfl, rfl⟩ := List.map_eq_cons_iff.1 hothers
  rw [List.map_map] at hfiles
  refine ⟨hsome, texts, text, rest, rfl, ?_, hgroup, hfiles⟩
  rw [statementsOf_flatten]
  exact hfront

/-- However texts of statements are cut into documents one behind the other: if no column of theirs fails, the files
are those of all the statements together, and printing shows the same. If one does, every run ends with the first of
them, and the files are those of the documents before the one that holds it. -/
theorem groupings_agree (options : Options) {left right : List (List StatementText)}
    (hsame : left.flatten = right.flatten)
    (hfault : ∀ groups ∈ [left, right], ∀ cause,
      options.firstFailure (chunks (groupedText groups)) ≠ some (.fault cause)) (tree : FileTree) :
    (∀ groups ∈ [left, right], chunks (groupedText groups) = groups.map fun group => .ok (statementsOf group)) ∧
      (failingColumn (statementsOf left.flatten) = none →
        ofRender options (groupedText left) tree = ofRender options (groupedText right) tree ∧
        ∃ files, options.generateStatements (statementsOf left.flatten) = .ok files ∧
          ∀ groups ∈ [left, right], options.firstFailure (chunks (groupedText groups)) = none ∧
            (options.batches (chunks (groupedText groups))).flatten = files ∧
            ofRender options (groupedText groups) tree = { stdout := files.flatMap ModelFile.shown, tree }) ∧
      ∀ failure, failingColumn (statementsOf left.flatten) = some failure →
        (∃ table column cause, failure = .column table column cause) ∧
        ∀ groups ∈ [left, right], options.firstFailure (chunks (groupedText groups)) = some failure ∧
          ∃ front group back, groups = front ++ group :: back ∧
            failingColumn (statementsOf front.flatten) = none ∧ failingColumn (statementsOf group) = some failure ∧
            front.map (fun whole => options.generateStatements (statementsOf whole)) =
              (options.batches (chunks (groupedText groups))).map .ok ∧
            ofRender options (groupedText groups) tree =
              { code := 1
                stdout := (options.batches (chunks (groupedText groups))).flatten.flatMap ModelFile.shown
                events := [.failed failure], tree } := by
  have hstatements : ∀ groups ∈ [left, right], statementsOf groups.flatten = statementsOf left.flatten := by
    simp [hsame]
  refine ⟨fun groups _ => chunks_groupedText groups, fun hnone => ?_, fun failure hfailure => ⟨?_, ?_⟩⟩
  · obtain ⟨-, hfiles⟩ := groupedText_complete hnone (hfault left List.mem_cons_self)
    have hrun : ∀ groups ∈ [left, right], options.firstFailure (chunks (groupedText groups)) = none ∧
        (options.batches (chunks (groupedText groups))).flatten =
          (options.batches (chunks (groupedText left))).flatten := by
      intro groups hgroups
      obtain ⟨hsuccess, hother⟩ :=
        groupedText_complete (by rw [hstatements groups hgroups]; exact hnone) (hfault groups hgroups)
      rw [hstatements groups hgroups, hfiles] at hother
      exact ⟨hsuccess, (Except.ok.inj hother).symm⟩
    have hrender : ∀ groups ∈ [left, right], ofRender options (groupedText groups) tree =
        { stdout := (options.batches (chunks (groupedText left))).flatten.flatMap ModelFile.shown, tree } := by
      intro groups hgroups
      obtain ⟨hsuccess, hbatches⟩ := hrun groups hgroups
      rw [ofRender_success hsuccess, hbatches]
    refine ⟨?_, _, hfiles, fun groups hgroups => ?_⟩
    · rw [hrender left List.mem_cons_self, hrender right (List.mem_cons_of_mem _ List.mem_cons_self)]
    · exact ⟨(hrun groups hgroups).1, (hrun groups hgroups).2, hrender groups hgroups⟩
  · exact exists_column_of_failingColumn hfailure
  · intro groups hgroups
    have hfailing : failingColumn (statementsOf groups.flatten) = some failure := by
      rw [hstatements groups hgroups]
      exact hfailure
    obtain ⟨hsome, front, group, back, hsplit, hfront, hgroup, hfiles⟩ :=
      groupedText_failed hfailing (hfault groups hgroups)
    obtain ⟨hcode, hevents⟩ := failureCode_of_not_fault (ne_fault_of_firstFailure (hfault groups hgroups) hsome)
    refine ⟨hsome, front, group, back, hsplit, hfront, hgroup, hfiles, ?_⟩
    rw [ofRender_failure hsome, hcode, hevents]

def typedTable (name type : Text) : Json :=
  .object [("type", .string "create_table"), ("name", .string name), ("columns", .array [
    .object [("type", .string "column"), ("name", .string "id"), ("data_type", .object [("type", .string type)])]])]

def quizText : StatementText where
  text := ' ' :: (typedTable "quiz" "INT").print
  statement := .createTable { name := "quiz", entries := [.column { name := "id", dataType := { name := "INT" } }] }
  hread := by decide +kernel

def genusText : StatementText where
  text := (typedTable "genus" "SET").print
  statement := .createTable { name := "genus", entries := [.column { name := "id", dataType := { name := "SET" } }] }
  hread := by decide +kernel

def droppedText : StatementText where
  text := "\n\x7b\"type\":\"drop\"\x7d"
  statement := .other
  hread := by decide +kernel

/-- The statements cut before the table that fails, and not cut at all. -/
def cutGroups : List (List StatementText) := [[quizText], [], [droppedText, genusText]]

def wholeGroups : List (List StatementText) := [[quizText, droppedText, genusText]]

def genusFailure : Failure := .column "genus" "id" (.unsupported "SET")

theorem groupings_agree_cutGroups :
    cutGroups.flatten = wholeGroups.flatten ∧
      (∀ groups ∈ [cutGroups, wholeGroups], ∀ cause,
        ({} : Options).firstFailure (chunks (groupedText groups)) ≠ some (.fault cause)) ∧
      failingColumn (statementsOf cutGroups.flatten) = some genusFailure ∧
      (({} : Options).batches (chunks (groupedText cutGroups))).length = 2 ∧
      (({} : Options).batches (chunks (groupedText wholeGroups))).length = 0 ∧
      ∀ groups ∈ [cutGroups, wholeGroups], (ofRender {} (groupedText groups) emptyTree).code = 1 ∧
        (ofRender {} (groupedText groups) emptyTree).events = [.failed genusFailure] := by
  have hsame : cutGroups.flatten = wholeGroups.flatten := rfl
  have hrun : (∀ groups ∈ [cutGroups, wholeGroups],
      ({} : Options).firstFailure ((groups.map statementsOf).map .ok) = some genusFailure) ∧
      (({} : Options).batches ((cutGroups.map statementsOf).map .ok)).length = 2 ∧
      (({} : Options).batches ((wholeGroups.map statementsOf).map .ok)).length = 0 := by
    decide +kernel
  simp only [← chunks_groupedText_eq_map] at hrun
  obtain ⟨hsome, hcut, hwhole⟩ := hrun
  have hfault : ∀ groups ∈ [cutGroups, wholeGroups], ∀ cause,
      ({} : Options).firstFailure (chunks (groupedText groups)) ≠ some (.fault cause) := by
    intro groups hgroups cause h
    rw [hsome groups hgroups] at h
    exact Failure.noConfusion (Option.some.inj h)
  have hfailing : failingColumn (statementsOf cutGroups.flatten) = some genusFailure := by decide +kernel
  refine ⟨hsame, hfault, hfailing, hcut, hwhole, fun groups hgroups => ?_⟩
  obtain ⟨-, -, -, -, -, -, -, -, houtcome⟩ :=
    ((groupings_agree {} hsame hfault emptyTree).2.2 genusFailure hfailing).2 groups hgroups
  rw [houtcome]
  exact ⟨rfl, rfl⟩

end TableModel
