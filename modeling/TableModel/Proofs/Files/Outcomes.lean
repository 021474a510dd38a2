import TableModel.Proofs.Files.Collisions

/-!
# What writing files comes to

Files are written into a directory in order, up to the first that cannot be written. Whether one can is a matter of the
tree that those before it have left, and nothing behind it is looked at. So there are three outcomes: the directory
cannot be made, all files are written, or there is a first file that cannot be written, and then the tree is the one
that the files before it have made.
-/

namespace TableModel

open FileTree

variable {directory : Text} {files : List ModelFile} {tree base written : FileTree}

/-- The directory cannot be made. No file has changed, and what is new are directories on the way. -/
structure Refused (tree : FileTree) (directory : Text) (cause : FileError) (run : Written) : Prop where
  hcause : (tree.createDirectories directory).1 = some cause
  hrun : run = { tree := run.tree, failure := some (.file directory cause) }
  hfiles : ∀ location content,
    run.tree.get? location = some (.file content) ↔ tree.get? location = some (.file content)
  hgrown : Grown (· ∈ tree.chain directory) tree run.tree

/-- All files are written, and the last of those that go to one place is found there. Elsewhere nothing has changed but
that there are directories on the way where nothing stood. -/
structure Completed (tree : FileTree) (directory : Text) (files : List ModelFile) (run : Written) : Prop where
  hmade : (tree.createDirectories directory).1 = none
  hwritten : writeAll directory files (tree.createDirectories directory).2 = .ok run.tree
  hrun : run = { tree := run.tree, paths := files.map fun file => Path.join directory file.name }
  hkept : Kept tree run.tree directory files
  hcurrent : run.tree.current = tree.current
  hothers : ∀ location ∉ placesOf tree directory files, run.tree.get? location = tree.get? location ∨
    location ∈ tree.chain directory ∧ tree.get? location = none ∧ run.tree.get? location = some .directory

/-- The files in front are written, and the next cannot be. So the run ends there, whatever the later files are. -/
structure Stopped (tree : FileTree) (directory : Text) (front : List ModelFile) (file : ModelFile) (cause : FileError)
    (run : Written) : Prop where
  hmade : (tree.createDirectories directory).1 = none
  hwritten : writeAll directory front (tree.createDirectories directory).2 = .ok run.tree
  hcause : run.tree.writeFile (Path.join directory file.name) file.content = .error cause
  hrun : run = {
    tree := run.tree
    unfinished := front.map fun file => Path.join directory file.name
    failure := some (.file (Path.join directory file.name) cause) }
  hlater : ∀ later, writeModels directory (front ++ file :: later) tree = run

theorem refused_of_createDirectories {cause : FileError}
    (h : tree.createDirectories directory = (some cause, base)) (files : List ModelFile) :
    Refused tree directory cause (writeModels directory files tree) := by
  rw [writeModels_of_refused h]
  have hgrown := createDirectories_grown h
  exact ⟨congrArg Prod.fst h, rfl, hgrown.file_iff, hgrown⟩

theorem completed_of_writeAll (hbase : tree.createDirectories directory = (none, base))
    (h : writeAll directory files base = .ok written) :
    Completed tree directory files (writeModels directory files tree) := by
  obtain ⟨hgrown, -⟩ := createDirectories_eq_none hbase
  have hcurrent : written.current = tree.current := (writeAll_keeps h).1.trans hgrown.hcurrent
  have hget (location : Location) : written.get? location =
      (lastWrittenTo tree directory location files).elim (base.get? location)
        fun file => some (.file file.content) := by
    rw [writeAll_get? h, lastWrittenTo_congr hgrown.hcurrent]
  have hkept : Kept tree written directory files := by
    apply kept_of_get? hcurrent (leads_of_writeAll h)
    · intro location file hlast
      rw [hget, hlast]
      rfl
    · intro location content hnone hcontent
      rw [hget, hnone] at hcontent
      exact (hgrown.file_iff location content).1 hcontent
  rw [writeModels_of_writeAll hbase h]
  refine ⟨congrArg Prod.fst hbase, ?_, rfl, hkept, hcurrent, ?_⟩
  · rw [hbase]
    exact h
  · intro location hlocation
    rw [hget, lastWrittenTo_eq_none hlocation]
    exact hgrown.hplaces location

/-- Writing files comes to one of three outcomes. -/
theorem writeModels_outcome (directory : Text) (files : List ModelFile) (tree : FileTree) :
    (∃ cause, Refused tree directory cause (writeModels directory files tree)) ∨
    Completed tree directory files (writeModels directory files tree) ∨
    ∃ front file back cause, files = front ++ file :: back ∧
      Stopped tree directory front file cause (writeModels directory files tree) := by
  rcases hbase : tree.createDirectories directory with ⟨_ | cause, base⟩
  · rcases writeAll_cases directory files base with ⟨written, hwritten⟩ |
      ⟨front, file, back, written, cause, rfl, hfront, hfile⟩
    · exact .inr (.inl (completed_of_writeAll hbase hwritten))
    · refine .inr (.inr ⟨front, file, back, cause, rfl, ?_⟩)
      have hrun := writeModels_of_error hbase hfront hfile
      rw [hrun back]
      refine ⟨congrArg Prod.fst hbase, ?_, hfile, rfl, hrun⟩
      rw [hbase]
      exact hfront
  · exact .inl ⟨cause, refused_of_createDirectories hbase files⟩

/-- The second file takes the place of the first, and for the third there is no directory. -/
example :
    let run := writeModels "d" [⟨"a.js", "1"⟩, ⟨"a.js", "2"⟩, ⟨"b/c.js", "3"⟩] emptyTree
    run.tree = ⟨[(["d".toList], .directory), (["d".toList, "a.js".toList], .file "2")], []⟩ ∧
      run.unfinished = ["d/a.js", "d/a.js"] ∧ run.failure = some (.file "d/b/c.js" .notFound) := by
  decide +kernel

end TableModel
