import Mathlib.Data.Finset.Card
import TableModel.CommandLine.Outcome
import TableModel.Json.Print
import TableModel.Proofs.Files.Boundary
import TableModel.Proofs.Model.Assembled

/-!
# Files that go to one place

A file is known by the singular of the name of its table, so several tables of a run may have one file. Each of them
is written, in the stead of the one before, and counts. So a file that was written is found at its path, but it is
the last one written to its place that is read there. Nothing is lost exactly if no two files of the run go to one
place; for file names without a slash this means that all of them are different.
-/

namespace TableModel

namespace FileTree

open TableModel.Path

variable {tree written : FileTree} {path content : Text}

/-! ### Written files are found -/

theorem Leads.mono (hcurrent : written.current = tree.current)
    (hdirectories : ∀ location, tree.get? location = some .directory → written.get? location = some .directory)
    (h : tree.Leads path) : written.Leads path := by
  obtain ⟨hnonempty, hpath, hslash, front, name, hnames, hhere, habove, hsize, hpassable, hdirectory⟩ := h
  have horigin : written.origin path = tree.origin path := by rw [origin, origin, hcurrent]
  refine ⟨hnonempty, hpath, hslash, front, name, hnames, hhere, habove, hsize, ?_, ?_⟩
  · rw [horigin]
    exact hpassable.mono hdirectories
  · rw [horigin]
    exact hdirectories _ hdirectory

theorem Leads.readFile (h : tree.Leads path) (hget : tree.get? (tree.place path) = some (.file content)) :
    tree.readFile path = .ok content := by
  obtain ⟨hnonempty, hpath, hslash, front, name, hnames, -, -, hsize, hpassable, hdirectory⟩ := h
  have hfollow : tree.follow (tree.origin path) (names path) = .ok (tree.place path) := by
    refine follow_eq_ok.2 ⟨?_, rfl⟩
    rw [hnames]
    exact passable_append.2 ⟨hpassable, hdirectory, hsize, trivial⟩
  rw [FileTree.readFile, hnonempty, if_neg Bool.false_ne_true]
  refine bind_eq_ok.2 ⟨(), hpath, bind_eq_ok.2 ⟨_, hfollow, ?_⟩⟩
  rw [hget]
  dsimp only
  rw [hslash, if_neg Bool.false_ne_true]

theorem Leads.name_ne_nil {directory name : Text} (h : tree.Leads (join directory name)) : name ≠ [] := by
  rintro rfl
  have hnonempty := h.hnonempty
  have hslash := h.hslash
  unfold join at hnonempty hslash
  split_ifs at hnonempty hslash with habsolute hplain
  · cases habsolute
  · rw [List.append_nil] at hnonempty hslash
    simp [hnonempty, hslash] at hplain
  · simp [endsWithSlash] at hslash

/-- A file whose name has no slash goes right into the directory. -/
theorem Leads.place_join {directory name : Text} (h : tree.Leads (join directory name)) (hname : '/' ∉ name) :
    tree.place (join directory name) = tree.place directory ++ [name] := by
  obtain ⟨hjoin, habsolute⟩ := join_of_not_mem hname h.name_ne_nil directory
  obtain ⟨front, last, hnames, hhere, habove, -⟩ := h.hnames
  obtain ⟨-, hlast⟩ := List.append_inj' (hjoin.symm.trans hnames) rfl
  cases hlast
  rw [place, origin, hjoin, habsolute, resolve_concat, step_of_ne hhere habove]
  rfl

end FileTree

open FileTree Options

variable {options : Options} {directory input : Text} {tree written : FileTree} {files : List ModelFile}

/-! ### The files of a run -/

theorem leads_of_writeAll (h : writeAll directory files tree = .ok written) :
    ∀ file ∈ files, written.Leads (Path.join directory file.name) := by
  induction files generalizing tree with
  | nil => simp
  | cons file files ih =>
    obtain ⟨middle, hfile, hfiles⟩ := writeAll_cons_eq_ok.1 h
    obtain ⟨hcurrent, hdirectories⟩ := writeAll_keeps h
    exact List.forall_mem_cons.2 ⟨(writeFile_eq_ok hfile).1.mono hcurrent hdirectories, ih hfiles⟩

/-- No later file goes to the place of this one. -/
def IsLastAt (tree : FileTree) (directory : Text) (file : ModelFile) (later : List ModelFile) : Prop :=
  ∀ other ∈ later, tree.place (Path.join directory other.name) ≠ tree.place (Path.join directory file.name)

theorem lastWrittenTo_eq_some_iff {location : Location} {file : ModelFile} :
    lastWrittenTo tree directory location files = some file ↔
      ∃ front back, files = front ++ file :: back ∧ IsLastAt tree directory file back ∧
        tree.place (Path.join directory file.name) = location := by
  rw [lastWrittenTo, List.find?_eq_some_iff_append]
  simp only [decide_eq_true_eq, Bool.not_eq_true', decide_eq_false_iff_not]
  constructor
  · rintro ⟨rfl, later, earlier, hreverse, hlater⟩
    refine ⟨earlier.reverse, later.reverse, ?_, fun other hother => hlater other (List.mem_reverse.1 hother), rfl⟩
    rw [← files.reverse_reverse, hreverse]
    simp
  · rintro ⟨front, back, rfl, hlast, rfl⟩
    exact ⟨rfl, back.reverse, front.reverse, by simp, fun other hother => hlast other (List.mem_reverse.1 hother)⟩

theorem exists_lastWrittenTo {file : ModelFile} (h : file ∈ files) :
    ∃ last, lastWrittenTo tree directory (tree.place (Path.join directory file.name)) files = some last := by
  refine Option.isSome_iff_exists.1 (List.find?_isSome.2 ⟨file, List.mem_reverse.2 h, ?_⟩)
  exact decide_eq_true rfl

def placesOf (tree : FileTree) (directory : Text) (files : List ModelFile) : Finset Location :=
  (files.map fun file => tree.place (Path.join directory file.name)).toFinset

theorem card_placesOf_le (tree : FileTree) (directory : Text) (files : List ModelFile) :
    (placesOf tree directory files).card ≤ files.length := by
  refine (List.toFinset_card_le _).trans ?_
  rw [List.length_map]

theorem card_placesOf_eq_iff : (placesOf tree directory files).card = files.length ↔
    files.Pairwise fun file later =>
      tree.place (Path.join directory file.name) ≠ tree.place (Path.join directory later.name) := by
  rw [← List.pairwise_map (f := fun file : ModelFile => tree.place (Path.join directory file.name)) (R := (· ≠ ·))]
  have hlength : (files.map fun file => tree.place (Path.join directory file.name)).length = files.length :=
    List.length_map _
  rw [placesOf, ← hlength]
  exact Multiset.toFinset_card_eq_card_iff_nodup

theorem mem_placesOf {location : Location} : location ∈ placesOf tree directory files ↔
    ∃ file ∈ files, tree.place (Path.join directory file.name) = location := by
  rw [placesOf, List.mem_toFinset, List.mem_map]

theorem lastWrittenTo_eq_none {location : Location} (h : location ∉ placesOf tree directory files) :
    lastWrittenTo tree directory location files = none := by
  refine Option.eq_none_iff_forall_ne_some.2 fun file hlast => h ?_
  obtain ⟨front, back, hfiles, -, hplace⟩ := lastWrittenTo_eq_some_iff.1 hlast
  exact mem_placesOf.2 ⟨file, by simp [hfiles], hplace⟩

/-- What became of files that were written into a directory one after the other, in a tree that was made of another
one. -/
structure Kept (tree made : FileTree) (directory : Text) (files : List ModelFile) : Prop where
  /-- A file is found at its path unless a later one goes to its place. -/
  hfound : ∀ front file back, files = front ++ file :: back → IsLastAt tree directory file back →
    made.readFile (Path.join directory file.name) = .ok file.content
  /-- At the path of each file the last one is found that goes to its place. -/
  hlast : ∀ file ∈ files, ∃ front last back, files = front ++ last :: back ∧ IsLastAt tree directory last back ∧
    tree.place (Path.join directory last.name) = tree.place (Path.join directory file.name) ∧
    made.readFile (Path.join directory file.name) = .ok last.content
  /-- There are files at the places of the files, and elsewhere only those that were there before. -/
  hplaces : ∀ location ∈ placesOf tree directory files, ∃ content, made.get? location = some (.file content)
  hothers : ∀ location ∉ placesOf tree directory files, ∀ content,
    made.get? location = some (.file content) → tree.get? location = some (.file content)

theorem kept_of_get? {made : FileTree} (hcurrent : made.current = tree.current)
    (hleads : ∀ file ∈ files, made.Leads (Path.join directory file.name))
    (hget : ∀ location file, lastWrittenTo tree directory location files = some file →
      made.get? location = some (.file file.content))
    (hothers : ∀ location content, lastWrittenTo tree directory location files = none →
      made.get? location = some (.file content) → tree.get? location = some (.file content)) :
    Kept tree made directory files := by
  have hread {file last : ModelFile} (hfile : file ∈ files)
      (hlast : lastWrittenTo tree directory (tree.place (Path.join directory file.name)) files = some last) :
      made.readFile (Path.join directory file.name) = .ok last.content := by
    refine (hleads file hfile).readFile ?_
    rw [place_congr hcurrent]
    exact hget _ _ hlast
  refine ⟨?_, ?_, ?_, ?_⟩
  · rintro front file back hfiles hlast
    exact hread (by simp [hfiles]) (lastWrittenTo_eq_some_iff.2 ⟨front, back, hfiles, hlast, rfl⟩)
  · intro file hfile
    obtain ⟨last, hlast⟩ := @exists_lastWrittenTo directory tree files file hfile
    obtain ⟨front, back, hfiles, hback, hplace⟩ := lastWrittenTo_eq_some_iff.1 hlast
    exact ⟨front, last, back, hfiles, hback, hplace, hread hfile hlast⟩
  · intro location hlocation
    obtain ⟨file, hfile, rfl⟩ := mem_placesOf.1 hlocation
    obtain ⟨last, hlast⟩ := @exists_lastWrittenTo directory tree files file hfile
    exact ⟨_, hget _ _ hlast⟩
  · intro location hlocation content
    exact hothers location content (lastWrittenTo_eq_none hlocation)

theorem kept_of_writeChunks (h : (writeChunks options directory (chunks input) tree).failure = none) :
    Kept tree (writeChunks options directory (chunks input) tree).tree directory
        (options.batches (chunks input)).flatten ∧
      ∀ file ∈ (options.batches (chunks input)).flatten,
        (writeChunks options directory (chunks input) tree).tree.Leads (Path.join directory file.name) := by
  have hfile (path : Text) (cause : FileError) :
      (writeChunks options directory (chunks input) tree).failure ≠ some (.file path cause) := by
    rw [h]
    nofun
  obtain ⟨base, written, hopened, hwritten⟩ := writes_of_writeChunks hfile
  obtain ⟨-, -, hcurrent, -, hget⟩ := writeChunks_of_success h
  have hleads : ∀ file ∈ (options.batches (chunks input)).flatten,
      (writeChunks options directory (chunks input) tree).tree.Leads (Path.join directory file.name) := by
    rw [writeChunks_of_writes hopened hwritten]
    exact leads_of_writeAll hwritten
  refine ⟨kept_of_get? hcurrent hleads ?_ ?_, hleads⟩
  · intro location file hlast
    rw [hget, hlast]
    rfl
  · intro location content hnone hcontent
    rw [hget, hnone] at hcontent
    change (if _ then _ else _) = _ at hcontent
    split_ifs at hcontent with hdirectory
    · cases hcontent
    · exact hcontent

theorem name_of_batches {file : ModelFile} (h : file ∈ (options.batches (chunks input)).flatten) :
    ∃ statements table baseName, .ok statements ∈ chunks input ∧ .createTable table ∈ statements ∧
      options.inflect table.name = .ok baseName ∧ file.name = options.fileName baseName := by
  obtain ⟨files, hfiles, hfile⟩ := List.mem_flatten.1 h
  obtain ⟨chunk, hchunk, hgenerate⟩ := chunk_of_batches hfiles
  obtain ⟨statements, table, baseName, rfl, hrest⟩ := name_of_generateChunk hgenerate hfile
  exact ⟨statements, table, baseName, hchunk, hrest⟩

theorem ofGenerate_finished (h : (writeChunks options directory (chunks input) tree).failure = none) :
    (Outcome.ofGenerate options directory input tree).events.getLast? =
      some (.finished (writeChunks options directory (chunks input) tree).paths.length directory) := by
  simp [Outcome.ofGenerate, h]

/-- A file of a run that fails nowhere is found at its path unless a later one goes to the same place, and then the
last of them is found there. As many places as files are written to exactly if no file takes the place of another,
which for names without a slash is to have the same name. -/
theorem writeChunks_kept (options : Options) (directory input : Text) (tree : FileTree)
    (h : (writeChunks options directory (chunks input) tree).failure = none) :
    let run := writeChunks options directory (chunks input) tree
    ∃ batches : List (List ModelFile), (chunks input).map options.generateChunk = batches.map .ok ∧
      run.paths = batches.flatten.map (fun file => Path.join directory file.name) ∧
      (∀ file ∈ batches.flatten, ∃ statements table baseName, .ok statements ∈ chunks input ∧
        .createTable table ∈ statements ∧ options.inflect table.name = .ok baseName ∧
        file.name = options.fileName baseName) ∧
      Kept tree run.tree directory batches.flatten ∧
      (Outcome.ofGenerate options directory input tree).events.getLast? =
        some (.finished batches.flatten.length directory) ∧
      (placesOf tree directory batches.flatten).card ≤ batches.flatten.length ∧
      ((placesOf tree directory batches.flatten).card = batches.flatten.length ↔
        batches.flatten.Pairwise fun file later =>
          tree.place (Path.join directory file.name) ≠ tree.place (Path.join directory later.name)) ∧
      ∀ file ∈ batches.flatten, ∀ other ∈ batches.flatten, '/' ∉ file.name → '/' ∉ other.name →
        (tree.place (Path.join directory file.name) = tree.place (Path.join directory other.name) ↔
          file.name = other.name) := by
  intro run
  obtain ⟨hbatches, hpaths, hcurrent, -, -⟩ := writeChunks_of_success h
  obtain ⟨hkept, hleads⟩ := kept_of_writeChunks h
  refine ⟨_, hbatches, hpaths, fun _ => name_of_batches, hkept, ?_, card_placesOf_le _ _ _, card_placesOf_eq_iff, ?_⟩
  · rw [ofGenerate_finished h, hpaths, List.length_map]
  · intro file hfile other hother hname hname'
    have hplace := (hleads file hfile).place_join hname
    have hplace' := (hleads other hother).place_join hname'
    rw [place_congr hcurrent, place_congr hcurrent] at hplace hplace'
    rw [hplace, hplace', List.append_cancel_left_eq, List.singleton_inj]

def plainTable (name : Text) : Json :=
  .object [("type", .string "create_table"), ("name", .string name), ("columns", .array [
    .object [("type", .string "column"), ("name", .string "id"), ("data_type", .object [("type", .string "INT")])]])]

/-- Two tables whose names have one singular. -/
def crowdedSchema : Text :=
  Json.print (.array [plainTable "users", plainTable "user"])

def crowdedFiles : List ModelFile :=
  (({} : Options).generate crowdedSchema).toOption.getD []

theorem crowdedSchema_run :
    (chunks crowdedSchema).map ({} : Options).generateChunk = [.ok crowdedFiles] ∧
      (writeChunks {} "d" (chunks crowdedSchema) emptyTree).failure = none ∧
      (writeChunks {} "d" (chunks crowdedSchema) emptyTree).paths = ["d/user.js", "d/user.js"] ∧
      ∃ file ∈ crowdedFiles, (writeChunks {} "d" (chunks crowdedSchema) emptyTree).tree.readFile
        (Path.join "d" file.name) ≠ .ok file.content := by
  decide +kernel

theorem writeChunks_kept_crowdedSchema :
    (writeChunks {} "d" (chunks crowdedSchema) emptyTree).failure = none ∧
      (Outcome.ofGenerate {} "d" crowdedSchema emptyTree).events.getLast? = some (.finished 2 "d") ∧
      ∃ file : ModelFile,
        (writeChunks {} "d" (chunks crowdedSchema) emptyTree).paths.getLast? = some (Path.join "d" file.name) ∧
          (writeChunks {} "d" (chunks crowdedSchema) emptyTree).tree.readFile (Path.join "d" file.name) =
            .ok file.content := by
  obtain ⟨-, hrun, hwritten, -⟩ := crowdedSchema_run
  obtain ⟨batches, -, hpaths, -, hkept, hfinished, -⟩ := writeChunks_kept {} "d" crowdedSchema emptyTree hrun
  have hlength : batches.flatten.length = 2 := by
    have hmap := congrArg List.length (hpaths.symm.trans hwritten)
    rwa [List.length_map] at hmap
  rw [hlength] at hfinished
  have hne : batches.flatten ≠ [] := fun hnil => by simp [hnil] at hlength
  obtain ⟨front, file, hfiles⟩ := (List.eq_nil_or_concat batches.flatten).resolve_left hne
  rw [List.concat_eq_append] at hfiles
  refine ⟨hrun, hfinished, file, ?_, hkept.hfound front file [] hfiles (by simp [IsLastAt])⟩
  rw [hpaths, hfiles, List.map_append, List.map_singleton, List.getLast?_concat]

/-- The first of the two tables is not found where it was written to, and still it counts. -/
theorem crowdedSchema_loses : (writeChunks {} "d" (chunks crowdedSchema) emptyTree).failure = none ∧
    ∃ files : List ModelFile, (chunks crowdedSchema).map ({} : Options).generateChunk = [.ok files] ∧
      (∃ file ∈ files, (writeChunks {} "d" (chunks crowdedSchema) emptyTree).tree.readFile
        (Path.join "d" file.name) ≠ .ok file.content) ∧
      ¬(writeChunks {} "d" (chunks crowdedSchema) emptyTree).paths.Nodup ∧
      (Outcome.ofGenerate {} "d" crowdedSchema emptyTree).events.getLast? = some (.finished 2 "d") := by
  obtain ⟨hfiles, hrun, hwritten, hlost⟩ := crowdedSchema_run
  refine ⟨hrun, crowdedFiles, hfiles, hlost, ?_, ?_⟩
  · rw [hwritten]
    decide
  · rw [ofGenerate_finished hrun, hwritten]
    rfl

end TableModel
