import TableModel.Proofs.Files.Collisions
import TableModel.Proofs.Files.Remaking

/-!
# Runs that are repeated

A run that is made again on the tree that it has left finds its directory there and writes the same files to the same
places. What it puts at a place first may differ from what stands there by then, but the last file put there is the
same one, so in the end nothing has changed. As long as the two runs write the same files they come to the same tree
at the point where the first one ended, and so the second one ends there, too, and in the same way.
-/

namespace TableModel

namespace FileTree

open TableModel.Path

variable {tree written : FileTree} {location other : Location} {node : Node} {entries : List (Location × Node)}
variable {path content : Text}

/-! ### Putting the same nodes again -/

theorem isSome_lookup_putIn (location : Location) (node : Node) {nodes : List (Location × Node)}
    (h : (nodes.lookup other).isSome) : ((putIn location node nodes).lookup other).isSome := by
  by_cases hother : other = location
  · rw [hother, lookup_putIn_self]
    rfl
  · rwa [lookup_putIn_of_ne hother]

/-- To put what stands at a place already changes nothing. -/
theorem putIn_of_lookup {nodes : List (Location × Node)} (h : nodes.lookup location = some node) :
    putIn location node nodes = nodes := by
  induction nodes with
  | nil => cases h
  | cons entry nodes ih =>
    obtain ⟨place, old⟩ := entry
    by_cases hplace : place = location
    · rw [List.lookup_cons, hplace, beq_self_eq_true] at h
      rw [putIn, if_pos hplace, hplace, Option.some.inj h]
    · rw [List.lookup_cons, beq_false_of_ne (Ne.symm hplace)] at h
      rw [putIn, if_neg hplace, ih h]

theorem putIn_putIn (location : Location) (old new : Node) (nodes : List (Location × Node)) :
    putIn location new (putIn location old nodes) = putIn location new nodes := by
  induction nodes with
  | nil => simp only [putIn, if_true]
  | cons entry nodes ih =>
    by_cases hplace : entry.1 = location
    · simp only [putIn, hplace, if_true]
    · simp only [putIn, hplace, if_false, ih]

/-- Where something stands already it does not matter when another place is put to. -/
theorem putIn_comm {nodes : List (Location × Node)} (h : (nodes.lookup location).isSome) (hne : other ≠ location)
    (node another : Node) :
    putIn other another (putIn location node nodes) = putIn location node (putIn other another nodes) := by
  induction nodes with
  | nil => cases h
  | cons entry nodes ih =>
    obtain ⟨place, old⟩ := entry
    by_cases hplace : place = location
    · simp only [putIn, hplace, if_true, if_neg (Ne.symm hne)]
    · rw [List.lookup_cons, beq_false_of_ne (Ne.symm hplace)] at h
      by_cases hother : place = other
      · simp only [putIn, hother, if_true, if_neg hne]
      · simp only [putIn, hplace, hother, if_false, ih h]

def putAll (tree : FileTree) (entries : List (Location × Node)) : FileTree :=
  entries.foldl (fun tree entry => tree.put entry.1 entry.2) tree

theorem putAll_cons (tree : FileTree) (entry : Location × Node) (entries : List (Location × Node)) :
    tree.putAll (entry :: entries) = (tree.put entry.1 entry.2).putAll entries :=
  rfl

theorem isSome_lookup_putAll (h : (tree.nodes.lookup location).isSome) (entries : List (Location × Node)) :
    ((tree.putAll entries).nodes.lookup location).isSome := by
  induction entries generalizing tree with
  | nil => exact h
  | cons entry entries ih => exact ih (isSome_lookup_putIn entry.1 entry.2 h)

theorem lookup_putAll_of_not_mem (h : location ∉ entries.map Prod.fst) :
    (tree.putAll entries).nodes.lookup location = tree.nodes.lookup location := by
  induction entries generalizing tree with
  | nil => rfl
  | cons entry entries ih =>
    rw [List.map_cons, List.mem_cons, not_or] at h
    rw [putAll_cons, ih h.2]
    exact lookup_putIn_of_ne h.1 entry.2 tree.nodes

/-- What is put over later need not be put first. -/
theorem putAll_put_of_mem (hsome : (tree.nodes.lookup location).isSome) (h : location ∈ entries.map Prod.fst)
    (node : Node) : (tree.put location node).putAll entries = tree.putAll entries := by
  induction entries generalizing tree with
  | nil => exact absurd h List.not_mem_nil
  | cons entry entries ih =>
    rw [putAll_cons, putAll_cons]
    by_cases hplace : entry.1 = location
    · have hput : (tree.put location node).put entry.1 entry.2 = tree.put entry.1 entry.2 := by
        rw [hplace, put, put, put, putIn_putIn]
      rw [hput]
    · have hput : (tree.put location node).put entry.1 entry.2 = (tree.put entry.1 entry.2).put location node := by
        rw [put, put, put, put, putIn_comm hsome hplace]
      rw [hput]
      apply ih (isSome_lookup_putIn entry.1 entry.2 hsome)
      exact (List.mem_cons.1 h).resolve_left (Ne.symm hplace)

/-- To put the same nodes again changes nothing, whatever was put at each place on the way. -/
theorem putAll_putAll (tree : FileTree) (entries : List (Location × Node)) :
    (tree.putAll entries).putAll entries = tree.putAll entries := by
  induction entries generalizing tree with
  | nil => rfl
  | cons entry entries ih =>
    obtain ⟨location, node⟩ := entry
    rw [putAll_cons, putAll_cons]
    dsimp only
    have hself : (tree.put location node).nodes.lookup location = some node :=
      lookup_putIn_self location node tree.nodes
    by_cases hlater : location ∈ entries.map Prod.fst
    · rw [putAll_put_of_mem (isSome_lookup_putAll (by rw [hself]; rfl) entries) hlater, ih]
    · have hstands := (lookup_putAll_of_not_mem hlater).trans hself
      have hput : ((tree.put location node).putAll entries).put location node =
          (tree.put location node).putAll entries := by
        rw [put, putIn_of_lookup hstands]
      rw [hput, ih]

/-! ### Writing the same files again -/

/-- A file can be written wherever one can be found, unless a directory stands there. -/
theorem Leads.writeFile (h : tree.Leads path) (hnode : tree.get? (tree.place path) ≠ some .directory)
    (content : Text) : tree.writeFile path content = .ok (tree.put (tree.place path) (.file content)) := by
  obtain ⟨hnonempty, hpath, hslash, front, name, hnames, hhere, habove, hsize, hpassable, hdirectory⟩ := h
  have hplace : tree.place path = resolve (tree.origin path) front ++ [name] := by
    rw [place, hnames, resolve_concat, step_of_ne hhere habove]
  have hdots : ¬(name = here ∨ name = above ∨ endsWithSlash path = true) := by
    simp [hhere, habove, hslash]
  rw [hplace] at hnode ⊢
  rw [FileTree.writeFile, hnonempty, if_neg Bool.false_ne_true, hpath, hnames]
  refine bind_eq_ok.2 ⟨(), rfl, bind_eq_ok.2 ⟨_, followToLast_concat hpassable hdirectory name, ?_⟩⟩
  dsimp only
  rw [if_neg hdots, if_neg (Nat.not_lt.2 hsize)]
  split
  · exact absurd ‹_› hnode
  · rfl

end FileTree

open FileTree Options

variable {options : Options} {directory : Text} {files : List ModelFile} {items : List Chunk}
variable {tree made written : FileTree}

/-- What is put where when files are written into a directory. -/
def entriesOf (tree : FileTree) (directory : Text) (files : List ModelFile) : List (Location × Node) :=
  files.map fun file => (tree.place (Path.join directory file.name), .file file.content)

theorem entriesOf_congr (h : made.current = tree.current) (directory : Text) (files : List ModelFile) :
    entriesOf made directory files = entriesOf tree directory files := by
  simp only [entriesOf, place_congr h]

theorem eq_putAll_of_writeAll (h : writeAll directory files tree = .ok written) :
    written = tree.putAll (entriesOf tree directory files) := by
  induction files generalizing tree with
  | nil =>
    cases h
    rfl
  | cons file files ih =>
    obtain ⟨middle, hfile, hfiles⟩ := writeAll_cons_eq_ok.1 h
    obtain ⟨-, hmiddle, -⟩ := writeFile_eq_ok hfile
    rw [ih hfiles, entriesOf_congr (writeFile_current hfile), hmiddle]
    rfl

theorem writeAll_isOk (h : ∀ file ∈ files, tree.Leads (Path.join directory file.name) ∧
    tree.get? (tree.place (Path.join directory file.name)) ≠ some .directory) :
    ∃ written, writeAll directory files tree = .ok written := by
  induction files generalizing tree with
  | nil => exact ⟨tree, rfl⟩
  | cons file files ih =>
    obtain ⟨⟨hleads, hnode⟩, hfiles⟩ := List.forall_mem_cons.1 h
    obtain ⟨middle, hfile⟩ : ∃ middle, tree.writeFile (Path.join directory file.name) file.content = .ok middle :=
      ⟨_, hleads.writeFile hnode file.content⟩
    have hcurrent := writeFile_current hfile
    obtain ⟨written, hwritten⟩ : ∃ written, writeAll directory files middle = .ok written := by
      apply ih
      intro other hother
      obtain ⟨hleads, hnode⟩ := hfiles other hother
      refine ⟨hleads.mono hcurrent (writeFile_directory hfile), ?_⟩
      rw [place_congr hcurrent, writeFile_get? hfile]
      split_ifs
      · exact fun hfile => by cases hfile
      · exact hnode
    exact ⟨written, writeAll_cons_eq_ok.2 ⟨middle, hfile, hwritten⟩⟩

/-- Files that were written can be written again, and nothing changes. -/
theorem writeAll_again (h : writeAll directory files tree = .ok written) :
    writeAll directory files written = .ok written := by
  obtain ⟨hcurrent, -⟩ := writeAll_keeps h
  obtain ⟨again, hagain⟩ : ∃ again, writeAll directory files written = .ok again := by
    apply writeAll_isOk
    intro file hfile
    refine ⟨leads_of_writeAll h file hfile, ?_⟩
    obtain ⟨last, hlast⟩ := @exists_lastWrittenTo directory tree files file hfile
    rw [place_congr hcurrent, writeAll_get? h, hlast]
    exact fun hnode => by cases hnode
  have hsame : again = written := by
    rw [eq_putAll_of_writeAll hagain, entriesOf_congr hcurrent, eq_putAll_of_writeAll h, putAll_putAll]
  rw [hagain, hsame]

/-! ### Running again -/

/-- Writes that end with a failure have written files up to the one that failed. From another tree that the same files
make the same, they end in the same way. -/
theorem writeFiles_again (directory : Text) (done : List Text) (files : List ModelFile) (tree : FileTree) :
    ∃ front, writeAll directory front tree = .ok (writeFiles directory done files tree).tree ∧
      ∀ other, writeAll directory front other = .ok (writeFiles directory done files tree).tree →
        writeFiles directory done files other = writeFiles directory done files tree := by
  rcases writeAll_cases directory files tree with ⟨written, hwritten⟩ |
    ⟨front, file, back, written, cause, rfl, hfront, hfile⟩
  · rw [writeFiles_of_writeAll hwritten]
    exact ⟨files, hwritten, fun other hother => writeFiles_of_writeAll hother done⟩
  · rw [writeFiles_of_error hfront hfile]
    exact ⟨front, hfront, fun other hother => writeFiles_of_error hother hfile done back⟩

/-- A run into a directory that is there has written some files. From another tree that the same files make the same,
it goes in the same way. -/
theorem writeChunks_again (options : Options) (items : List Chunk)
    (hmade : tree.createDirectories directory = (none, tree)) :
    ∃ front, writeAll directory front tree = .ok (writeChunks options directory items tree).tree ∧
      ∀ other, other.createDirectories directory = (none, other) →
        writeAll directory front other = .ok (writeChunks options directory items tree).tree →
          writeChunks options directory items other = writeChunks options directory items tree := by
  induction items generalizing tree with
  | nil =>
    refine ⟨[], rfl, fun other _ hother => ?_⟩
    cases hother
    rfl
  | cons chunk items ih =>
    cases hchunk : options.generateChunk chunk with
    | error failure =>
      rw [writeChunks_cons_of_error hchunk]
      refine ⟨[], rfl, fun other _ hother => ?_⟩
      cases hother
      rw [writeChunks_cons_of_error hchunk]
    | ok files =>
      rcases writeFiles_cases directory [] files tree with ⟨middle, hmiddle⟩ | ⟨path, cause, hfailure⟩
      · obtain ⟨front, hfront, hrest⟩ := ih (createDirectories_of_written hmade hmiddle)
        rw [writeChunks_cons_of_writeAll hchunk hmade hmiddle]
        refine ⟨files ++ front, writeAll_append_eq_ok.2 ⟨middle, hmiddle, hfront⟩, fun other hother hwritten => ?_⟩
        obtain ⟨next, hnext, hmore⟩ := writeAll_append_eq_ok.1 hwritten
        have hsame := hrest next (createDirectories_of_written hother hnext) hmore
        rw [writeChunks_cons_of_writeAll hchunk hother hnext, hsame]
      · obtain ⟨front, hfront, hother⟩ := writeFiles_again directory [] files tree
        rw [← writeModels_of_made hmade] at hfailure hfront hother
        rw [writeChunks_cons_of_failure hchunk hfailure]
        refine ⟨front, hfront, fun other hmade' hwritten => ?_⟩
        have hsame : writeModels directory files other = writeModels directory files tree := by
          rw [writeModels_of_made hmade', hother other hwritten]
        rw [← hsame] at hfailure ⊢
        exact writeChunks_cons_of_failure hchunk hfailure items

theorem writeChunks_again_of_made (options : Options) (items : List Chunk)
    (hmade : tree.createDirectories directory = (none, tree)) :
    writeChunks options directory items (writeChunks options directory items tree).tree =
      writeChunks options directory items tree := by
  obtain ⟨front, hfront, hother⟩ := writeChunks_again options items hmade
  exact hother _ (createDirectories_of_written hmade hfront) (writeAll_again hfront)

/-- It does not matter whether the directory is made before a run that has a chunk to write. -/
theorem writeChunks_of_made {chunk : Chunk} (hchunk : options.generateChunk chunk = .ok files)
    (h : tree.createDirectories directory = (none, made)) (items : List Chunk) :
    made.createDirectories directory = (none, made) ∧
      writeChunks options directory (chunk :: items) tree = writeChunks options directory (chunk :: items) made := by
  obtain ⟨-, hreached⟩ := createDirectories_eq_none h
  refine ⟨hreached.createDirectories, ?_⟩
  rw [writeChunks, writeChunks, hchunk]
  dsimp only
  rw [writeModels_of_made h, writeModels_of_made hreached.createDirectories]

/-- A run over chunks that is made again is the same run, unless it cannot make its directory. Then nothing is made
by it, and the reason that is told may be another one. -/
theorem writeChunks_twice (options : Options) (directory : Text) (items : List Chunk) (tree : FileTree) :
    let run := writeChunks options directory items tree
    writeChunks options directory items run.tree = run ∨
      ∃ cause again, run = { tree := run.tree, failure := some (.file directory cause) } ∧ ToldAgain cause again ∧
        writeChunks options directory items run.tree =
          { tree := run.tree, failure := some (.file directory again) } := by
  intro run
  cases items with
  | nil => exact .inl rfl
  | cons chunk items =>
    cases hchunk : options.generateChunk chunk with
    | error failure =>
      left
      show writeChunks _ _ _ (writeChunks _ _ _ tree).tree = writeChunks _ _ _ tree
      rw [writeChunks_cons_of_error hchunk, writeChunks_cons_of_error hchunk]
    | ok files =>
      rcases hmade : tree.createDirectories directory with ⟨_ | cause, made⟩
      · obtain ⟨hagain, hsame⟩ := writeChunks_of_made hchunk hmade items
        left
        show writeChunks _ _ _ (writeChunks _ _ _ tree).tree = writeChunks _ _ _ tree
        rw [hsame]
        exact writeChunks_again_of_made options _ hagain
      · have hrun : writeChunks options directory (chunk :: items) tree =
            { tree := made, failure := some (.file directory cause) } := writeChunks_cons_of_refused hchunk hmade items
        obtain ⟨again, hagain, htold⟩ := createDirectories_again hmade
        have htree : run.tree = made := congrArg Written.tree hrun
        rw [htree]
        exact .inr ⟨cause, again, hrun, htold, writeChunks_cons_of_refused hchunk hagain items⟩

/-- A run that is made again on the tree that it has left leaves that tree as it is, writes the same files and has the
same failure, or none. Not even the reason for a file that cannot be written changes. Only where the directory cannot be
made for a file in its way, and some directory above it was made first, may the system tell of that file by another
reason. -/
theorem writeChunks_repeated (options : Options) (directory input : Text) (tree : FileTree) :
    let run := writeChunks options directory (chunks input) tree
    let again := writeChunks options directory (chunks input) run.tree
    again.tree = run.tree ∧ again.paths = run.paths ∧ again.unfinished = run.unfinished ∧
      (again.failure = run.failure ∨
        run.tree ≠ tree ∧ run.paths = [] ∧ run.failure = some (.file directory .alreadyExists) ∧
          again.failure = some (.file directory .notADirectory)) := by
  intro run again
  rcases writeChunks_twice options directory (chunks input) tree with hsame | ⟨cause, other, hrun, htold, hagain⟩
  · have hsame : again = run := hsame
    rw [hsame]
    exact ⟨rfl, rfl, rfl, .inl rfl⟩
  · have hrun : run = { tree := run.tree, failure := some (.file directory cause) } := hrun
    have hagain : again = { tree := run.tree, failure := some (.file directory other) } := hagain
    have hfailure : run.failure = some (.file directory cause) := by rw [hrun]
    have hfailure' : again.failure = some (.file directory other) := by rw [hagain]
    have hpaths : run.paths = [] := by rw [hrun]
    refine ⟨by rw [hagain], by rw [hagain, hpaths], by rw [hagain, hrun], ?_⟩
    rw [hfailure, hfailure']
    rcases htold with rfl | ⟨rfl, rfl⟩
    · exact .inl rfl
    · refine .inr ⟨?_, hpaths, rfl, rfl⟩
      -- A run that has made nothing is made again as it was.
      intro htree
      have hsame : again = run := congrArg (writeChunks options directory (chunks input)) htree
      rw [hsame, hfailure] at hfailure'
      cases hfailure'

def blockedTree : FileTree where
  nodes := [(["f"], .file [])]
  current := []

/-- The file in the way is met in two ways when a directory before it is missing at first, and the two runs end with
different words. -/
theorem blockedTree_otherReason :
    let run := writeChunks {} "a/../f/x" (chunks "[]") blockedTree
    let again := writeChunks {} "a/../f/x" (chunks "[]") run.tree
    run.failure = some (.file "a/../f/x" .alreadyExists) ∧ again.failure = some (.file "a/../f/x" .notADirectory) ∧
      run.failure ≠ again.failure ∧ run.failure.map Failure.message ≠ again.failure.map Failure.message := by
  decide +kernel

end TableModel
