import TableModel.Proofs.Files.Writes

/-!
# Runs over chunks

A run takes its chunks one by one, and makes all files of a chunk before it writes the first of them.
So the chunks alone decide which files are written and which failure of theirs ends the run; the tree
only decides whether the writes succeed. If they do, the run comes to the directory made once, and the
files of all chunks before the first failure written into it one after the other.
-/

namespace TableModel

namespace Options

variable {options : Options} {items front back : List Chunk} {failure : Failure}

/-- The files of chunks, chunk by chunk, up to the first chunk that fails. -/
def batches (options : Options) : List Chunk → List (List ModelFile)
  | [] => []
  | chunk :: rest =>
    match options.generateChunk chunk with
    | .ok files => files :: options.batches rest
    | .error _ => []

def firstFailure (options : Options) : List Chunk → Option Failure
  | [] => none
  | chunk :: rest =>
    match options.generateChunk chunk with
    | .ok _ => options.firstFailure rest
    | .error failure => some failure

theorem batches_cons_ok {chunk : Chunk} {files : List ModelFile}
    (h : options.generateChunk chunk = .ok files) (rest : List Chunk) :
    options.batches (chunk :: rest) = files :: options.batches rest := by
  rw [batches, h]

theorem firstFailure_cons_ok {chunk : Chunk} {files : List ModelFile}
    (h : options.generateChunk chunk = .ok files) (rest : List Chunk) :
    options.firstFailure (chunk :: rest) = options.firstFailure rest := by
  rw [firstFailure, h]

theorem batches_cons_error {chunk : Chunk} (h : options.generateChunk chunk = .error failure)
    (rest : List Chunk) : options.batches (chunk :: rest) = [] := by
  rw [batches, h]

theorem firstFailure_cons_error {chunk : Chunk} (h : options.generateChunk chunk = .error failure)
    (rest : List Chunk) : options.firstFailure (chunk :: rest) = some failure := by
  rw [firstFailure, h]

theorem chunk_of_batches {files : List ModelFile} (h : files ∈ options.batches items) :
    ∃ chunk ∈ items, options.generateChunk chunk = .ok files := by
  induction items with
  | nil => cases h
  | cons chunk items ih =>
    cases hchunk : options.generateChunk chunk with
    | error failure =>
      rw [batches_cons_error hchunk] at h
      cases h
    | ok first =>
      rw [batches_cons_ok hchunk] at h
      rcases List.mem_cons.1 h with rfl | h
      · exact ⟨chunk, List.mem_cons_self, hchunk⟩
      · obtain ⟨other, hother, hfiles⟩ := ih h
        exact ⟨other, List.mem_cons_of_mem chunk hother, hfiles⟩

theorem generateChunk_of_firstFailure (h : options.firstFailure items = none) :
    items.map options.generateChunk = (options.batches items).map .ok := by
  induction items with
  | nil => rfl
  | cons chunk items ih =>
    cases hchunk : options.generateChunk chunk with
    | error failure =>
      rw [firstFailure_cons_error hchunk] at h
      cases h
    | ok files =>
      rw [firstFailure_cons_ok hchunk] at h
      rw [batches_cons_ok hchunk, List.map_cons, List.map_cons, hchunk, ih h]

theorem readable_of_firstFailure (h : options.firstFailure items = none) (cause : ReadError) :
    .error cause ∉ items := by
  intro hmem
  have hgenerated := List.mem_map_of_mem (f := options.generateChunk) hmem
  rw [generateChunk_of_firstFailure h] at hgenerated
  obtain ⟨files, -, ⟨⟩⟩ := List.mem_map.1 hgenerated

theorem append_of_firstFailure (h : options.firstFailure front = none) (back : List Chunk) :
    options.batches (front ++ back) = options.batches front ++ options.batches back ∧
      options.firstFailure (front ++ back) = options.firstFailure back := by
  induction front with
  | nil => exact ⟨rfl, rfl⟩
  | cons chunk front ih =>
    cases hchunk : options.generateChunk chunk with
    | error failure =>
      rw [firstFailure_cons_error hchunk] at h
      cases h
    | ok files =>
      rw [firstFailure_cons_ok hchunk] at h
      obtain ⟨hbatches, hfailure⟩ := ih h
      rw [List.cons_append, batches_cons_ok hchunk, batches_cons_ok hchunk,
        firstFailure_cons_ok hchunk, hbatches]
      exact ⟨rfl, hfailure⟩

/-- Behind a chunk that fails nothing counts. -/
theorem append_cons_error {chunk : Chunk} (h : options.firstFailure front = none)
    (hchunk : options.generateChunk chunk = .error failure) (back : List Chunk) :
    options.batches (front ++ chunk :: back) = options.batches front ∧
      options.firstFailure (front ++ chunk :: back) = some failure := by
  obtain ⟨hbatches, hfailure⟩ := append_of_firstFailure h (chunk :: back)
  rw [hbatches, hfailure, batches_cons_error hchunk, firstFailure_cons_error hchunk, List.append_nil]
  exact ⟨rfl, rfl⟩

theorem split_of_firstFailure (h : options.firstFailure items = some failure) :
    ∃ front chunk back, items = front ++ chunk :: back ∧ options.firstFailure front = none ∧
      options.generateChunk chunk = .error failure := by
  induction items with
  | nil => cases h
  | cons chunk items ih =>
    cases hchunk : options.generateChunk chunk with
    | error cause =>
      rw [firstFailure_cons_error hchunk] at h
      cases h
      exact ⟨[], chunk, items, rfl, rfl, hchunk⟩
    | ok files =>
      rw [firstFailure_cons_ok hchunk] at h
      obtain ⟨front, failing, back, rfl, hfront, hfailing⟩ := ih h
      exact ⟨chunk :: front, failing, back, rfl, (firstFailure_cons_ok hchunk front).trans hfront,
        hfailing⟩

end Options

open FileTree Options

variable {options : Options} {directory : Text} {files : List ModelFile} {items : List Chunk}
variable {tree base written : FileTree} {done : List Text}

/-! ### The files of one chunk -/

theorem writeFiles_append (h : writeAll directory files tree = .ok written) (done : List Text)
    (more : List ModelFile) : writeFiles directory done (files ++ more) tree =
      writeFiles directory (done ++ files.map fun file => Path.join directory file.name) more written := by
  induction files generalizing tree done with
  | nil =>
    cases h
    rw [List.map_nil, List.append_nil, List.nil_append]
  | cons file files ih =>
    obtain ⟨middle, hfile, hfiles⟩ := writeAll_cons_eq_ok.1 h
    rw [List.cons_append, writeFiles, hfile]
    dsimp only
    rw [ih hfiles, List.append_assoc]
    rfl

theorem writeFiles_of_writeAll (h : writeAll directory files tree = .ok written) (done : List Text) :
    writeFiles directory done files tree =
      { tree := written, paths := done ++ files.map fun file => Path.join directory file.name } := by
  have happend := writeFiles_append h done []
  rw [List.append_nil] at happend
  exact happend

/-- What is behind a file that cannot be written does not matter. -/
theorem writeFiles_of_error {file : ModelFile} {cause : FileError} (h : writeAll directory files tree = .ok written)
    (hfile : written.writeFile (Path.join directory file.name) file.content = .error cause) (done : List Text)
    (more : List ModelFile) : writeFiles directory done (files ++ file :: more) tree =
      { tree := written
        unfinished := done ++ files.map fun file => Path.join directory file.name
        failure := some (.file (Path.join directory file.name) cause) } := by
  rw [writeFiles_append h, writeFiles, hfile]

theorem writeFiles_cases (directory : Text) (done : List Text) (files : List ModelFile)
    (tree : FileTree) :
    (∃ written, writeAll directory files tree = .ok written) ∨
      ∃ path cause, (writeFiles directory done files tree).failure = some (.file path cause) := by
  rcases writeAll_cases directory files tree with hwritten |
    ⟨front, file, back, written, cause, rfl, hfront, hfile⟩
  · exact .inl hwritten
  · refine .inr ⟨Path.join directory file.name, cause, ?_⟩
    rw [writeFiles_of_error hfront hfile]

theorem writeModels_of_made (h : tree.createDirectories directory = (none, base)) (files : List ModelFile) :
    writeModels directory files tree = writeFiles directory [] files base := by
  rw [writeModels, h]

theorem writeModels_of_refused {cause : FileError} (h : tree.createDirectories directory = (some cause, base))
    (files : List ModelFile) :
    writeModels directory files tree = { tree := base, failure := some (.file directory cause) } := by
  rw [writeModels, h]

theorem writeModels_of_writeAll (hbase : tree.createDirectories directory = (none, base))
    (h : writeAll directory files base = .ok written) :
    writeModels directory files tree =
      { tree := written, paths := files.map fun file => Path.join directory file.name } := by
  rw [writeModels_of_made hbase]
  exact writeFiles_of_writeAll h []

theorem writeModels_of_error {file : ModelFile} {cause : FileError}
    (hbase : tree.createDirectories directory = (none, base)) (h : writeAll directory files base = .ok written)
    (hfile : written.writeFile (Path.join directory file.name) file.content = .error cause) (more : List ModelFile) :
    writeModels directory (files ++ file :: more) tree =
      { tree := written
        unfinished := files.map fun file => Path.join directory file.name
        failure := some (.file (Path.join directory file.name) cause) } := by
  rw [writeModels_of_made hbase]
  exact writeFiles_of_error h hfile [] more

theorem writeModels_cases (directory : Text) (files : List ModelFile) (tree : FileTree) :
    (∃ base written, tree.createDirectories directory = (none, base) ∧
        writeAll directory files base = .ok written) ∨
      ∃ path cause, (writeModels directory files tree).failure = some (.file path cause) := by
  rw [writeModels]
  rcases hmade : tree.createDirectories directory with ⟨_ | cause, base⟩
  · dsimp only
    rcases writeFiles_cases directory [] files base with ⟨written, hwritten⟩ | hfailure
    · exact .inl ⟨base, written, rfl, hwritten⟩
    · exact .inr hfailure
  · exact .inr ⟨directory, cause, rfl⟩

theorem createDirectories_of_written (hbase : tree.createDirectories directory = (none, base))
    (h : writeAll directory files base = .ok written) :
    written.createDirectories directory = (none, written) := by
  obtain ⟨-, hreached⟩ := createDirectories_eq_none hbase
  obtain ⟨hcurrent, hdirectories⟩ := writeAll_keeps h
  exact (hreached.mono hcurrent hdirectories).createDirectories

/-! ### The chunks one after the other -/

/-- The tree before the first write: the directory is made if there is a chunk to write. -/
def Opened (directory : Text) (tree base : FileTree) : List (List ModelFile) → Prop
  | [] => base = tree
  | _ :: _ => tree.createDirectories directory = (none, base)

theorem Opened.of_made {batches : List (List ModelFile)}
    (h : tree.createDirectories directory = (none, tree)) : Opened directory tree tree batches := by
  cases batches with
  | nil => rfl
  | cons files batches => exact h

theorem Opened.eq_of_made {batches : List (List ModelFile)}
    (h : tree.createDirectories directory = (none, tree)) (hopened : Opened directory tree base batches) :
    base = tree := by
  cases batches with
  | nil => exact hopened
  | cons files batches => exact (Prod.mk.inj (hopened.symm.trans h)).2

theorem writeChunks_cons_of_error {chunk : Chunk} {failure : Failure} (h : options.generateChunk chunk = .error failure)
    (items : List Chunk) (tree : FileTree) :
    writeChunks options directory (chunk :: items) tree = { tree, failure := some failure } := by
  rw [writeChunks, h]

/-- A run ends with the chunk whose files cannot be written. -/
theorem writeChunks_cons_of_failure {chunk : Chunk} {failure : Failure}
    (hchunk : options.generateChunk chunk = .ok files)
    (h : (writeModels directory files tree).failure = some failure) (items : List Chunk) :
    writeChunks options directory (chunk :: items) tree = writeModels directory files tree := by
  rw [writeChunks, hchunk]
  dsimp only
  rw [h]

theorem writeChunks_cons_of_refused {chunk : Chunk} {cause : FileError}
    (hchunk : options.generateChunk chunk = .ok files)
    (h : tree.createDirectories directory = (some cause, base)) (items : List Chunk) :
    writeChunks options directory (chunk :: items) tree =
      { tree := base, failure := some (.file directory cause) } := by
  have hmodels := writeModels_of_refused h files
  rw [writeChunks_cons_of_failure hchunk (by rw [hmodels]), hmodels]

/-- A chunk whose files can be written comes before the run over the others. -/
theorem writeChunks_cons_of_writeAll {chunk : Chunk} (hchunk : options.generateChunk chunk = .ok files)
    (hbase : tree.createDirectories directory = (none, base)) (h : writeAll directory files base = .ok written)
    (items : List Chunk) :
    writeChunks options directory (chunk :: items) tree =
      { writeChunks options directory items written with
        paths := files.map (fun file => Path.join directory file.name) ++
          (writeChunks options directory items written).paths } := by
  rw [writeChunks, hchunk]
  dsimp only
  rw [writeModels_of_writeAll hbase h]

theorem writeChunks_of_writes (hopened : Opened directory tree base (options.batches items))
    (h : writeAll directory (options.batches items).flatten base = .ok written) :
    writeChunks options directory items tree =
      { tree := written
        paths := (options.batches items).flatten.map fun file => Path.join directory file.name
        failure := options.firstFailure items } := by
  induction items generalizing tree base with
  | nil =>
    cases hopened
    cases h
    rfl
  | cons chunk items ih =>
    cases hchunk : options.generateChunk chunk with
    | error failure =>
      rw [batches_cons_error hchunk] at hopened h ⊢
      cases hopened
      cases h
      rw [writeChunks_cons_of_error hchunk, firstFailure_cons_error hchunk]
      rfl
    | ok files =>
      rw [batches_cons_ok hchunk] at hopened h ⊢
      obtain ⟨middle, hfiles, hrest⟩ := writeAll_append_eq_ok.1 h
      have hagain := createDirectories_of_written hopened hfiles
      rw [writeChunks_cons_of_writeAll hchunk hopened hfiles, firstFailure_cons_ok hchunk, ih (.of_made hagain) hrest,
        List.flatten_cons, List.map_append]

/-- A run that no write ends has written the files of all chunks before the first that fails. -/
theorem writes_of_writeChunks
    (h : ∀ path cause, (writeChunks options directory items tree).failure ≠ some (.file path cause)) :
    ∃ base written, Opened directory tree base (options.batches items) ∧
      writeAll directory (options.batches items).flatten base = .ok written := by
  induction items generalizing tree with
  | nil => exact ⟨tree, tree, rfl, rfl⟩
  | cons chunk items ih =>
    cases hchunk : options.generateChunk chunk with
    | error failure =>
      rw [batches_cons_error hchunk]
      exact ⟨tree, tree, rfl, rfl⟩
    | ok files =>
      rw [batches_cons_ok hchunk]
      rcases writeModels_cases directory files tree with
        ⟨base, middle, hbase, hfiles⟩ | ⟨path, cause, hfailure⟩
      · rw [writeChunks_cons_of_writeAll hchunk hbase hfiles] at h
        obtain ⟨next, written, hopened, hrest⟩ := ih h
        have hagain := createDirectories_of_written hbase hfiles
        cases hopened.eq_of_made hagain
        exact ⟨base, written, hbase, writeAll_append_eq_ok.2 ⟨middle, hfiles, hrest⟩⟩
      · rw [writeChunks_cons_of_failure hchunk hfailure] at h
        exact absurd hfailure (h path cause)

/-- However it ends, a run of writes has written the files in front. -/
theorem writeFiles_front (directory : Text) (done : List Text) (files : List ModelFile) (tree : FileTree) :
    ∃ front back, files = front ++ back ∧
      writeAll directory front tree = .ok (writeFiles directory done files tree).tree ∧
      (writeFiles directory done files tree).paths ++ (writeFiles directory done files tree).unfinished =
        done ++ front.map (fun file => Path.join directory file.name) ∧
      ((writeFiles directory done files tree).failure = none → back = []) := by
  rcases writeAll_cases directory files tree with ⟨written, hwritten⟩ |
    ⟨front, file, back, written, cause, rfl, hfront, hfile⟩
  · rw [writeFiles_of_writeAll hwritten]
    exact ⟨files, [], (List.append_nil files).symm, hwritten, List.append_nil _, fun _ => rfl⟩
  · rw [writeFiles_of_error hfront hfile]
    exact ⟨front, file :: back, rfl, hfront, rfl, nofun⟩

theorem writeModels_front (directory : Text) (files : List ModelFile) (tree : FileTree) :
    ∃ front back, files = front ++ back ∧
      writeAll directory front (tree.createDirectories directory).2 = .ok (writeModels directory files tree).tree ∧
      (writeModels directory files tree).paths ++ (writeModels directory files tree).unfinished =
        front.map (fun file => Path.join directory file.name) ∧
      (front ≠ [] ∨ (writeModels directory files tree).failure = none →
        (tree.createDirectories directory).1 = none) ∧
      ((writeModels directory files tree).failure = none → back = []) := by
  rw [writeModels]
  rcases hmade : tree.createDirectories directory with ⟨_ | cause, base⟩
  · obtain ⟨front, back, hfiles, hwritten, hpaths, hback⟩ := writeFiles_front directory [] files base
    exact ⟨front, back, hfiles, hwritten, hpaths, fun _ => rfl, hback⟩
  · refine ⟨[], files, rfl, rfl, rfl, ?_, nofun⟩
    rintro (hne | ⟨⟨⟩⟩)
    exact absurd rfl hne

/-- However it ends, a run has made its directory, or as much of it as it could, and has written the files in front. -/
theorem writeChunks_front (options : Options) (directory : Text) (items : List Chunk) (tree : FileTree) :
    ∃ base front, (base = tree ∨ base = (tree.createDirectories directory).2) ∧
      (front ≠ [] → base.Reached directory) ∧ front <+: (options.batches items).flatten ∧
      writeAll directory front base = .ok (writeChunks options directory items tree).tree ∧
      (writeChunks options directory items tree).paths ++ (writeChunks options directory items tree).unfinished =
        front.map (fun file => Path.join directory file.name) := by
  induction items generalizing tree with
  | nil => exact ⟨tree, [], .inl rfl, fun hne => absurd rfl hne, List.nil_prefix, rfl, rfl⟩
  | cons chunk items ih =>
    rw [writeChunks]
    cases hchunk : options.generateChunk chunk with
    | error failure => exact ⟨tree, [], .inl rfl, fun hne => absurd rfl hne, List.nil_prefix, rfl, rfl⟩
    | ok files =>
      obtain ⟨front, back, hfiles, hwritten, hpaths, hmade, hback⟩ := writeModels_front directory files tree
      have hreached (h : (tree.createDirectories directory).1 = none) :
          (tree.createDirectories directory).2.Reached directory :=
        (createDirectories_eq_none (Prod.ext h rfl)).2
      rw [batches_cons_ok hchunk, List.flatten_cons]
      dsimp only
      cases hfailure : (writeModels directory files tree).failure with
      | some failure =>
        refine ⟨_, front, .inr rfl, fun hne => hreached (hmade (.inl hne)), ?_, hwritten, hpaths⟩
        rw [hfiles, List.append_assoc]
        exact List.prefix_append front _
      | none =>
        obtain rfl := hback hfailure
        rw [List.append_nil] at hfiles
        subst hfiles
        have hnone := hmade (.inr hfailure)
        have hagain := createDirectories_of_written (Prod.ext hnone rfl) hwritten
        obtain ⟨next, more, hnext, -, hmore, hrest, hmorePaths⟩ := ih (writeModels directory files tree).tree
        rw [hagain, or_self] at hnext
        subst hnext
        refine ⟨_, files ++ more, .inr rfl, fun _ => hreached hnone, ?_, ?_, ?_⟩
        · exact (List.prefix_append_right_inj files).2 hmore
        · exact writeAll_append_eq_ok.2 ⟨_, hwritten, hrest⟩
        · rw [writeModels_of_writeAll (Prod.ext hnone rfl) hwritten] at hmorePaths ⊢
          rw [List.append_assoc, hmorePaths, List.map_append]

end TableModel
