import TableModel.Proofs.Files.Runs
import TableModel.Proofs.Model.Failures
import TableModel.Proofs.Schema.Streams

/-!
# The boundary of a batch

A chunk is written as a whole or not at all. A run that a chunk ends has done what the run over the
chunks before it does, and what stands behind that chunk in the text never counts. A run that no chunk
ends leaves the directory, the last file written to each place, and everything else as it was.
-/

namespace TableModel

open FileTree Options

variable {options : Options} {directory input : Text} {tree : FileTree} {items : List Chunk}
variable {failure : Failure}

/-- A failure of a chunk: it cannot be read, or one of its columns cannot be mapped. -/
inductive Failure.OfChunk : Failure → Prop
  | unreadable (cause : ReadError) : OfChunk (.unreadable cause)
  | column (table column : Text) (cause : TypeError) : OfChunk (.column table column cause)

theorem not_file_of_ofChunk (hchunk : failure.OfChunk) (path : Text) (cause : FileError) :
    failure ≠ .file path cause := by
  rintro rfl
  cases hchunk

theorem writeChunks_of_failure (hchunk : failure.OfChunk)
    (h : (writeChunks options directory items tree).failure = some failure) :
    ∃ front chunk back, items = front ++ chunk :: back ∧
      options.generateChunk chunk = .error failure ∧ options.firstFailure front = none ∧
      (writeChunks options directory front tree).failure = none ∧
      ∀ later, writeChunks options directory (front ++ chunk :: later) tree =
        { writeChunks options directory front tree with failure := some failure } := by
  have hfile : ∀ path cause,
      (writeChunks options directory items tree).failure ≠ some (.file path cause) := by
    intro path cause hsame
    rw [h] at hsame
    exact not_file_of_ofChunk hchunk path cause (Option.some.inj hsame)
  obtain ⟨base, written, hopened, hwritten⟩ := writes_of_writeChunks hfile
  rw [writeChunks_of_writes hopened hwritten] at h
  obtain ⟨front, chunk, back, rfl, hfront, hfailing⟩ := split_of_firstFailure h
  rw [(append_cons_error hfront hfailing back).1] at hopened hwritten
  refine ⟨front, chunk, back, rfl, hfailing, hfront, ?_, fun later => ?_⟩
  · rw [writeChunks_of_writes hopened hwritten]
    exact hfront
  · obtain ⟨hbatches, hfailure⟩ := append_cons_error hfront hfailing later
    rw [← hbatches] at hopened hwritten
    rw [writeChunks_of_writes hopened hwritten, hbatches, hfailure]
    rw [hbatches] at hopened hwritten
    rw [writeChunks_of_writes hopened hwritten]

theorem writeChunks_of_success (h : (writeChunks options directory items tree).failure = none) :
    let files := (options.batches items).flatten
    let run := writeChunks options directory items tree
    items.map options.generateChunk = (options.batches items).map .ok ∧
      run.paths = files.map (fun file => Path.join directory file.name) ∧
      run.tree.current = tree.current ∧
      (items ≠ [] → ∀ location ∈ tree.chain directory,
        tree.get? location = none ∨ tree.get? location = some .directory) ∧
      ∀ location, run.tree.get? location =
        (lastWrittenTo tree directory location files).elim
          (if items ≠ [] ∧ location ∈ tree.chain directory then some .directory
            else tree.get? location)
          fun file => some (.file file.content) := by
  have hfile : ∀ path cause,
      (writeChunks options directory items tree).failure ≠ some (.file path cause) := by
    intro path cause hsame
    rw [h] at hsame
    cases hsame
  obtain ⟨base, written, hopened, hwritten⟩ := writes_of_writeChunks hfile
  rw [writeChunks_of_writes hopened hwritten] at h ⊢
  have hall := generateChunk_of_firstFailure h
  obtain ⟨hcurrent, -⟩ := writeAll_keeps hwritten
  cases items with
  | nil =>
    cases hopened
    cases hwritten
    refine ⟨rfl, rfl, rfl, fun hne => absurd rfl hne, fun location => ?_⟩
    have hno : ¬(([] : List Chunk) ≠ [] ∧ location ∈ tree.chain directory) :=
      fun hboth => hboth.1 rfl
    show tree.get? location = if ([] : List Chunk) ≠ [] ∧ location ∈ tree.chain directory then
      some .directory else tree.get? location
    rw [if_neg hno]
  | cons chunk items =>
    have hbase : tree.createDirectories directory = (none, base) := by
      cases hbatches : options.batches (chunk :: items) with
      | nil =>
        rw [hbatches] at hall
        cases hall
      | cons files batches =>
        rw [hbatches] at hopened
        exact hopened
    obtain ⟨hgrown, -⟩ := createDirectories_eq_none hbase
    refine ⟨hall, rfl, hcurrent.trans hgrown.hcurrent, fun _ location hlocation => ?_, fun location => ?_⟩
    · exact createDirectories_chain_free hbase hlocation
    · have hlast := lastWrittenTo_congr hgrown.hcurrent directory location
        (options.batches (chunk :: items)).flatten
      dsimp only
      rw [writeAll_get? hwritten, hlast, createDirectories_get? hbase]
      by_cases hlocation : location ∈ tree.chain directory
      · rw [if_pos hlocation, if_pos ⟨List.cons_ne_nil chunk items, hlocation⟩]
      · rw [if_neg hlocation, if_neg fun hboth => hlocation hboth.2]

/-- A chunk that fails ends the run at its boundary: the run is that over the chunks before it, which is
no run at all if it is the first, and nothing behind it counts. If no chunk and no write fails, then the
directory is made if there is any chunk, each place that a file leads to holds the last one written to
it, and every other place is as before. -/
theorem writeChunks_boundary (options : Options) (directory input : Text) (tree : FileTree) :
    let run := writeChunks options directory (chunks input) tree
    (∀ failure, run.failure = some failure → failure.OfChunk →
      ∃ k chunk, (chunks input)[k]? = some chunk ∧ options.generateChunk chunk = .error failure ∧
        (writeChunks options directory ((chunks input).take k) tree).failure = none ∧
        run = { writeChunks options directory ((chunks input).take k) tree with
          failure := some failure } ∧
        (k = 0 → run.tree = tree ∧ run.paths = []) ∧
        (∀ later, writeChunks options directory ((chunks input).take (k + 1) ++ later) tree = run) ∧
        ((∃ cause, failure = .unreadable cause) → (chunks input).length = k + 1) ∧
        ((∃ table column cause, failure = .column table column cause) →
          ∃ front back, input = front ++ back ∧ chunks front = (chunks input).take (k + 1) ∧
            ∀ more, writeChunks options directory (chunks (front ++ more)) tree = run)) ∧
    (run.failure = none →
      ∃ batches : List (List ModelFile), (chunks input).map options.generateChunk = batches.map .ok ∧
        run.paths = batches.flatten.map (fun file => Path.join directory file.name) ∧
        run.tree.current = tree.current ∧
        (chunks input ≠ [] → ∀ location ∈ tree.chain directory,
          tree.get? location = none ∨ tree.get? location = some .directory) ∧
        ∀ location, run.tree.get? location =
          (lastWrittenTo tree directory location batches.flatten).elim
            (if chunks input ≠ [] ∧ location ∈ tree.chain directory then some .directory
              else tree.get? location)
            fun file => some (.file file.content)) := by
  intro run
  refine ⟨fun failure hrun hchunk => ?_, fun hrun => ⟨_, writeChunks_of_success hrun⟩⟩
  obtain ⟨front, chunk, back, hitems, hfailing, hfront, hbefore, hlater⟩ :=
    writeChunks_of_failure hchunk hrun
  have hstop : ∀ later, writeChunks options directory (front ++ chunk :: later) tree = run := by
    intro later
    show _ = writeChunks options directory (chunks input) tree
    rw [hitems, hlater later, hlater back]
  have htake : (chunks input).take front.length = front := by rw [hitems, List.take_left]
  have htakeSucc : (chunks input).take (front.length + 1) = front ++ [chunk] := by
    rw [hitems, List.take_append, List.take_of_length_le (by omega), Nat.add_sub_cancel_left]
    rfl
  have hrunFront : run =
      { writeChunks options directory front tree with failure := some failure } := by
    rw [← hstop [], hlater []]
  refine ⟨front.length, chunk, ?_, hfailing, ?_, ?_, ?_, ?_, ?_, ?_⟩
  · rw [hitems, List.getElem?_append_right le_rfl, Nat.sub_self]
    rfl
  · rw [htake]
    exact hbefore
  · rw [htake]
    exact hrunFront
  · intro hzero
    rw [List.length_eq_zero_iff.1 hzero] at hrunFront
    rw [hrunFront]
    exact ⟨rfl, rfl⟩
  · intro later
    rw [htakeSucc, List.append_assoc]
    exact hstop later
  · rintro ⟨cause, rfl⟩
    cases generateChunk_unreadable hfailing
    have hback := chunks_error_last hitems
    rw [hitems, hback, List.length_append]
    rfl
  · rintro ⟨table, column, cause, rfl⟩
    have hreadable : ∀ cause, .error cause ∉ (chunks input).take (front.length + 1) := by
      intro cause hmem
      rw [htakeSucc, List.mem_append, List.mem_singleton] at hmem
      rcases hmem with hmem | rfl
      · exact readable_of_firstFailure hfront cause hmem
      · cases hfailing
    obtain ⟨start, rest, hinput, hstart⟩ := chunks_take input (front.length + 1) hreadable
    refine ⟨start, rest, hinput, hstart, fun more => ?_⟩
    rw [chunks_append (hstart ▸ hreadable), hstart, htakeSucc, List.append_assoc]
    exact hstop (chunks more)

def emptyTree : FileTree :=
  { nodes := [], current := [] }

def mappedDocument : Text :=
  "[\x7b\"type\":\"create_table\",\"name\":\"t\",\"columns\":" ++
    "[\x7b\"type\":\"column\",\"name\":\"a\",\"data_type\":\x7b\"type\":\"INT\"\x7d\x7d]\x7d]"

def unmappedDocument : Text :=
  "[\x7b\"type\":\"create_table\",\"name\":\"u\",\"columns\":" ++
    "[\x7b\"type\":\"column\",\"name\":\"b\"\x7d]\x7d]"

def verbatimOptions : Options :=
  { inflect := .verbatim, indentWidth := 2 }

theorem writeChunks_boundary_unmapped :
    (writeChunks verbatimOptions "d" (chunks (mappedDocument ++ unmappedDocument)) emptyTree).failure =
        some (.column "u" "b" .emptyType) ∧
      (Failure.column "u" "b" .emptyType).OfChunk ∧
      (writeChunks verbatimOptions "d" (chunks mappedDocument) emptyTree).failure = none ∧
      (∃ k, writeChunks verbatimOptions "d" (chunks (mappedDocument ++ unmappedDocument)) emptyTree =
        { writeChunks verbatimOptions "d" ((chunks (mappedDocument ++ unmappedDocument)).take k)
            emptyTree with failure := some (.column "u" "b" .emptyType) }) ∧
      ∃ batches : List (List ModelFile),
        (chunks mappedDocument).map verbatimOptions.generateChunk = batches.map .ok ∧
          (writeChunks verbatimOptions "d" (chunks mappedDocument) emptyTree).paths =
            batches.flatten.map fun file => Path.join "d" file.name := by
  have hrun : (writeChunks verbatimOptions "d" (chunks (mappedDocument ++ unmappedDocument))
      emptyTree).failure = some (.column "u" "b" .emptyType) := by decide +kernel
  have hchunk : (Failure.column "u" "b" .emptyType).OfChunk := .column "u" "b" .emptyType
  have hcomplete : (writeChunks verbatimOptions "d" (chunks mappedDocument) emptyTree).failure = none := by
    decide +kernel
  obtain ⟨k, chunk, -, -, -, hstop, -⟩ :=
    (writeChunks_boundary verbatimOptions "d" (mappedDocument ++ unmappedDocument) emptyTree).1
      (.column "u" "b" .emptyType) hrun hchunk
  obtain ⟨batches, hbatches, hpaths, -⟩ :=
    (writeChunks_boundary verbatimOptions "d" mappedDocument emptyTree).2 hcomplete
  exact ⟨hrun, hchunk, hcomplete, ⟨k, hstop⟩, batches, hbatches, hpaths⟩

end TableModel
