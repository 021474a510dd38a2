import TableModel.Files.Host
import TableModel.Proofs.Files.Runs
import TableModel.Proofs.Text.Lines

/-!
# File trees as hosts

A file tree answers everything that the program asks of its host. The loops that run on a host make of a tree what the
functions on trees make of it, and they tell of each file that is written when it is written. A host is only given
paths as texts, so the directories above a path have to be written out and taken apart again, and each of them has to be
a path that can be followed.
-/

namespace TableModel

/-- A run on a file tree: the tree, what stands on the input, and what was printed and told so far. -/
structure Session where
  tree : FileTree
  input : Text
  printed : Text := []
  told : List Event := []

def Session.change (session : Session) : Except FileError FileTree → Except FileError Unit × Session
  | .ok tree => (.ok (), { session with tree })
  | .error cause => (.error cause, session)

namespace FileTree

def makeDirectoryAt (tree : FileTree) (path : Text) : Except FileError FileTree :=
  if path.isEmpty then .error .notFound
  else do
    requirePath path
    tree.makeDirectory (tree.origin path) (Path.names path)

def isDirectoryAt (tree : FileTree) (path : Text) : Bool :=
  match requirePath path with
  | .ok () => tree.isDirectory (tree.origin path) (Path.names path)
  | .error _ => false

end FileTree

def Host.onTree : Host (StateM Session) where
  makeDirectory path session := session.change (session.tree.makeDirectoryAt path)
  isDirectory path session := (session.tree.isDirectoryAt path, session)
  writeFile path content session := session.change (session.tree.writeFile path content)
  readFile path session := (session.tree.readFile path, session)
  readInput session := (.ok session.input, session)
  print text session := ((), { session with printed := session.printed ++ text })
  tell event session := ((), { session with told := session.told ++ [event] })

/-! ### Directories above a path -/

theorem Text.utf8Size_le_of_sublist {part whole : Text} (h : part.Sublist whole) : part.utf8Size ≤ whole.utf8Size := by
  induction h with
  | slnil => exact le_rfl
  | cons c _ ih => exact ih.trans (Nat.le_add_left _ _)
  | cons_cons c _ ih => exact Nat.add_le_add_left ih _

namespace FileTree

theorem requirePath_eq_ok {path : Text} :
    requirePath path = .ok () ↔ '\x00' ∉ path ∧ path.utf8Size ≤ greatestPathSize := by
  rw [requirePath]
  split_ifs with hnul hsize
  · exact iff_of_false nofun fun h => h.1 (List.contains_iff_mem.1 hnul)
  · exact iff_of_false nofun fun h => Nat.not_lt.2 h.2 hsize
  · exact iff_of_true rfl ⟨fun hmem => hnul (List.contains_iff_mem.2 hmem), Nat.not_lt.1 hsize⟩

theorem requirePath_ne_notFound (path : Text) : requirePath path ≠ .error .notFound := by
  rw [requirePath]
  split_ifs <;> exact nofun

theorem requirePath_of_sublist {part whole : Text} (h : part.Sublist whole) (hwhole : requirePath whole = .ok ()) :
    requirePath part = .ok () := by
  obtain ⟨hnul, hsize⟩ := requirePath_eq_ok.1 hwhole
  exact requirePath_eq_ok.2 ⟨fun hmem => hnul (h.subset hmem), (Text.utf8Size_le_of_sublist h).trans hsize⟩

end FileTree

namespace Path

variable {path : Text} {part parts : List Text}

theorem intercalate_sublist (h : part.Sublist parts) :
    (List.intercalate ['/'] part).Sublist (List.intercalate ['/'] parts) := by
  induction h with
  | slnil => exact .slnil
  | @cons part parts name h ih =>
    by_cases hnil : parts = []
    · rw [hnil] at h
      rw [List.sublist_nil.1 h]
      exact List.nil_sublist _
    · rw [List.intercalate_cons_of_ne_nil hnil]
      exact ih.trans (List.sublist_append_right _ _)
  | @cons_cons part parts name h ih =>
    by_cases hnil : part = []
    · rw [hnil, List.intercalate_singleton]
      by_cases hparts : parts = []
      · rw [hparts, List.intercalate_singleton]
      · rw [List.intercalate_cons_of_ne_nil hparts, List.append_assoc]
        exact List.sublist_append_left _ _
    · have hparts : parts ≠ [] := by
        rintro rfl
        exact hnil (List.sublist_nil.1 h)
      rw [List.intercalate_cons_of_ne_nil hnil, List.intercalate_cons_of_ne_nil hparts]
      exact ih.append_left _

theorem names_eq (path : Text) : Path.names path = (path.splitOn '/').filter (!·.isEmpty) := by
  rw [Path.names, Text.splitAt_eq_splitOnP]
  rfl

theorem of_mem_names {name : Text} (h : name ∈ Path.names path) : name ≠ [] ∧ '/' ∉ name := by
  rw [names_eq, List.mem_filter] at h
  exact ⟨by simpa using h.2, Text.not_mem_of_mem_splitOn h.1⟩

theorem names_cons_slash (rest : Text) : Path.names ('/' :: rest) = Path.names rest :=
  names_append [] rest

/-- Names that stand in a path can be written as a path without anything that the path does not have. -/
theorem ofNames_sublist (h : part.Sublist (Path.names path)) : (ofNames (isAbsolute path) part).Sublist path := by
  have hjoin {t : Text} (ht : part.Sublist (Path.names t)) : (List.intercalate ['/'] part).Sublist t := by
    rw [names_eq] at ht
    have hsublist := intercalate_sublist (ht.trans List.filter_sublist)
    rwa [List.intercalate_splitOn] at hsublist
  cases habsolute : isAbsolute path with
  | false => exact hjoin h
  | true =>
    obtain ⟨rest, rfl⟩ : ∃ rest, path = '/' :: rest := List.head?_eq_some_iff.1 (beq_iff_eq.1 habsolute)
    rw [names_cons_slash] at h
    exact (hjoin h).cons_cons '/'

/-- A path that can be followed, with where it starts and its names. -/
structure Spelled (absolute : Bool) (path : Text) (names : List Text) : Prop where
  hne : path ≠ []
  hpath : FileTree.requirePath path = .ok ()
  habsolute : isAbsolute path = absolute
  hnames : Path.names path = names

theorem spelled_ofNames (h : part.Sublist (Path.names path)) (hne : part ≠ [])
    (hpath : FileTree.requirePath path = .ok ()) :
    Spelled (isAbsolute path) (ofNames (isAbsolute path) part) part := by
  have hsound : ∀ name ∈ part, name ≠ [] ∧ '/' ∉ name := fun name hname => of_mem_names (h.subset hname)
  have hnames : Path.names (List.intercalate ['/'] part) = part := by
    rw [names_eq, List.splitOn_intercalate '/' (fun name hname => (hsound name hname).2) hne, List.filter_eq_self]
    exact fun name hname => by simpa using (hsound name hname).1
  obtain ⟨first, rest, rfl⟩ := List.exists_cons_of_ne_nil hne
  obtain ⟨hfirst, hslash⟩ := hsound first List.mem_cons_self
  obtain ⟨back, hback⟩ : ∃ back, List.intercalate ['/'] (first :: rest) = first ++ back := by
    cases rest with
    | nil => exact ⟨[], by rw [List.intercalate_singleton, List.append_nil]⟩
    | cons next rest => exact ⟨_, List.intercalate_cons_cons.trans (List.append_assoc ..)⟩
  have hsublist := ofNames_sublist h
  cases habsolute : isAbsolute path with
  | false =>
    rw [habsolute] at hsublist
    have hrelative : isAbsolute (first ++ back) = false := by
      rw [isAbsolute_append hfirst, isAbsolute_of_not_mem hslash]
    refine ⟨?_, FileTree.requirePath_of_sublist hsublist hpath, ?_, hnames⟩
    · show List.intercalate ['/'] (first :: rest) ≠ []
      rw [hback]
      exact List.append_ne_nil_of_left_ne_nil hfirst back
    · show isAbsolute (List.intercalate ['/'] (first :: rest)) = false
      rw [hback, hrelative]
  | true =>
    rw [habsolute] at hsublist
    refine ⟨List.cons_ne_nil _ _, FileTree.requirePath_of_sublist hsublist hpath, rfl, ?_⟩
    exact (names_cons_slash _).trans hnames

theorem components_sublist (path : Text) : (components path).Sublist (Path.names path) := by
  rw [components]
  cases Path.names path with
  | nil => exact .slnil
  | cons first rest =>
    dsimp only
    split_ifs
    · exact List.filter_sublist
    · exact List.filter_sublist.cons_cons first

theorem ne_nil_of_mem_parents (h : part ∈ parents path) : part ≠ [] := by
  obtain ⟨i, hi, rfl⟩ := List.mem_map.1 h
  obtain ⟨k, hk, rfl⟩ := List.mem_drop_iff_getElem.1 (List.mem_reverse.1 hi)
  rw [List.length_range] at hk
  rw [List.getElem_range, Ne, List.take_eq_nil_iff, not_or]
  exact ⟨by omega, List.ne_nil_of_length_pos (by omega)⟩

theorem spelled_directories (hne : path ≠ []) (hpath : FileTree.requirePath path = .ok ()) :
    List.Forall₂ (Spelled (isAbsolute path)) (path :: parentPaths path) (Path.names path :: parents path) := by
  refine .cons ⟨hne, hpath, rfl, rfl⟩ ?_
  rw [parentPaths, List.forall₂_map_left_iff, List.forall₂_same]
  intro part hpart
  have hsublist := (prefix_of_mem_parents hpart).sublist.trans (components_sublist path)
  exact spelled_ofNames hsublist (ne_nil_of_mem_parents hpart) hpath

end Path

namespace FileTree

open TableModel.Path

variable {tree : FileTree} {absolute : Bool} {path : Text} {names : List Text}

theorem makeDirectoryAt_of_spelled (h : Spelled absolute path names) :
    tree.makeDirectoryAt path = tree.makeDirectory (if absolute then [] else tree.current) names := by
  have hempty : ¬path.isEmpty = true := by simpa using h.hne
  rw [makeDirectoryAt, if_neg hempty, h.hpath, origin, h.habsolute, h.hnames]
  rfl

theorem isDirectoryAt_of_spelled (h : Spelled absolute path names) :
    tree.isDirectoryAt path = tree.isDirectory (if absolute then [] else tree.current) names := by
  rw [isDirectoryAt, h.hpath, origin, h.habsolute, h.hnames]

end FileTree

/-! ### The loops on a tree -/

namespace Host

open FileTree TableModel.Path

variable {absolute : Bool} {paths : List Text} {routes : List (List Text)} {path : Text} {names : List Text}

theorem bind_apply {α β : Type} (x : StateM Session α) (f : α → StateM Session β) (session : Session) :
    (x >>= f) session = f (x session).1 (x session).2 :=
  rfl

theorem settle_onTree (h : Spelled absolute path names) (cause : FileError) (session : Session) :
    onTree.settle path cause session =
      (if session.tree.isDirectory (if absolute then [] else session.tree.current) names then none else some cause,
        session) := by
  rw [← isDirectoryAt_of_spelled h]
  rfl

theorem makeDirectories_onTree (h : List.Forall₂ (Spelled absolute) paths routes) (session : Session) :
    onTree.makeDirectories paths session =
      let made := session.tree.makeDirectories (if absolute then [] else session.tree.current) routes
      (made.1, { session with tree := made.2 }) := by
  induction h generalizing session with
  | nil => rfl
  | @cons path names paths routes hpath _ ih =>
    have hmake (session : Session) : onTree.makeDirectory path session =
        session.change (session.tree.makeDirectory (if absolute then [] else session.tree.current) names) := by
      rw [← makeDirectoryAt_of_spelled hpath]
      rfl
    rw [Host.makeDirectories, FileTree.makeDirectories, bind_apply, hmake]
    cases hfirst : session.tree.makeDirectory (if absolute then [] else session.tree.current) names with
    | ok tree => rfl
    | error cause =>
      by_cases hcause : cause = .notFound
      · subst hcause
        dsimp only [Session.change]
        rw [bind_apply, ih]
        rcases houter : session.tree.makeDirectories (if absolute then [] else session.tree.current) routes with
          ⟨_ | cause, tree⟩
        · have hcurrent : tree.current = session.tree.current := (makeDirectories_grown houter).hcurrent
          dsimp only
          rw [bind_apply, hmake]
          dsimp only
          rw [hcurrent]
          cases tree.makeDirectory (if absolute then [] else session.tree.current) names with
          | ok tree => rfl
          | error cause =>
            dsimp only [Session.change]
            rw [settle_onTree hpath, hcurrent]
        · rfl
      · have hsettle := settle_onTree hpath cause session
        cases cause with
        | notFound => exact absurd rfl hcause
        | _ => exact hsettle

theorem createDirectories_onTree (path : Text) (session : Session) :
    onTree.createDirectories path session =
      let made := session.tree.createDirectories path
      (made.1, { session with tree := made.2 }) := by
  rw [Host.createDirectories, FileTree.createDirectories]
  by_cases hempty : path.isEmpty
  · rw [if_pos hempty, if_pos hempty]
    rfl
  · rw [if_neg hempty, if_neg hempty]
    have hne : path ≠ [] := by simpa using hempty
    cases hpath : requirePath path with
    | ok => exact makeDirectories_onTree (spelled_directories hne hpath) session
    | error cause =>
      have hmake : onTree.makeDirectory path session = (.error cause, session) := by
        have hat : session.tree.makeDirectoryAt path = .error cause := by
          rw [makeDirectoryAt, if_neg hempty, hpath]
          rfl
        show session.change _ = _
        rw [hat]
        rfl
      have hsettle : onTree.settle path cause session = (some cause, session) := by
        show (if session.tree.isDirectoryAt path then none else some cause, session) = _
        rw [isDirectoryAt, hpath]
        rfl
      rw [Host.makeDirectories, bind_apply, hmake]
      cases cause with
      | notFound => exact absurd hpath (requirePath_ne_notFound path)
      | _ => exact hsettle

end Host

/-! ### Files and chunks on a tree -/

namespace Written

def told (run : Written) : List Event :=
  (run.paths ++ run.unfinished).map .generated

/-- What is told at the end of a run that has come to its end; `count` files were written before it. -/
def finish (run : Written) (count : Nat) (directory : Text) : List Event :=
  match run.failure with
  | none => [.finished (count + run.paths.length) directory]
  | some _ => []

end Written

namespace Host

variable {options : Options} {directory : Text}

theorem writeFiles_onTree (directory : Text) (done : List Text) (files : List ModelFile) (session : Session) :
    onTree.writeFiles directory files { session with told := session.told ++ done.map .generated } =
      let run := TableModel.writeFiles directory done files session.tree
      (run.failure, { session with tree := run.tree, told := session.told ++ run.told }) := by
  induction files generalizing done session with
  | nil =>
    rw [TableModel.writeFiles]
    dsimp only [Written.told]
    rw [List.append_nil]
    rfl
  | cons file files ih =>
    have hwrite (session : Session) : onTree.writeFile (Path.join directory file.name) file.content session =
        session.change (session.tree.writeFile (Path.join directory file.name) file.content) := rfl
    rw [Host.writeFiles, TableModel.writeFiles, bind_apply, hwrite]
    dsimp only
    cases session.tree.writeFile (Path.join directory file.name) file.content with
    | error cause => rfl
    | ok tree =>
      have hfiles := ih (done ++ [Path.join directory file.name]) { session with tree }
      rw [List.map_append, ← List.append_assoc] at hfiles
      exact hfiles

theorem writeModels_onTree (directory : Text) (files : List ModelFile) (session : Session) :
    onTree.writeModels directory files session =
      let run := TableModel.writeModels directory files session.tree
      (run.failure, { session with tree := run.tree, told := session.told ++ run.told }) := by
  rw [Host.writeModels, TableModel.writeModels, bind_apply, createDirectories_onTree]
  dsimp only
  rcases session.tree.createDirectories directory with ⟨_ | cause, base⟩
  · have hfiles := writeFiles_onTree directory [] files { session with tree := base }
    rw [List.map_nil, List.append_nil] at hfiles
    exact hfiles
  · show _ = (some (Failure.file directory cause), { session with tree := base, told := session.told ++ [] })
    rw [List.append_nil]
    rfl

theorem writeChunks_onTree (options : Options) (directory : Text) (count : Nat) (items : List Chunk)
    (session : Session) :
    onTree.writeChunks options directory count items session =
      let run := TableModel.writeChunks options directory items session.tree
      (run.failure,
        { session with tree := run.tree, told := session.told ++ (run.told ++ run.finish count directory) }) := by
  induction items generalizing count session with
  | nil => rfl
  | cons chunk items ih =>
    rw [Host.writeChunks]
    cases hchunk : options.generateChunk chunk with
    | error failure =>
      rw [writeChunks_cons_of_error hchunk]
      show _ = (some failure, { session with told := session.told ++ [] })
      rw [List.append_nil]
      rfl
    | ok files =>
      dsimp only
      rw [bind_apply, writeModels_onTree]
      rcases writeModels_cases directory files session.tree with
        ⟨base, written, hbase, hwritten⟩ | ⟨path, cause, hfailure⟩
      · rw [writeModels_of_writeAll hbase hwritten, writeChunks_cons_of_writeAll hchunk hbase hwritten]
        dsimp only
        rw [ih]
        dsimp only [Written.told, Written.finish]
        simp only [List.map_append, List.append_assoc, List.append_nil, List.length_append, List.length_map,
          Nat.add_assoc]
      · rw [writeChunks_cons_of_failure hchunk hfailure]
        dsimp only [Written.finish]
        rw [hfailure]
        dsimp only
        rw [List.append_nil]
        rfl

end Host

end TableModel
