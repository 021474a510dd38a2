import TableModel.Files.Writing
import TableModel.Proofs.Files.Directories

/-!
# Writing files

A file that is written stands at the place of its path, and no directory comes or goes. So after files
have been written one by one, a place holds what was last written to it, or what stood there before.
-/

namespace TableModel

namespace FileTree

open TableModel.Path

variable {tree written : FileTree} {path content : Text}

/-- A path along which a file can be found: it can be followed, and its last name can be that of a file. -/
structure Leads (tree : FileTree) (path : Text) : Prop where
  hnonempty : path.isEmpty = false
  hpath : requirePath path = .ok ()
  hslash : endsWithSlash path = false
  hnames : ∃ front name, names path = front ++ [name] ∧
    name ≠ here ∧ name ≠ above ∧ name.utf8Size ≤ greatestNameSize ∧
    tree.Passable (tree.origin path) front ∧ tree.get? (resolve (tree.origin path) front) = some .directory

theorem Leads.place_ne_nil (h : tree.Leads path) : tree.place path ≠ [] := by
  obtain ⟨front, name, hnames, hhere, habove, -⟩ := h.hnames
  rw [place, hnames, resolve_concat, step_of_ne hhere habove]
  exact List.concat_ne_nil name _

theorem writeFile_eq_ok (h : tree.writeFile path content = .ok written) :
    tree.Leads path ∧ written = tree.put (tree.place path) (.file content) ∧
      tree.get? (tree.place path) ≠ some .directory := by
  rw [writeFile] at h
  split_ifs at h with hempty
  obtain ⟨⟨⟩, hpath, hwrite⟩ := bind_eq_ok.1 h
  obtain ⟨⟨parent, name⟩, hlast, hrest⟩ := bind_eq_ok.1 hwrite
  dsimp only at hrest
  split_ifs at hrest with hdots hsize
  obtain ⟨hhere, habove, hslash⟩ : name ≠ here ∧ name ≠ above ∧ ¬endsWithSlash path = true := by
    simpa only [not_or] using hdots
  obtain ⟨front, hnames, rfl, hpassable, hdirectory⟩ := followToLast_eq_ok hlast hhere
  have hplace : tree.place path = resolve (tree.origin path) front ++ [name] := by
    rw [place, hnames, resolve_concat, step_of_ne hhere habove]
  rw [hplace]
  split at hrest
  · cases hrest
  · rename_i hnode
    cases hrest
    exact ⟨⟨Bool.eq_false_iff.2 hempty, hpath, Bool.eq_false_iff.2 hslash,
      front, name, hnames, hhere, habove, Nat.not_lt.1 hsize, hpassable, hdirectory⟩, rfl, hnode⟩

theorem writeFile_get? (h : tree.writeFile path content = .ok written) (location : Location) :
    written.get? location =
      if tree.place path = location then some (.file content) else tree.get? location := by
  obtain ⟨hleads, rfl, -⟩ := writeFile_eq_ok h
  by_cases hlocation : tree.place path = location
  · rw [if_pos hlocation, ← hlocation, get?_put_self tree hleads.place_ne_nil]
  · rw [if_neg hlocation, get?_put_of_ne tree (Ne.symm hlocation)]

theorem writeFile_current (h : tree.writeFile path content = .ok written) : written.current = tree.current := by
  obtain ⟨-, hput, -⟩ := writeFile_eq_ok h
  rw [hput]
  rfl

theorem writeFile_directory (h : tree.writeFile path content = .ok written) (location : Location)
    (hdirectory : tree.get? location = some .directory) : written.get? location = some .directory := by
  obtain ⟨-, -, hnode⟩ := writeFile_eq_ok h
  have hne : tree.place path ≠ location := by
    rintro rfl
    exact hnode hdirectory
  rw [writeFile_get? h, if_neg hne, hdirectory]

theorem place_congr (h : written.current = tree.current) (path : Text) :
    written.place path = tree.place path := by
  rw [place, place, origin, origin, h]

end FileTree

open FileTree

variable {directory : Text} {files : List ModelFile} {tree written : FileTree}

def writeAll (directory : Text) (files : List ModelFile) (tree : FileTree) : Except FileError FileTree :=
  files.foldlM (fun tree file => tree.writeFile (Path.join directory file.name) file.content) tree

theorem writeAll_cons_eq_ok {file : ModelFile} :
    writeAll directory (file :: files) tree = .ok written ↔
      ∃ middle, tree.writeFile (Path.join directory file.name) file.content = .ok middle ∧
        writeAll directory files middle = .ok written := by
  rw [writeAll, List.foldlM_cons, bind_eq_ok]
  rfl

theorem writeAll_append_eq_ok {more : List ModelFile} :
    writeAll directory (files ++ more) tree = .ok written ↔
      ∃ middle, writeAll directory files tree = .ok middle ∧
        writeAll directory more middle = .ok written := by
  rw [writeAll, List.foldlM_append, bind_eq_ok]
  rfl

theorem writeAll_keeps (h : writeAll directory files tree = .ok written) :
    written.current = tree.current ∧
      ∀ location, tree.get? location = some .directory → written.get? location = some .directory := by
  induction files generalizing tree with
  | nil =>
    cases h
    exact ⟨rfl, fun _ hdirectory => hdirectory⟩
  | cons file files ih =>
    obtain ⟨middle, hfile, hfiles⟩ := writeAll_cons_eq_ok.1 h
    obtain ⟨hcurrent, hdirectories⟩ := ih hfiles
    refine ⟨hcurrent.trans (writeFile_current hfile), fun location hdirectory => ?_⟩
    exact hdirectories location (writeFile_directory hfile location hdirectory)

/-- All files can be written, or there is a first that cannot. -/
theorem writeAll_cases (directory : Text) (files : List ModelFile) (tree : FileTree) :
    (∃ written, writeAll directory files tree = .ok written) ∨
      ∃ front file back written cause, files = front ++ file :: back ∧
        writeAll directory front tree = .ok written ∧
        written.writeFile (Path.join directory file.name) file.content = .error cause := by
  induction files generalizing tree with
  | nil => exact .inl ⟨tree, rfl⟩
  | cons file files ih =>
    cases hfile : tree.writeFile (Path.join directory file.name) file.content with
    | error cause => exact .inr ⟨[], file, files, tree, cause, rfl, rfl, hfile⟩
    | ok middle =>
      rcases ih middle with ⟨written, hwritten⟩ | ⟨front, failing, back, written, cause, rfl, hfront, hfailing⟩
      · exact .inl ⟨written, writeAll_cons_eq_ok.2 ⟨middle, hfile, hwritten⟩⟩
      · have hcons : writeAll directory (file :: front) tree = .ok written :=
          writeAll_cons_eq_ok.2 ⟨middle, hfile, hfront⟩
        exact .inr ⟨file :: front, failing, back, written, cause, rfl, hcons, hfailing⟩

/-- The last of some files whose path leads to a place. -/
def lastWrittenTo (tree : FileTree) (directory : Text) (location : Location) (files : List ModelFile) :
    Option ModelFile :=
  files.reverse.find? fun file => tree.place (Path.join directory file.name) = location

theorem lastWrittenTo_congr {other : FileTree} (h : other.current = tree.current) (directory : Text)
    (location : Location) (files : List ModelFile) :
    lastWrittenTo other directory location files = lastWrittenTo tree directory location files := by
  simp only [lastWrittenTo, place_congr h]

theorem lastWrittenTo_cons (file : ModelFile) (location : Location) :
    lastWrittenTo tree directory location (file :: files) =
      (lastWrittenTo tree directory location files).or
        (if tree.place (Path.join directory file.name) = location then some file else none) := by
  rw [lastWrittenTo, List.reverse_cons, List.find?_append, List.find?_singleton, lastWrittenTo]
  simp only [decide_eq_true_eq]

theorem writeAll_get? (h : writeAll directory files tree = .ok written) (location : Location) :
    written.get? location =
      (lastWrittenTo tree directory location files).elim (tree.get? location)
        fun file => some (.file file.content) := by
  induction files generalizing tree with
  | nil =>
    cases h
    rfl
  | cons file files ih =>
    obtain ⟨middle, hfile, hfiles⟩ := writeAll_cons_eq_ok.1 h
    rw [ih hfiles, lastWrittenTo_congr (writeFile_current hfile), lastWrittenTo_cons]
    cases lastWrittenTo tree directory location files with
    | some later => rfl
    | none =>
      rw [writeFile_get? hfile, Option.none_or]
      by_cases hplace : tree.place (Path.join directory file.name) = location
      · rw [if_pos hplace, if_pos hplace]
        rfl
      · rw [if_neg hplace, if_neg hplace]

end TableModel
