import Mathlib.Data.List.Infix
import TableModel.Files.Tree
import TableModel.Proofs.Results

/-!
# Where paths lead

There are no links in a tree, so the place that a path leads to is a matter of its names and of where
it starts: each name goes one step down, one step up, or nowhere. What the tree decides is only whether
the path can be followed, which takes a directory at every place before the last. Everything that is
made or written at the end of a path is put at the place that it leads to, and no other place is
touched. All that is said about a run comes from these two facts.
-/

namespace TableModel

namespace Path

def step (location : Location) (name : Text) : Location :=
  if name = here then location
  else if name = above then location.dropLast
  else location ++ [name]

def resolve (start : Location) (names : List Text) : Location :=
  names.foldl step start

theorem resolve_cons (start : Location) (name : Text) (names : List Text) :
    resolve start (name :: names) = resolve (step start name) names :=
  rfl

theorem resolve_append (start : Location) (front back : List Text) :
    resolve start (front ++ back) = resolve (resolve start front) back :=
  List.foldl_append

theorem resolve_concat (start : Location) (front : List Text) (name : Text) :
    resolve start (front ++ [name]) = step (resolve start front) name :=
  resolve_append start front [name]

theorem step_of_ne {name : Text} (hhere : name ≠ here) (habove : name ≠ above) (location : Location) :
    step location name = location ++ [name] := by
  rw [step, if_neg hhere, if_neg habove]

theorem resolve_filter (start : Location) (names : List Text) :
    resolve start (names.filter (· ≠ here)) = resolve start names := by
  induction names generalizing start with
  | nil => rfl
  | cons name names ih =>
    rw [resolve_cons]
    by_cases hname : name = here
    · rw [List.filter_cons_of_neg (by simpa using hname), ih, step, if_pos hname]
    · rw [List.filter_cons_of_pos (by simpa using hname), resolve_cons, ih]

/-- The components of a path lead through places that its names lead through. -/
theorem resolve_prefix_components {start : Location} {path : Text} {part : List Text}
    (hpart : part <+: components path) (hne : part ≠ []) :
    ∃ front, front ≠ [] ∧ front <+: names path ∧ resolve start part = resolve start front := by
  rw [components] at hpart
  cases hnames : names path with
  | nil =>
    rw [hnames] at hpart
    exact absurd (List.prefix_nil.1 hpart) hne
  | cons first rest =>
    rw [hnames] at hpart
    dsimp only at hpart
    split at hpart
    · obtain ⟨front, hfront, rfl⟩ := List.prefix_filter_iff.1 hpart
      refine ⟨front, ?_, hfront, resolve_filter start front⟩
      rintro rfl
      exact hne rfl
    · obtain _ | ⟨name, part⟩ := part
      · exact absurd rfl hne
      · obtain ⟨rfl, htail⟩ := List.cons_prefix_cons.1 hpart
        obtain ⟨front, hfront, rfl⟩ := List.prefix_filter_iff.1 htail
        refine ⟨name :: front, List.cons_ne_nil name front, List.cons_prefix_cons.2 ⟨rfl, hfront⟩, ?_⟩
        rw [resolve_cons, resolve_cons, resolve_filter]

theorem prefix_of_mem_parents {path : Text} {part : List Text} (hpart : part ∈ parents path) :
    part <+: components path := by
  obtain ⟨i, -, rfl⟩ := List.mem_map.1 hpart
  exact List.take_prefix i (components path)

end Path

namespace FileTree

open TableModel.Path

variable {tree made written : FileTree} {start location : Location} {names : List Text}

def place (tree : FileTree) (path : Text) : Location :=
  resolve (tree.origin path) (Path.names path)

/-- Names can be followed: every place before the last is a directory, and no name is too long. -/
def Passable (tree : FileTree) : Location → List Text → Prop
  | _, [] => True
  | location, name :: names =>
    tree.get? location = some .directory ∧ name.utf8Size ≤ greatestNameSize ∧
      Passable tree (step location name) names

theorem passable_append {front back : List Text} :
    tree.Passable start (front ++ back) ↔
      tree.Passable start front ∧ tree.Passable (resolve start front) back := by
  induction front generalizing start with
  | nil => exact (and_iff_right trivial).symm
  | cons name front ih =>
    show _ ∧ _ ∧ tree.Passable (step start name) (front ++ back) ↔ (_ ∧ _ ∧ _) ∧ _
    rw [ih, resolve_cons, and_assoc, and_assoc]

theorem Passable.mono (hmono : ∀ place, tree.get? place = some .directory →
    made.get? place = some .directory) (h : tree.Passable start names) : made.Passable start names := by
  induction names generalizing start with
  | nil => trivial
  | cons name names ih =>
    obtain ⟨hdirectory, hsize, hnames⟩ := h
    exact ⟨hmono start hdirectory, hsize, ih hnames⟩

theorem requireDirectory_eq_ok : tree.requireDirectory location = .ok () ↔
    tree.get? location = some .directory := by
  rw [requireDirectory]
  split <;> simp_all

theorem requireDirectory_bind_eq_ok {α : Type} {next : Except FileError α} {a : α} :
    (do tree.requireDirectory location; next) = .ok a ↔
      tree.get? location = some .directory ∧ next = .ok a := by
  rw [bind_eq_ok]
  constructor
  · rintro ⟨⟨⟩, hrequire, hnext⟩
    exact ⟨requireDirectory_eq_ok.1 hrequire, hnext⟩
  · rintro ⟨hdirectory, hnext⟩
    exact ⟨(), requireDirectory_eq_ok.2 hdirectory, hnext⟩

theorem follow_eq_ok :
    tree.follow start names = .ok location ↔
      tree.Passable start names ∧ resolve start names = location := by
  induction names generalizing start with
  | nil =>
    rw [follow, Except.ok.injEq]
    exact (and_iff_right trivial).symm
  | cons name names ih =>
    show _ ↔ (_ ∧ _ ∧ _) ∧ _
    rw [follow, requireDirectory_bind_eq_ok, resolve_cons, and_assoc, and_assoc]
    apply and_congr_right
    intro _
    by_cases hhere : name = here
    · have hsize : name.utf8Size ≤ greatestNameSize := by rw [hhere]; decide
      rw [if_pos hhere, step, if_pos hhere, ih]
      exact (and_iff_right hsize).symm
    · by_cases habove : name = above
      · have hsize : name.utf8Size ≤ greatestNameSize := by rw [habove]; decide
        rw [if_neg hhere, if_pos habove, step, if_neg hhere, if_pos habove, ih]
        exact (and_iff_right hsize).symm
      · rw [if_neg hhere, if_neg habove, step_of_ne hhere habove]
        by_cases hsize : greatestNameSize < name.utf8Size
        · rw [if_pos hsize]
          exact iff_of_false (by rintro ⟨⟩) fun h => absurd h.1 (by omega)
        · rw [if_neg hsize, ih]
          exact (and_iff_right (by omega)).symm

theorem isDirectory_iff :
    tree.isDirectory start names = true ↔
      tree.Passable start names ∧ tree.get? (resolve start names) = some .directory := by
  rw [isDirectory]
  cases hfollow : tree.follow start names with
  | error cause =>
    refine iff_of_false (by rintro ⟨⟩) ?_
    rintro ⟨hpassable, -⟩
    rw [follow_eq_ok.2 ⟨hpassable, rfl⟩] at hfollow
    cases hfollow
  | ok location =>
    obtain ⟨hpassable, rfl⟩ := follow_eq_ok.1 hfollow
    simp [hpassable]

/-- The last of some names is found in the directory that the others lead to. -/
theorem followToLast_eq_ok {parent : Location} {name : Text}
    (h : tree.followToLast start names = .ok (parent, name)) (hname : name ≠ here) :
    ∃ front, names = front ++ [name] ∧ parent = resolve start front ∧
      tree.Passable start front ∧ tree.get? (resolve start front) = some .directory := by
  obtain ⟨place, hfollow, hrest⟩ := bind_eq_ok.1 h
  obtain ⟨hdirectory, hlast⟩ := requireDirectory_bind_eq_ok.1 hrest
  obtain ⟨hpassable, rfl⟩ := follow_eq_ok.1 hfollow
  rcases List.eq_nil_or_concat names with rfl | ⟨front, last, rfl⟩
  · cases hlast
    exact absurd rfl hname
  · rw [List.concat_eq_append] at *
    rw [List.dropLast_concat] at *
    rw [List.getLast?_concat] at hlast
    cases hlast
    exact ⟨front, rfl, rfl, hpassable, hdirectory⟩

theorem followToLast_concat {front : List Text} (hpassable : tree.Passable start front)
    (hdirectory : tree.get? (resolve start front) = some .directory) (name : Text) :
    tree.followToLast start (front ++ [name]) = .ok (resolve start front, name) := by
  refine bind_eq_ok.2 ⟨resolve start front, ?_, ?_⟩
  · rw [List.dropLast_concat]
    exact follow_eq_ok.2 ⟨hpassable, rfl⟩
  · rw [List.getLast?_concat]
    exact requireDirectory_bind_eq_ok.2 ⟨hdirectory, rfl⟩

end FileTree

/-! ### Names in a directory -/

theorem Text.splitAt_eq_splitOnP (separator : Char) (t : Text) :
    splitAt separator t = t.splitOnP (· == separator) := by
  induction t with
  | nil => rfl
  | cons c t ih =>
    obtain ⟨part, parts, hparts⟩ := List.exists_cons_of_ne_nil (List.splitOnP_ne_nil (· == separator) t)
    rw [splitAt, ih, List.splitOnP_cons_eq_if_modifyHead, hparts, List.modifyHead_cons]
    simp only [beq_iff_eq]

namespace Path

variable {directory name : Text}

theorem names_append (front back : Text) : names (front ++ '/' :: back) = names front ++ names back := by
  simp only [names, Text.splitAt_eq_splitOnP]
  rw [List.splitOnP_append_cons (p := (· == '/')) front back (by decide), List.filter_append]

theorem names_of_not_mem (hname : '/' ∉ name) (hne : name ≠ []) : names name = [name] := by
  have hsplit : name.splitOnP (· == '/') = [name] := by
    refine List.splitOnP_eq_singleton fun c hc => ?_
    exact beq_false_of_ne fun heq => hname (heq ▸ hc)
  rw [names, Text.splitAt_eq_splitOnP, hsplit, List.filter_cons_of_pos (by simpa using hne), List.filter_nil]

theorem isAbsolute_of_not_mem (hname : '/' ∉ name) : isAbsolute name = false := by
  cases name with
  | nil => rfl
  | cons c name =>
    have hc : c ≠ '/' := fun heq => hname (heq ▸ List.mem_cons_self)
    simpa [isAbsolute] using hc

theorem isAbsolute_append {front : Text} (h : front ≠ []) (back : Text) :
    isAbsolute (front ++ back) = isAbsolute front := by
  rw [isAbsolute, isAbsolute, List.head?_append_of_ne_nil front h]

theorem names_join (hrelative : isAbsolute name = false) (directory : Text) :
    names (join directory name) = names directory ++ names name ∧
      isAbsolute (join directory name) = isAbsolute directory := by
  rw [join, hrelative, if_neg Bool.false_ne_true]
  by_cases hempty : directory = []
  · subst hempty
    exact ⟨rfl, hrelative⟩
  · rw [List.isEmpty_eq_false_iff.2 hempty, Bool.false_or]
    split_ifs with hslash
    · refine ⟨?_, isAbsolute_append hempty name⟩
      obtain ⟨front, rfl⟩ : ∃ front, directory = front ++ ['/'] := List.getLast?_eq_some_iff.1 (beq_iff_eq.1 hslash)
      have hnil : names [] = [] := rfl
      rw [List.append_assoc, List.singleton_append, names_append, names_append, hnil, List.append_nil]
    · refine ⟨?_, ?_⟩
      · have hsplit := names_append directory name
        simpa using hsplit
      · rw [List.append_assoc, isAbsolute_append hempty]

/-- A name without a slash is the last one of its path, behind those of the directory. -/
theorem join_of_not_mem (hname : '/' ∉ name) (hne : name ≠ []) (directory : Text) :
    names (join directory name) = names directory ++ [name] ∧
      isAbsolute (join directory name) = isAbsolute directory := by
  rw [← names_of_not_mem hname hne]
  exact names_join (isAbsolute_of_not_mem hname) directory

end Path

end TableModel
