import Mathlib.Data.List.Chain
import TableModel.Proofs.Files.Directories

/-!
# Making directories again

A directory that cannot be made cannot be made a second time either, and the second try makes nothing more: all that
could be made on the way is there already. Only the reason that is told may be another one. A file in the way of one
of the directories above is met by the first try when that directory is made, and by the second one, which finds all
before the file, on the way to the innermost directory.

Names are followed here to a directory, so that names may be cut in two wherever it suits.
-/

namespace TableModel

namespace FileTree

open TableModel.Path

variable {tree made : FileTree} {start location : Location} {names inner : List Text} {outer : List (List Text)}
variable {name path : Text} {cause : FileError}

/-! ### Directories at the end of names -/

def enter (tree : FileTree) (start : Location) (names : List Text) : Except FileError Location := do
  let location ← tree.follow start names
  tree.requireDirectory location
  .ok location

theorem requireDirectory_cases (tree : FileTree) (location : Location) :
    tree.requireDirectory location = .ok () ∨ tree.requireDirectory location = .error .notADirectory ∨
      tree.requireDirectory location = .error .notFound := by
  rw [requireDirectory]
  split
  · exact .inl rfl
  · exact .inr (.inl rfl)
  · exact .inr (.inr rfl)

theorem enter_of_requireDirectory_error (h : tree.requireDirectory start = .error cause) (names : List Text) :
    tree.enter start names = .error cause := by
  cases names with
  | nil => simp only [enter, follow, h, bind, Except.bind]
  | cons name names => simp only [enter, follow, h, bind, Except.bind]

theorem enter_nil (h : tree.requireDirectory start = .ok ()) : tree.enter start [] = .ok start := by
  simp only [enter, follow, h, bind, Except.bind]

theorem enter_cons (h : tree.requireDirectory start = .ok ()) (name : Text) (names : List Text) :
    tree.enter start (name :: names) =
      if name = here then tree.enter start names
      else if name = above then tree.enter start.dropLast names
      else if greatestNameSize < name.utf8Size then .error .nameTooLong
      else tree.enter (start ++ [name]) names := by
  simp only [enter, follow, h, bind, Except.bind]
  split_ifs <;> rfl

theorem requireDirectory_of_enter (h : tree.enter start names = .ok location) :
    tree.requireDirectory location = .ok () := by
  obtain ⟨place, -, h⟩ := bind_eq_ok.1 h
  obtain ⟨⟨⟩, hdirectory, h⟩ := bind_eq_ok.1 h
  cases h
  exact hdirectory

/-- Names are followed to a directory part by part. -/
theorem enter_append (start : Location) (front back : List Text) :
    tree.enter start (front ++ back) = tree.enter start front >>= fun location => tree.enter location back := by
  induction front generalizing start with
  | nil =>
    rw [List.nil_append]
    cases h : tree.requireDirectory start with
    | error cause =>
      rw [enter_of_requireDirectory_error h, enter_of_requireDirectory_error h]
      rfl
    | ok =>
      rw [enter_nil h]
      rfl
  | cons name front ih =>
    rw [List.cons_append]
    cases h : tree.requireDirectory start with
    | error cause =>
      rw [enter_of_requireDirectory_error h, enter_of_requireDirectory_error h]
      rfl
    | ok =>
      rw [enter_cons h, enter_cons h, ih, ih, ih]
      split_ifs <;> rfl

theorem enter_append_of_error (h : tree.enter start names = .error cause) (more : List Text) :
    tree.enter start (names ++ more) = .error cause := by
  rw [enter_append, h]
  rfl

theorem enter_filter (start : Location) (names : List Text) :
    tree.enter start (names.filter (· ≠ here)) = tree.enter start names := by
  induction names generalizing start with
  | nil => rfl
  | cons name names ih =>
    cases h : tree.requireDirectory start with
    | error cause => rw [enter_of_requireDirectory_error h, enter_of_requireDirectory_error h]
    | ok =>
      by_cases hname : name = here
      · rw [List.filter_cons_of_neg (by simpa using hname), ih, enter_cons h, if_pos hname]
      · rw [List.filter_cons_of_pos (by simpa using hname), enter_cons h, enter_cons h]
        simp only [ih]

theorem isDirectory_iff_enter : tree.isDirectory start names = true ↔
    ∃ location, tree.enter start names = .ok location := by
  rw [isDirectory, enter]
  cases tree.follow start names with
  | error cause => exact iff_of_false Bool.false_ne_true fun h => by cases h.choose_spec
  | ok location =>
    rw [beq_iff_eq, ← requireDirectory_eq_ok]
    show _ ↔ ∃ place, (do tree.requireDirectory location; .ok location) = Except.ok place
    cases tree.requireDirectory location with
    | error cause => exact iff_of_false (fun h => by cases h) fun h => by cases h.choose_spec
    | ok => exact iff_of_true rfl ⟨location, rfl⟩

theorem isDirectory_of_enter_error (h : tree.enter start names = .error cause) :
    tree.isDirectory start names = false := by
  rw [Bool.eq_false_iff]
  intro hdirectory
  obtain ⟨location, hlocation⟩ := isDirectory_iff_enter.1 hdirectory
  rw [h] at hlocation
  cases hlocation

theorem followToLast_eq (start : Location) (names : List Text) :
    tree.followToLast start names =
      tree.enter start names.dropLast >>= fun parent => .ok (parent, names.getLast?.getD here) := by
  rw [followToLast, enter]
  cases tree.follow start names.dropLast with
  | error cause => rfl
  | ok parent =>
    show (do tree.requireDirectory parent; _) = (do tree.requireDirectory parent; .ok parent) >>= _
    cases tree.requireDirectory parent with
    | error cause => rfl
    | ok => cases names.getLast? <;> rfl

/-! ### One directory -/

/-- The reason for which a directory cannot be made again. It is the same one, unless that was a file in the way: the
way to another directory then leads through that file. -/
def ToldAgain (cause again : FileError) : Prop :=
  again = cause ∨ cause = .alreadyExists ∧ again = .notADirectory

theorem makeDirectory_of_enter_error (h : tree.enter start names.dropLast = .error cause) :
    tree.makeDirectory start names = .error cause := by
  rw [makeDirectory, followToLast_eq, h]
  rfl

theorem enter_of_dropLast_error (h : tree.enter start names.dropLast = .error cause) :
    tree.enter start names = .error cause := by
  rcases List.eq_nil_or_concat' names with rfl | ⟨front, name, rfl⟩
  · exact h
  · rw [List.dropLast_concat] at h
    exact enter_append_of_error h [name]

theorem enter_nil_error (h : ∀ place, tree.enter location [] ≠ .ok place) :
    tree.enter location [] = .error .notFound ∨ tree.enter location [] = .error .notADirectory := by
  rcases requireDirectory_cases tree location with hplace | hplace | hplace
  · exact absurd (enter_nil hplace) (h location)
  · exact .inr (enter_of_requireDirectory_error hplace [])
  · exact .inl (enter_of_requireDirectory_error hplace [])

theorem enter_singleton_error (hrequire : tree.requireDirectory location = .ok ())
    (hmake : (if name = here ∨ name = above then Except.error FileError.alreadyExists
      else if greatestNameSize < name.utf8Size then .error .nameTooLong
      else match tree.get? (location ++ [name]) with
        | some _ => .error .alreadyExists
        | none => .ok (tree.put (location ++ [name]) .directory)) = .error cause)
    (h : ∀ place, tree.enter location [name] ≠ .ok place) :
    ∃ reason, tree.enter location [name] = .error reason ∧ (reason = .notFound ∨ ToldAgain cause reason) := by
  have hstand (place : Location) (hplace : tree.enter location [name] = tree.enter place [])
      (hcause : cause = .alreadyExists) : ∃ reason, tree.enter location [name] = .error reason ∧
        (reason = .notFound ∨ ToldAgain cause reason) := by
    rw [hplace] at h ⊢
    rcases enter_nil_error h with hnone | hfile
    · exact ⟨_, hnone, .inl rfl⟩
    · exact ⟨_, hfile, .inr (.inr ⟨hcause, rfl⟩)⟩
  by_cases hdots : name = here ∨ name = above
  · rw [if_pos hdots] at hmake
    cases hmake
    by_cases hhere : name = here
    · exact hstand location (by rw [enter_cons hrequire, if_pos hhere]) rfl
    · have habove := hdots.resolve_left hhere
      exact hstand location.dropLast (by rw [enter_cons hrequire, if_neg hhere, if_pos habove]) rfl
  · rw [if_neg hdots] at hmake
    obtain ⟨hhere, habove⟩ := not_or.1 hdots
    have henter := enter_cons hrequire name []
    rw [if_neg hhere, if_neg habove] at henter
    by_cases hsize : greatestNameSize < name.utf8Size
    · rw [if_pos hsize] at hmake henter
      exact ⟨_, henter, .inr (.inl (Except.error.inj hmake))⟩
    · rw [if_neg hsize] at hmake henter
      split at hmake
      · exact hstand _ henter (Except.error.inj hmake).symm
      · cases hmake

theorem enter_of_makeDirectory_error (h : tree.makeDirectory start names = .error cause)
    (hdirectory : tree.isDirectory start names = false) :
    ∃ reason, tree.enter start names = .error reason ∧ (reason = .notFound ∨ ToldAgain cause reason) := by
  have hne (place : Location) : tree.enter start names ≠ .ok place := by
    intro hplace
    rw [isDirectory_iff_enter.2 ⟨place, hplace⟩] at hdirectory
    cases hdirectory
  cases hparent : tree.enter start names.dropLast with
  | error reason =>
    rw [makeDirectory_of_enter_error hparent] at h
    exact ⟨reason, enter_of_dropLast_error hparent, .inr (.inl (Except.error.inj h))⟩
  | ok parent =>
    rcases List.eq_nil_or_concat' names with rfl | ⟨front, name, rfl⟩
    · exact absurd hparent (hne parent)
    rw [makeDirectory, followToLast_eq, hparent, List.getLast?_concat] at h
    rw [List.dropLast_concat] at hparent
    have henter : tree.enter start (front ++ [name]) = tree.enter parent [name] := by
      rw [enter_append, hparent]
      rfl
    rw [henter] at hne ⊢
    exact enter_singleton_error (requireDirectory_of_enter hparent) h hne

/-! ### A directory and all above it -/

def Through (names inner : List Text) : Prop :=
  inner.filter (· ≠ here) <+: names.dropLast.filter (· ≠ here)

theorem Through.enter_dropLast_error (h : Through names inner) (hinner : tree.enter start inner = .error cause) :
    tree.enter start names.dropLast = .error cause := by
  obtain ⟨rest, hrest⟩ := h
  rw [← enter_filter, ← hrest]
  rw [← enter_filter] at hinner
  exact enter_append_of_error hinner rest

theorem makeDirectories_of_isDirectory (h : tree.isDirectory start names = true) (outer : List (List Text)) :
    tree.makeDirectories start (names :: outer) = (none, tree) := by
  rw [makeDirectories, makeDirectory_of_isDirectory h]
  dsimp only
  rw [if_pos h]

/-- Directories that were made need not be made again. -/
theorem makeDirectories_made (h : tree.makeDirectories start outer = (none, made)) :
    made.makeDirectories start outer = (none, made) := by
  cases outer with
  | nil => rfl
  | cons names outer => exact makeDirectories_of_isDirectory (makeDirectories_isDirectory h) outer

/-- How making a directory and all above it fails: above it, or at the directory itself when all above it is there. -/
theorem makeDirectories_cons_eq_some (h : tree.makeDirectories start (names :: outer) = (some cause, made)) :
    tree.makeDirectories start outer = (some cause, made) ∨
      made.makeDirectory start names = .error cause ∧ made.isDirectory start names = false ∧
        (cause = .notFound → made.makeDirectories start outer = (none, made)) := by
  have hsettle {tree : FileTree} {reason : FileError}
      (hmake : ((if tree.isDirectory start names then none else some reason, tree) :
        Option FileError × FileTree) = (some cause, made)) :
      made.isDirectory start names = false ∧ reason = cause ∧ tree = made := by
    obtain ⟨hsome, rfl⟩ := Prod.mk.inj hmake
    split_ifs at hsome with hdirectory
    exact ⟨Bool.eq_false_iff.2 hdirectory, Option.some.inj hsome, rfl⟩
  rw [makeDirectories] at h
  dsimp only at h
  split at h
  · cases h
  · split at h
    · rename_i houter
      cases h
      exact .inl houter
    · rename_i houter
      split at h
      · cases h
      · rename_i hagain
        obtain ⟨hdirectory, rfl, rfl⟩ := hsettle h
        exact .inr ⟨hagain, hdirectory, fun _ => makeDirectories_made houter⟩
  · rename_i hother hmake
    obtain ⟨hdirectory, rfl, rfl⟩ := hsettle h
    exact .inr ⟨hmake, hdirectory, fun hnone => absurd hnone hother⟩

theorem makeDirectories_cons_of_error (h : tree.makeDirectory start names = .error cause)
    (hdirectory : tree.isDirectory start names = false)
    (houter : cause = .notFound → tree.makeDirectories start outer = (none, tree)) :
    tree.makeDirectories start (names :: outer) = (some cause, tree) := by
  rw [makeDirectories, h]
  by_cases hcause : cause = .notFound
  · subst hcause
    dsimp only
    rw [houter rfl]
    dsimp only
    rw [h, hdirectory]
    rfl
  · cases cause <;> simp_all

theorem makeDirectories_cons_of_outer (h : tree.makeDirectory start names = .error .notFound)
    (houter : tree.makeDirectories start outer = (some cause, made)) :
    tree.makeDirectories start (names :: outer) = (some cause, made) := by
  rw [makeDirectories, h]
  dsimp only
  rw [houter]

/-- A directory that could not be made is not made by trying again. The induction is on the directories above. Where
one of them fails, all before it are there at the second try, so that whatever leads through it fails with it. -/
theorem makeDirectories_again (hchain : List.IsChain Through (names :: outer))
    (h : tree.makeDirectories start (names :: outer) = (some cause, made)) :
    (∃ again, made.makeDirectories start (names :: outer) = (some again, made) ∧ ToldAgain cause again) ∧
      ∃ reason, made.enter start names = .error reason ∧ (reason = .notFound ∨ ToldAgain cause reason) := by
  induction outer generalizing names with
  | nil =>
    rcases makeDirectories_cons_eq_some h with houter | ⟨hmake, hdirectory, houter⟩
    · cases houter
    · refine ⟨⟨cause, makeDirectories_cons_of_error hmake hdirectory houter, .inl rfl⟩, ?_⟩
      exact enter_of_makeDirectory_error hmake hdirectory
  | cons inner outer ih =>
    rcases makeDirectories_cons_eq_some h with houter | ⟨hmake, hdirectory, houter⟩
    · rw [List.isChain_cons_cons] at hchain
      obtain ⟨⟨again, hagain, htold⟩, reason, hinner, hreason⟩ := ih hchain.2 houter
      have hway := hchain.1.enter_dropLast_error hinner
      have henter := enter_of_dropLast_error hway
      have hmake := makeDirectory_of_enter_error hway
      refine ⟨?_, reason, henter, hreason⟩
      by_cases hnone : reason = .notFound
      · rw [hnone] at hmake
        exact ⟨again, makeDirectories_cons_of_outer hmake hagain, htold⟩
      · refine ⟨reason, ?_, hreason.resolve_left hnone⟩
        exact makeDirectories_cons_of_error hmake (isDirectory_of_enter_error henter) fun h => absurd h hnone
    · refine ⟨⟨cause, makeDirectories_cons_of_error hmake hdirectory houter, .inl rfl⟩, ?_⟩
      exact enter_of_makeDirectory_error hmake hdirectory

/-! ### The directories of a path -/

private theorem filter_dropLast_isPrefix_filter (names : List Text) :
    (names.filter (· ≠ here)).dropLast <+: names.dropLast.filter (· ≠ here) := by
  rcases List.eq_nil_or_concat' names with rfl | ⟨front, name, rfl⟩
  · exact List.prefix_rfl
  · rw [List.filter_append, List.dropLast_concat]
    by_cases hname : name = here
    · rw [List.filter_cons_of_neg (by simpa using hname), List.filter_nil, List.append_nil]
      exact List.dropLast_prefix _
    · rw [List.filter_cons_of_pos (by simpa using hname), List.filter_nil, List.dropLast_concat]

theorem through_components (h : 1 < (components path).length) :
    Through (Path.names path) (components path).dropLast := by
  rw [Through]
  rw [components] at h ⊢
  cases hnames : Path.names path with
  | nil => simp [hnames] at h
  | cons first rest =>
    simp only [hnames] at h ⊢
    split at h
    · rename_i habsolute
      have hprefix := (filter_dropLast_isPrefix_filter (first :: rest)).filter (· ≠ here)
      rw [if_pos habsolute]
      simpa only [List.filter_filter, Bool.and_self] using hprefix
    · rename_i habsolute
      have hrest : rest.filter (· ≠ here) ≠ [] := List.length_pos_iff.1 (Nat.lt_of_succ_lt_succ h)
      have hne : rest ≠ [] := fun hnil => hrest (by rw [hnil]; rfl)
      have hprefix : first :: (rest.filter (· ≠ here)).dropLast <+: first :: rest.dropLast.filter (· ≠ here) :=
        List.cons_prefix_cons.2 ⟨rfl, filter_dropLast_isPrefix_filter rest⟩
      have hfiltered := hprefix.filter (· ≠ here)
      rw [if_neg habsolute, List.dropLast_cons_of_ne_nil hrest, List.dropLast_cons_of_ne_nil hne]
      simpa only [List.filter_cons, List.filter_filter, Bool.and_self] using hfiltered

/-- Components lead through those before the last one. -/
theorem through_take {count : Nat} (h : count < names.length) : Through (names.take (count + 1)) (names.take count) := by
  have hdropLast : (names.take (count + 1)).dropLast = names.take count := by
    rw [List.dropLast_eq_take, List.take_take, List.length_take]
    congr 1
    omega
  rw [Through, hdropLast]

/-- Each of the directories that a path goes through is on the way of the one behind it. -/
theorem isChain_parents (path : Text) : List.IsChain Through (Path.names path :: parents path) := by
  have hparents (i : Nat) (hi : i < (parents path).length) :
      i + 1 < (components path).length ∧
        (parents path)[i] = (components path).take ((components path).length - (i + 1)) := by
    simp only [parents, List.length_map, List.length_reverse, List.length_drop, List.length_range] at hi
    simp only [parents, List.getElem_map, List.getElem_reverse, List.getElem_drop, List.getElem_range,
      List.length_drop, List.length_range]
    refine ⟨by omega, ?_⟩
    congr 1
    omega
  rw [List.isChain_iff_getElem]
  intro i hi
  rw [List.length_cons] at hi
  rw [List.getElem_cons_succ, (hparents i (by omega)).2]
  cases i with
  | zero =>
    rw [List.getElem_cons_zero, Nat.zero_add, ← List.dropLast_eq_take]
    exact through_components (hparents 0 (by omega)).1
  | succ i =>
    obtain ⟨hlength, htake⟩ := hparents i (by omega)
    have hcount : (components path).length - (i + 1) = (components path).length - (i + 1 + 1) + 1 := by omega
    rw [List.getElem_cons_succ, htake, hcount]
    exact through_take (by omega)

/-- What could not be made of a path cannot be made later either, and trying makes nothing. -/
theorem createDirectories_again (h : tree.createDirectories path = (some cause, made)) :
    ∃ again, made.createDirectories path = (some again, made) ∧ ToldAgain cause again := by
  have hgrown := createDirectories_grown h
  rw [createDirectories] at h ⊢
  split at h
  · cases h
  · rename_i hempty
    rw [if_neg hempty]
    split at h
    · cases h
      exact ⟨cause, rfl, .inl rfl⟩
    · have horigin : made.origin path = tree.origin path := by rw [origin, origin, hgrown.hcurrent]
      obtain ⟨hagain, -⟩ := makeDirectories_again (isChain_parents path) h
      rw [horigin]
      exact hagain

end FileTree

end TableModel
