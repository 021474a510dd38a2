import TableModel.Proofs.Files.Places

/-!
# Making directories

Making the directories of a path leaves a directory at every place on its way and changes nothing else,
and it never takes the place of a file. Once the path leads to a directory there is nothing left to
make, so that a run which makes its directory again and again only does so once.
-/

namespace TableModel

namespace FileTree

open TableModel.Path

variable {tree middle made : FileTree} {start : Location} {names : List Text} {path : Text}

/-- `made` is `tree` with directories at some of the places where nothing stood. -/
structure Grown (places : Location → Prop) (tree made : FileTree) : Prop where
  hcurrent : made.current = tree.current
  hplaces : ∀ location, made.get? location = tree.get? location ∨
    places location ∧ tree.get? location = none ∧ made.get? location = some .directory

namespace Grown

variable {places more : Location → Prop}

theorem refl (places : Location → Prop) (tree : FileTree) : Grown places tree tree :=
  ⟨rfl, fun _ => .inl rfl⟩

theorem widen (h : Grown places tree made) (hmore : ∀ location, places location → more location) :
    Grown more tree made := by
  refine ⟨h.hcurrent, fun location => ?_⟩
  rcases h.hplaces location with hsame | ⟨hplace, hnew⟩
  · exact .inl hsame
  · exact .inr ⟨hmore location hplace, hnew⟩

theorem directory (h : Grown places tree made) (location : Location)
    (hdirectory : tree.get? location = some .directory) : made.get? location = some .directory := by
  rcases h.hplaces location with hsame | ⟨-, -, hnew⟩
  · rw [hsame, hdirectory]
  · exact hnew

theorem trans (hfirst : Grown places tree middle) (hsecond : Grown places middle made) :
    Grown places tree made := by
  refine ⟨hsecond.hcurrent.trans hfirst.hcurrent, fun location => ?_⟩
  rcases hsecond.hplaces location with hsame | ⟨hplace, hnone, hnew⟩
  · rw [hsame]
    exact hfirst.hplaces location
  · rcases hfirst.hplaces location with hsame | ⟨-, -, hold⟩
    · exact .inr ⟨hplace, hsame ▸ hnone, hnew⟩
    · rw [hold] at hnone
      cases hnone

theorem file_iff (h : Grown places tree made) (location : Location) (content : Text) :
    made.get? location = some (.file content) ↔ tree.get? location = some (.file content) := by
  rcases h.hplaces location with hsame | ⟨-, hnone, hnew⟩
  · rw [hsame]
  · rw [hnone, hnew]
    exact iff_of_false (by rintro ⟨⟩) (by rintro ⟨⟩)

end Grown

/-! ### One directory -/

theorem makeDirectory_eq_ok (h : tree.makeDirectory start names = .ok made) :
    Grown (fun location => names ≠ [] ∧ location = resolve start names) tree made ∧
      made.isDirectory start names = true := by
  obtain ⟨⟨parent, name⟩, hlast, hrest⟩ := bind_eq_ok.1 h
  dsimp only at hrest
  by_cases hdots : name = here ∨ name = above
  · rw [if_pos hdots] at hrest
    cases hrest
  by_cases hsize : greatestNameSize < name.utf8Size
  · rw [if_neg hdots, if_pos hsize] at hrest
    cases hrest
  rw [if_neg hdots, if_neg hsize] at hrest
  obtain ⟨hhere, habove⟩ := not_or.1 hdots
  obtain ⟨front, rfl, rfl, hpassable, hdirectory⟩ := followToLast_eq_ok hlast hhere
  cases hget : tree.get? (resolve start front ++ [name]) with
  | some node =>
    rw [hget] at hrest
    cases hrest
  | none =>
    rw [hget] at hrest
    cases hrest
    have hplace : resolve start (front ++ [name]) = resolve start front ++ [name] := by
      rw [resolve_concat, step_of_ne hhere habove]
    have hne : resolve start front ++ [name] ≠ [] := List.concat_ne_nil name _
    have hgrown : Grown (fun location => front ++ [name] ≠ [] ∧
        location = resolve start (front ++ [name])) tree
        (tree.put (resolve start front ++ [name]) .directory) := by
      refine ⟨rfl, fun location => ?_⟩
      rw [hplace]
      by_cases hlocation : location = resolve start front ++ [name]
      · rw [hlocation]
        exact .inr ⟨⟨List.concat_ne_nil name front, rfl⟩, hget, get?_put_self tree hne .directory⟩
      · exact .inl (get?_put_of_ne tree hlocation .directory)
    refine ⟨hgrown, isDirectory_iff.2 ⟨?_, ?_⟩⟩
    · apply Passable.mono hgrown.directory
      exact passable_append.2 ⟨hpassable, hdirectory, by omega, trivial⟩
    · rw [hplace]
      exact get?_put_self tree hne .directory

theorem makeDirectory_of_isDirectory (h : tree.isDirectory start names = true) :
    tree.makeDirectory start names = .error .alreadyExists := by
  obtain ⟨hpassable, hdirectory⟩ := isDirectory_iff.1 h
  rcases List.eq_nil_or_concat names with rfl | ⟨front, name, hnames⟩
  · have hlast : tree.followToLast start [] = .ok (start, here) :=
      requireDirectory_bind_eq_ok.2 ⟨hdirectory, rfl⟩
    rw [makeDirectory, hlast]
    rfl
  · rw [List.concat_eq_append] at hnames
    subst hnames
    obtain ⟨hfront, hparent, hsize, -⟩ := passable_append.1 hpassable
    rw [makeDirectory, followToLast_concat hfront hparent]
    show (if name = here ∨ name = above then _ else _) = _
    by_cases hdots : name = here ∨ name = above
    · rw [if_pos hdots]
    · obtain ⟨hhere, habove⟩ := not_or.1 hdots
      rw [resolve_concat, step_of_ne hhere habove] at hdirectory
      rw [if_neg hdots, if_neg (by omega), hdirectory]

/-! ### A directory and all above it -/

/-- Whether it succeeds or not, only directories are made, and only on the way. -/
theorem makeDirectories_grown {paths : List (List Text)} {failure : Option FileError}
    (h : tree.makeDirectories start paths = (failure, made)) :
    Grown (fun location => ∃ names ∈ paths, names ≠ [] ∧ location = resolve start names) tree made := by
  induction paths generalizing failure made with
  | nil =>
    cases h
    exact .refl _ tree
  | cons names outer ih =>
    have hone {tree made : FileTree} (hmake : tree.makeDirectory start names = .ok made) :
        Grown (fun location => ∃ part ∈ names :: outer, part ≠ [] ∧ location = resolve start part)
          tree made :=
      (makeDirectory_eq_ok hmake).1.widen fun location hlocation => ⟨names, List.mem_cons_self, hlocation⟩
    have houter {failure : Option FileError} {middle : FileTree}
        (hmake : tree.makeDirectories start outer = (failure, middle)) :
        Grown (fun location => ∃ part ∈ names :: outer, part ≠ [] ∧ location = resolve start part)
          tree middle := by
      apply (ih hmake).widen
      rintro location ⟨part, hpart, hlocation⟩
      exact ⟨part, List.mem_cons_of_mem names hpart, hlocation⟩
    rw [makeDirectories] at h
    dsimp only at h
    split at h
    · cases h
      exact hone ‹_›
    · split at h
      · cases h
        exact houter ‹_›
      · split at h
        · cases h
          exact (houter ‹_›).trans (hone ‹_›)
        · obtain ⟨-, rfl⟩ := Prod.mk.inj h
          exact houter ‹_›
    · obtain ⟨-, rfl⟩ := Prod.mk.inj h
      exact .refl _ tree

theorem makeDirectories_isDirectory {outer : List (List Text)}
    (h : tree.makeDirectories start (names :: outer) = (none, made)) : made.isDirectory start names = true := by
  have hsettle {tree : FileTree} {cause : FileError}
      (hmake : ((if tree.isDirectory start names then none else some cause, tree) :
        Option FileError × FileTree) = (none, made)) : made.isDirectory start names = true := by
    obtain ⟨hnone, rfl⟩ := Prod.mk.inj hmake
    by_contra hno
    rw [if_neg hno] at hnone
    cases hnone
  rw [makeDirectories] at h
  dsimp only at h
  split at h
  · cases h
    exact (makeDirectory_eq_ok ‹_›).2
  · split at h
    · cases h
    · split at h
      · cases h
        exact (makeDirectory_eq_ok ‹_›).2
      · exact hsettle h
  · exact hsettle h

/-- The places on the way of a path, its own place among them. -/
def chain (tree : FileTree) (path : Text) : List Location :=
  ((Path.names path).inits.filter (!·.isEmpty)).map (resolve (tree.origin path))

theorem mem_chain {location : Location} :
    location ∈ tree.chain path ↔
      ∃ front, front ≠ [] ∧ front <+: Path.names path ∧ location = resolve (tree.origin path) front := by
  simp only [chain, List.mem_map, List.mem_filter, List.mem_inits]
  constructor
  · rintro ⟨front, ⟨hfront, hne⟩, rfl⟩
    exact ⟨front, by simpa using hne, hfront, rfl⟩
  · rintro ⟨front, hne, hfront, rfl⟩
    exact ⟨front, ⟨hfront, by simpa using hne⟩, rfl⟩

theorem chain_congr (h : made.current = tree.current) (path : Text) :
    made.chain path = tree.chain path := by
  rw [chain, chain, origin, origin, h]

/-- A path needs no directory: it leads to one, or it is empty. -/
def Reached (tree : FileTree) (path : Text) : Prop :=
  path = [] ∨ requirePath path = .ok () ∧
    tree.isDirectory (tree.origin path) (Path.names path) = true

theorem Reached.mono (hcurrent : made.current = tree.current)
    (hmono : ∀ location, tree.get? location = some .directory → made.get? location = some .directory)
    (h : tree.Reached path) : made.Reached path := by
  rcases h with hempty | ⟨hpath, hdirectory⟩
  · exact .inl hempty
  · obtain ⟨hpassable, hplace⟩ := isDirectory_iff.1 hdirectory
    have horigin : made.origin path = tree.origin path := by rw [origin, origin, hcurrent]
    refine .inr ⟨hpath, ?_⟩
    rw [horigin]
    exact isDirectory_iff.2 ⟨hpassable.mono hmono, hmono _ hplace⟩

theorem Reached.chain (h : tree.Reached path) {location : Location}
    (hlocation : location ∈ tree.chain path) : tree.get? location = some .directory := by
  obtain ⟨front, hne, ⟨back, hnames⟩, rfl⟩ := mem_chain.1 hlocation
  rcases h with rfl | ⟨-, hdirectory⟩
  · exact absurd (List.append_eq_nil_iff.1 hnames).1 hne
  · rw [← hnames, isDirectory_iff] at hdirectory
    obtain ⟨hpassable, hplace⟩ := hdirectory
    cases back with
    | nil => rwa [List.append_nil] at hplace
    | cons name back => exact (passable_append.1 hpassable).2.1

theorem Reached.createDirectories (h : tree.Reached path) :
    tree.createDirectories path = (none, tree) := by
  rcases h with rfl | ⟨hpath, hdirectory⟩
  · rfl
  · rw [FileTree.createDirectories]
    by_cases hempty : path.isEmpty
    · rw [if_pos hempty]
    · rw [if_neg hempty, hpath]
      dsimp only
      rw [makeDirectories, makeDirectory_of_isDirectory hdirectory]
      dsimp only
      rw [if_pos hdirectory]

theorem createDirectories_grown {failure : Option FileError}
    (h : tree.createDirectories path = (failure, made)) : Grown (· ∈ tree.chain path) tree made := by
  rw [createDirectories] at h
  split at h
  · cases h
    exact .refl _ tree
  · split at h
    · cases h
      exact .refl _ tree
    · apply (makeDirectories_grown h).widen
      rintro location ⟨part, hpart, hne, rfl⟩
      rw [mem_chain]
      rcases List.mem_cons.1 hpart with rfl | hpart
      · exact ⟨_, hne, List.prefix_rfl, rfl⟩
      · exact resolve_prefix_components (prefix_of_mem_parents hpart) hne

/-- What the directories of a path come to: the path leads to a directory, and where there was nothing on
its way there is a directory now. -/
theorem createDirectories_eq_none (h : tree.createDirectories path = (none, made)) :
    Grown (· ∈ tree.chain path) tree made ∧ made.Reached path := by
  have hgrown := createDirectories_grown h
  refine ⟨hgrown, ?_⟩
  rw [createDirectories] at h
  split at h
  · rename_i hempty
    exact .inl (List.isEmpty_iff.1 hempty)
  · split at h
    · cases h
    · rename_i hpath
      have horigin : made.origin path = tree.origin path := by rw [origin, origin, hgrown.hcurrent]
      exact .inr ⟨hpath, horigin ▸ makeDirectories_isDirectory h⟩

theorem createDirectories_get? (h : tree.createDirectories path = (none, made))
    (location : Location) :
    made.get? location =
      if location ∈ tree.chain path then some .directory else tree.get? location := by
  obtain ⟨hgrown, hreached⟩ := createDirectories_eq_none h
  by_cases hlocation : location ∈ tree.chain path
  · rw [if_pos hlocation]
    rw [← chain_congr hgrown.hcurrent] at hlocation
    exact hreached.chain hlocation
  · rw [if_neg hlocation]
    rcases hgrown.hplaces location with hsame | ⟨hplace, -⟩
    · exact hsame
    · exact absurd hplace hlocation

/-- No directory is made where a file stands. -/
theorem createDirectories_chain_free (h : tree.createDirectories path = (none, made))
    {location : Location} (hlocation : location ∈ tree.chain path) :
    tree.get? location = none ∨ tree.get? location = some .directory := by
  obtain ⟨hgrown, -⟩ := createDirectories_eq_none h
  have hmade := createDirectories_get? h location
  rw [if_pos hlocation] at hmade
  rcases hgrown.hplaces location with hsame | ⟨-, hnone, -⟩
  · exact .inr (hsame ▸ hmade)
  · exact .inl hnone

end FileTree

end TableModel
