import TableModel.Proofs.Files.Collisions

/-!
# Files outside the directory

A run makes its directory and those above it that are missing, and writes each file where the name of the file leads
from there. A name is the singular of the name of any table, so that it may climb out of the directory by `..`, or start
with a slash and have nothing to do with the directory at all. Nothing else leads out. Which names do is a matter of
their route: so many steps up, and then down.
-/

namespace TableModel

namespace Path

/-- Where names lead, seen from a place that is not known: so many steps up, and then down. -/
structure Route where
  up : Nat := 0
  down : List Text := []
  deriving DecidableEq, Repr

namespace Route

/-- The route with one more name at its end. A step up takes back the last step down, if there is one. -/
def step (route : Route) (name : Text) : Route :=
  if name = here then route
  else if name = above then
    if route.down = [] then { route with up := route.up + 1 }
    else { route with down := route.down.dropLast }
  else { route with down := route.down ++ [name] }

def ofNames (names : List Text) : Route :=
  names.foldl step {}

/-- Where a route leads from a place. There is nothing above the root. -/
def target (route : Route) (start : Location) : Location :=
  start.take (start.length - route.up) ++ route.down

private theorem target_step (route : Route) (start : Location) (name : Text) :
    (route.step name).target start = Path.step (route.target start) name := by
  unfold step Path.step
  split_ifs with hhere habove hdown
  · rfl
  · show start.take (start.length - (route.up + 1)) ++ route.down =
      (start.take (start.length - route.up) ++ route.down).dropLast
    rw [hdown, List.append_nil, List.append_nil, List.dropLast_eq_take, List.take_take, List.length_take]
    congr 1
    omega
  · show start.take (start.length - route.up) ++ route.down.dropLast = _
    rw [target, List.dropLast_append_of_ne_nil hdown]
  · show start.take (start.length - route.up) ++ (route.down ++ [name]) = _
    rw [target, List.append_assoc]

theorem target_ofNames (start : Location) (names : List Text) :
    (ofNames names).target start = resolve start names := by
  have hfold (route : Route) : (names.foldl step route).target start = resolve (route.target start) names := by
    induction names generalizing route with
    | nil => rfl
    | cons name names ih =>
      rw [List.foldl_cons, ih, target_step]
      rfl
  have hstart : ({} : Route).target start = start := by
    rw [target, Nat.sub_zero, List.take_length, List.append_nil]
  rw [ofNames, hfold, hstart]

end Route

def Below (base location : Location) : Prop :=
  base <+: location ∧ base.length < location.length

instance (base location : Location) : Decidable (Below base location) :=
  inferInstanceAs (Decidable (_ ∧ _))

private theorem below_append_iff (front base location : Location) :
    Below (front ++ base) (front ++ location) ↔ Below base location := by
  simp only [Below, List.prefix_append_right_inj, List.length_append, Nat.add_lt_add_iff_left]

/-- A name leads out of the directory at a place. Either it is absolute, and does not lead below that place, or it
climbs out, and does not come back by the names that it left. -/
def LeadsOut (base : Location) (name : Text) : Prop :=
  let route := Route.ofNames (names name)
  ¬Below (if isAbsolute name then base else base.drop (base.length - route.up)) route.down

instance (base : Location) (name : Text) : Decidable (LeadsOut base name) :=
  inferInstanceAs (Decidable (¬_))

end Path

namespace FileTree

open TableModel.Path

variable {tree written : FileTree} {directory name : Text} {files : List ModelFile}

theorem place_join (tree : FileTree) (directory name : Text) :
    tree.place (join directory name) =
      (Route.ofNames (names name)).target (if isAbsolute name then [] else tree.place directory) := by
  rw [Route.target_ofNames]
  cases hname : isAbsolute name with
  | true => rw [join, hname, if_pos rfl, place, origin, hname, if_pos rfl, if_pos rfl]
  | false =>
    obtain ⟨hnames, habsolute⟩ := names_join hname directory
    rw [place, hnames, resolve_append, origin, habsolute, if_neg Bool.false_ne_true]
    rfl

/-- The place of a file is below the directory unless its name leads out. -/
theorem below_place_join_iff :
    Below (tree.place directory) (tree.place (join directory name)) ↔ ¬LeadsOut (tree.place directory) name := by
  have hsplit (count : Nat) (down : List Text) :
      Below (tree.place directory) ((tree.place directory).take count ++ down) ↔
        Below ((tree.place directory).drop count) down := by
    conv_lhs => arg 1; rw [← List.take_append_drop count (tree.place directory)]
    exact below_append_iff _ _ _
  rw [place_join, LeadsOut, not_not, Route.target]
  cases isAbsolute name with
  | true =>
    rw [if_pos rfl, if_pos rfl, List.take_nil]
    rfl
  | false =>
    rw [if_neg Bool.false_ne_true, if_neg Bool.false_ne_true]
    exact hsplit _ _

end FileTree

open FileTree Options TableModel.Path

variable {options : Options} {directory input : Text} {tree base written : FileTree} {files : List ModelFile}

/-- A place that a run makes or writes: something else stands there afterwards, or a file was written to it. -/
def Written.Touches (run : Written) (tree : FileTree) (location : Location) : Prop :=
  run.tree.get? location ≠ tree.get? location ∨ ∃ path ∈ run.paths ++ run.unfinished, tree.place path = location

/-- No file is written where a directory stood. -/
theorem not_directory_of_writeAll (h : writeAll directory files tree = .ok written) :
    ∀ file ∈ files, tree.get? (tree.place (join directory file.name)) ≠ some .directory := by
  induction files generalizing tree with
  | nil => exact fun _ hfile => absurd hfile List.not_mem_nil
  | cons first files ih =>
    obtain ⟨middle, hfirst, hfiles⟩ := writeAll_cons_eq_ok.1 h
    obtain ⟨-, -, hnode⟩ := writeFile_eq_ok hfirst
    refine List.forall_mem_cons.2 ⟨hnode, fun file hfile hdirectory => ?_⟩
    apply ih hfiles file hfile
    rw [place_congr (writeFile_current hfirst)]
    exact writeFile_directory hfirst _ hdirectory

theorem changes_of_writeAll (hgrown : Grown (· ∈ tree.chain directory) tree base)
    (hwritten : writeAll directory files base = .ok written) {location : Location}
    (h : written.get? location ≠ tree.get? location) :
    location ∈ tree.chain directory ∧ tree.get? location = none ∧ base.get? location = some .directory ∨
      ∃ file ∈ files, tree.place (join directory file.name) = location := by
  rw [writeAll_get? hwritten, lastWrittenTo_congr hgrown.hcurrent] at h
  cases hlast : lastWrittenTo tree directory location files with
  | some file =>
    obtain ⟨front, back, rfl, -, hplace⟩ := lastWrittenTo_eq_some_iff.1 hlast
    exact .inr ⟨file, List.mem_append_right front List.mem_cons_self, hplace⟩
  | none =>
    rw [hlast] at h
    exact .inl ((hgrown.hplaces location).resolve_left h)

/-- The places outside its directory that a run makes or writes are those of the files that it has written and whose
names lead out. On the way to the directory it only makes directories where nothing stood. A name leads out only if
there is a slash in it. -/
theorem writeChunks_outside_iff (options : Options) (directory input : Text) (tree : FileTree) :
    let run := writeChunks options directory (chunks input) tree
    ∃ front, front <+: (options.batches (chunks input)).flatten ∧
      run.paths ++ run.unfinished = front.map (fun file => join directory file.name) ∧
      (∀ location, run.Touches tree location ∧ location ∉ tree.chain directory ∧
          ¬Below (tree.place directory) location ↔
        ∃ file ∈ front, LeadsOut (tree.place directory) file.name ∧
          tree.place (join directory file.name) = location) ∧
      (∀ location ∈ tree.chain directory, run.Touches tree location →
        tree.get? location = none ∧ run.tree.get? location = some .directory) ∧
      ∀ file ∈ front, ('/' ∉ file.name → ¬LeadsOut (tree.place directory) file.name) ∧
        ∃ statements table baseName, .ok statements ∈ chunks input ∧ .createTable table ∈ statements ∧
          options.inflect table.name = .ok baseName ∧ file.name = options.fileName baseName := by
  intro run
  obtain ⟨base, front, hbase, hreached, hfront, hwritten, hpaths⟩ :=
    writeChunks_front options directory (chunks input) tree
  have hgrown : Grown (· ∈ tree.chain directory) tree base := by
    rcases hbase with rfl | rfl
    · exact .refl _ base
    · exact createDirectories_grown rfl
  -- The way to the directory consists of directories by the time that the first file is written.
  have hchain : ∀ file ∈ front, tree.place (join directory file.name) ∉ tree.chain directory := by
    intro file hfile hmem
    have hnode := not_directory_of_writeAll hwritten file hfile
    rw [place_congr hgrown.hcurrent] at hnode
    apply hnode
    rw [← chain_congr hgrown.hcurrent] at hmem
    exact (hreached (List.ne_nil_of_mem hfile)).chain hmem
  have htouches : ∀ location, run.Touches tree location →
      location ∈ tree.chain directory ∧ tree.get? location = none ∧ base.get? location = some .directory ∨
        ∃ file ∈ front, tree.place (join directory file.name) = location := by
    rintro location (hchanged | ⟨path, hpath, hplace⟩)
    · exact changes_of_writeAll hgrown hwritten hchanged
    · rw [hpaths] at hpath
      obtain ⟨file, hfile, rfl⟩ := List.mem_map.1 hpath
      exact .inr ⟨file, hfile, hplace⟩
  refine ⟨front, hfront, hpaths, fun location => ⟨?_, ?_⟩, ?_, ?_⟩
  · rintro ⟨htouched, hout, hbelow⟩
    rcases htouches location htouched with ⟨hin, -⟩ | ⟨file, hfile, rfl⟩
    · exact absurd hin hout
    · exact ⟨file, hfile, not_not.1 (mt below_place_join_iff.2 hbelow), rfl⟩
  · rintro ⟨file, hfile, hout, rfl⟩
    refine ⟨.inr ⟨join directory file.name, ?_, rfl⟩, hchain file hfile, mt below_place_join_iff.1 (not_not.2 hout)⟩
    rw [hpaths]
    exact List.mem_map_of_mem hfile
  · intro location hlocation htouched
    rcases htouches location htouched with ⟨-, hnone, hmade⟩ | ⟨file, hfile, rfl⟩
    · exact ⟨hnone, (writeAll_keeps hwritten).2 location hmade⟩
    · exact absurd hlocation (hchain file hfile)
  · intro file hfile
    refine ⟨fun hname => ?_, name_of_batches (hfront.subset hfile)⟩
    have hplace := (leads_of_writeAll hwritten file hfile).place_join hname
    have hcurrent := (writeAll_keeps hwritten).1.trans hgrown.hcurrent
    rw [place_congr hcurrent, place_congr hcurrent] at hplace
    rw [← below_place_join_iff, hplace]
    refine ⟨List.prefix_append _ _, ?_⟩
    rw [List.length_append]
    exact Nat.lt_succ_self _

def climbingSchema : Text :=
  Json.print (.array [plainTable "../x"])

/-- The run succeeds, and its file stands beside the directory. -/
theorem climbingSchema_escapes :
    (writeChunks {} "d" (chunks climbingSchema) emptyTree).failure = none ∧
      (writeChunks {} "d" (chunks climbingSchema) emptyTree).paths = ["d/../x.js"] ∧
      ∃ location, (writeChunks {} "d" (chunks climbingSchema) emptyTree).Touches emptyTree location ∧
        location ∉ emptyTree.chain "d" ∧ ¬Below (emptyTree.place "d") location := by
  have hrun : (writeChunks {} "d" (chunks climbingSchema) emptyTree).failure = none ∧
      (writeChunks {} "d" (chunks climbingSchema) emptyTree).paths = ["d/../x.js"] ∧
      (writeChunks {} "d" (chunks climbingSchema) emptyTree).tree.get? ["x.js"] ≠ emptyTree.get? ["x.js"] := by
    decide +kernel
  obtain ⟨hsuccess, hpaths, hfile⟩ := hrun
  exact ⟨hsuccess, hpaths, ["x.js"], .inl hfile, by decide +kernel, by decide +kernel⟩

end TableModel
