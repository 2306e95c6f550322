import DocModel.Files.Tree
import DocModel.Proofs.Entries
import DocModel.Proofs.Files.Paths

/-!
# DocModel.Proofs.Files.Trees

What a change to a tree of files leaves as it was. A path leads to the same place before and after,
as long as no directory goes away.

* `isDirectory_iff`: a path leads to a directory if one can walk along its moves;
* `isDirectory_parent`: then so does the path around it;
* `makeDirectory_eq_ok`, `writeFile_eq_ok`: what the two changes do if they do not fail;
* `DirectoriesAdded`: nothing but directories along some paths has been added, step after step;
* `stored_of_writeFile`: and a file among them.
-/

namespace DocModel
namespace FileTree

variable {tree before middle after : FileTree} {path : String} {place : Place}

theorem lookup_put (tree : FileTree) (place : Place) (entry : FileEntry) (key : String) :
    (tree.put place entry).entries.lookup key =
      if key = pathOf place then some entry else tree.entries.lookup key :=
  lookup_insertEntry (pathOf place) key entry tree.entries

theorem entry?_put (tree : FileTree) (name : String) (place : Place) (entry : FileEntry) :
    entry? (tree.put (name :: place) entry) (name :: place) = some entry := by
  rw [ entry?, lookup_put, if_pos rfl]
  exact List.cons_ne_nil name place

/-! ## Walks -/

theorem walk_append (tree : FileTree) (place : Place) (steps more : List Path.Step) :
    tree.walk place (steps ++ more) =
      (tree.walk place steps).bind fun inner => tree.walk inner more := by
  induction steps generalizing place with
  | nil => rfl
  | cons step rest ih =>
    cases step with
    | stay => exact ih place
    | back => exact ih place.tail
    | down name =>
      rw [List.cons_append, walk, walk]
      cases tree.directoryAt (name :: place) with
      | ok inner => exact ih inner
      | error e => rfl

theorem walk_moves (tree : FileTree) (place : Place) (steps : List Path.Step) :
    tree.walk place (steps.filter (· ≠ .stay)) = tree.walk place steps := by
  induction steps generalizing place with
  | nil => rfl
  | cons step rest ih =>
    cases step with
    | stay => exact ih place
    | back => exact ih place.tail
    | down name =>
      rw [List.filter_cons_of_pos (by simp), walk, walk]
      cases tree.directoryAt (name :: place) with
      | ok inner => exact ih inner
      | error e => rfl

theorem target_of_steps (tree : FileTree) {init : List Path.Step} {last : Path.Step}
    (h : Path.steps path = init ++ [last]) :
    tree.target path =
      (tree.walk (tree.start path) init).map fun directory => { directory, last } := by
  rw [target, h]
  simp

theorem target_of_no_steps (tree : FileTree) (h : Path.steps path = []) :
    tree.target path =
      if path = "" then .error .notFound else .ok { directory := [], last := .stay } := by
  rw [target, h]
  by_cases empty : path = ""
  · rw [if_pos empty, empty]
    rfl
  · have root := (Path.steps_ne_nil_or empty).resolve_left (not_not_intro h)
    simp [root, empty]

theorem isDirectory_iff_of_target {directory : Place} {last : Path.Step}
    (h : tree.target path = .ok { directory, last }) :
    tree.isDirectory path = true ↔ ∃ inner, tree.walk directory [last] = .ok inner := by
  rw [isDirectory, find, h]
  cases last with
  | stay => simp [walk]
  | back => simp [walk]
  | down name =>
    simp only [walk, directoryAt]
    cases tree.entry? (name :: directory) with
    | none => simp
    | some entry =>
      cases entry with
      | directory => simp
      | file content => by_cases slash : Path.endsInSlash path = true <;> simp [slash]

theorem isDirectory_of_error {e : FileError} (h : tree.target path = .error e) :
    tree.isDirectory path = false := by
  rw [isDirectory, find, h]

/-- A path leads to a directory if one can walk along its moves. -/
theorem isDirectory_iff : tree.isDirectory path = true ↔
    path ≠ "" ∧ ∃ inner, tree.walk (tree.start path) (Path.moves path) = .ok inner := by
  rw [Path.moves_eq, walk_moves]
  rcases List.eq_nil_or_concat' (Path.steps path) with stepless | ⟨init, last, split⟩
  · have stays := target_of_no_steps tree stepless
    split at stays
    · next empty =>
      refine iff_of_false ?_ fun there => there.1 empty
      rw [isDirectory_of_error stays]
      exact Bool.false_ne_true
    · next named =>
      rw [isDirectory_iff_of_target stays, stepless]
      simp [walk, named]
  · have named : path ≠ "" := by
      rintro rfl
      exact List.append_ne_nil_of_right_ne_nil init (List.cons_ne_nil last []) split.symm
    have leads := target_of_steps tree split
    rw [split, walk_append]
    cases around : tree.walk (tree.start path) init with
    | error e =>
      rw [around] at leads
      simp [isDirectory_of_error leads, Except.bind]
    | ok directory =>
      rw [around] at leads
      rw [isDirectory_iff_of_target leads]
      simp [named, Except.bind]

theorem isDirectory_of_walk {parent : String} {place : Place} (named : parent ≠ "")
    (same : Path.isAbsolute parent = Path.isAbsolute path)
    (walked : tree.walk (tree.start path) (Path.moves parent) = .ok place) :
    tree.isDirectory parent = true := by
  have start : tree.start parent = tree.start path := by rw [FileTree.start, same, FileTree.start]
  exact isDirectory_iff.2 ⟨named, place, start ▸ walked⟩

/-- A path that leads to a directory leads through the one around it. -/
theorem isDirectory_parent {parent : String} (h : tree.isDirectory path = true)
    (around : Path.parent? path = some parent) (named : parent ≠ "") :
    tree.isDirectory parent = true := by
  obtain ⟨-, _, walked⟩ := isDirectory_iff.1 h
  obtain ⟨same, step, moves⟩ := Path.exists_move_of_parent? around named
  rw [moves, walk_append] at walked
  cases before : tree.walk (tree.start path) (Path.moves parent) with
  | error e =>
    rw [before] at walked
    cases walked
  | ok inner => exact isDirectory_of_walk named same before

/-- All paths around a path to a directory lead to directories. -/
theorem isDirectory_ancestors (h : tree.isDirectory path = true) :
    ∀ other ∈ Path.ancestors path, tree.isDirectory other = true :=
  Path.ancestors_induction h fun _ _ => isDirectory_parent

/-! ## Single changes -/

/-- A path ends in a name, and this is the place of it. -/
def LeadsTo (tree : FileTree) (path : String) (place : Place) : Prop :=
  ∃ directory name, tree.target path = .ok { directory, last := .down name } ∧
    place = name :: directory

theorem LeadsTo.isDirectory_parent {parent : String} (leads : tree.LeadsTo path place)
    (around : Path.parent? path = some parent) (named : parent ≠ "") :
    tree.isDirectory parent = true := by
  obtain ⟨directory, name, target, -⟩ := leads
  obtain ⟨same, step, moves⟩ := Path.exists_move_of_parent? around named
  rcases List.eq_nil_or_concat' (Path.steps path) with stepless | ⟨init, last, split⟩
  · rw [target_of_no_steps _ stepless] at target
    split at target <;> cases target
  · rw [target_of_steps _ split] at target
    cases walked : tree.walk (tree.start path) init with
    | error e =>
      rw [walked] at target
      cases target
    | ok inner =>
      rw [walked] at target
      cases target
      have last : Path.moves path = init.filter (· ≠ .stay) ++ [.down name] := by
        rw [Path.moves_eq, split, List.filter_append]
        rfl
      obtain ⟨here, -⟩ := List.append_inj' (moves.symm.trans last) rfl
      have along : tree.walk (tree.start path) (Path.moves parent) = .ok directory := by
        rw [here, walk_moves, walked]
      exact isDirectory_of_walk named same along

theorem LeadsTo.isDirectory_surroundings (leads : tree.LeadsTo path place) :
    ∀ other ∈ Path.surroundings path, tree.isDirectory other = true := by
  rw [Path.surroundings]
  cases around : Path.parent? path with
  | none => simp
  | some parent =>
    by_cases named : parent = ""
    · rw [named]
      simp [Path.ancestors_empty]
    · exact isDirectory_ancestors (leads.isDirectory_parent around named)

theorem makeDirectory_eq_ok (h : tree.makeDirectory path = .ok after) :
    ∃ place, tree.LeadsTo path place ∧ tree.entry? place = none ∧
      after = tree.put place .directory := by
  rw [makeDirectory] at h
  split at h
  · cases h
  · next t leads =>
    obtain ⟨directory, last⟩ := t
    split at h
    · next name down =>
      obtain rfl : last = .down name := down
      split at h
      · cases h
      · next missing =>
        exact ⟨_, ⟨directory, name, leads, rfl⟩, missing, (Except.ok.inj h).symm⟩
    · cases h

theorem writeFile_eq_ok {content : String} (h : tree.writeFile path content = .ok after) :
    ∃ place, tree.LeadsTo path place ∧ tree.entry? place ≠ some .directory ∧
      Path.endsInSlash path = false ∧ after = tree.put place (.file content) := by
  rw [writeFile] at h
  split at h
  · cases h
  · next t leads =>
    obtain ⟨directory, last⟩ := t
    split at h
    · next name down =>
      obtain rfl : last = .down name := down
      split at h
      · cases h
      · next free =>
        simp only [Bool.or_eq_true, not_or, Bool.not_eq_true, decide_eq_true_eq] at free
        exact ⟨_, ⟨directory, name, leads, rfl⟩, free.2, free.1, (Except.ok.inj h).symm⟩
    · cases h

/-! ## Directories that stay -/

/-- One is where one was, and every directory is there. -/
def KeepsDirectories (before after : FileTree) : Prop :=
  after.home = before.home ∧
    ∀ place, before.entry? place = some .directory → after.entry? place = some .directory

namespace KeepsDirectories

theorem put {name : String} {entry : FileEntry}
    (free : before.entry? (name :: place) = some .directory → entry = .directory) :
    KeepsDirectories before (before.put (name :: place) entry) := by
  refine ⟨rfl, fun other there => ?_⟩
  cases other with
  | nil => rfl
  | cons first rest =>
    have known : before.entries.lookup (pathOf (first :: rest)) = some .directory := there
    have found := lookup_put before (name :: place) entry (pathOf (first :: rest))
    split at found
    · next same =>
      have here : before.entry? (name :: place) = some .directory := by rw [← known, same]; rfl
      exact found.trans (congrArg some (free here))
    · exact found.trans known

variable (h : KeepsDirectories before after)
include h

theorem walk {steps : List Path.Step} {inner : Place}
    (walked : before.walk place steps = .ok inner) : after.walk place steps = .ok inner := by
  induction steps generalizing place with
  | nil => exact walked
  | cons step rest ih =>
    cases step with
    | stay => exact ih walked
    | back => exact ih walked
    | down name =>
      rw [FileTree.walk] at walked ⊢
      rw [directoryAt] at walked ⊢
      cases there : before.entry? (name :: place) with
      | none => simp [there] at walked
      | some entry =>
        cases entry with
        | file content => simp [there] at walked
        | directory =>
          rw [there] at walked
          rw [h.2 _ there]
          exact ih walked

theorem start (path : String) : after.start path = before.start path := by
  rw [FileTree.start, FileTree.start, h.1]

theorem target {t : Target} (leads : before.target path = .ok t) : after.target path = .ok t := by
  rcases List.eq_nil_or_concat' (Path.steps path) with stepless | ⟨init, last, split⟩
  · rw [target_of_no_steps _ stepless] at leads ⊢
    exact leads
  · rw [target_of_steps _ split] at leads ⊢
    cases walked : before.walk (before.start path) init with
    | error e =>
      rw [walked] at leads
      cases leads
    | ok directory =>
      rw [walked] at leads
      rw [h.start, h.walk walked]
      exact leads

theorem leadsTo (leads : before.LeadsTo path place) : after.LeadsTo path place := by
  obtain ⟨directory, name, target, rfl⟩ := leads
  exact ⟨directory, name, h.target target, rfl⟩

end KeepsDirectories

/-! ## What has changed -/

/-- There was nothing, and now there is a directory to which one of some paths leads. -/
def NewDirectory (paths : List String) (before after : FileTree) (key : String) : Prop :=
  before.entries.lookup key = none ∧ after.entries.lookup key = some .directory ∧
    ∃ path ∈ paths, ∃ place, after.LeadsTo path place ∧ key = pathOf place

/-- Nothing has changed but that there are directories along some paths. -/
structure DirectoriesAdded (paths : List String) (before after : FileTree) : Prop where
  /-- One is where one was. -/
  home : after.home = before.home
  /-- Whatever has changed is a new directory. -/
  changed : ∀ key, after.entries.lookup key = before.entries.lookup key ∨
    NewDirectory paths before after key

namespace DirectoriesAdded

variable {paths more : List String}

theorem refl (paths : List String) (tree : FileTree) : DirectoriesAdded paths tree tree :=
  ⟨rfl, fun _ => .inl rfl⟩

theorem keepsDirectories (h : DirectoriesAdded paths before after) :
    KeepsDirectories before after := by
  refine ⟨h.home, fun place there => ?_⟩
  cases place with
  | nil => rfl
  | cons name place =>
    have known : before.entries.lookup (pathOf (name :: place)) = some .directory := there
    rcases h.changed (pathOf (name :: place)) with same | ⟨missing, -⟩
    · exact same.trans known
    · rw [known] at missing
      cases missing

theorem mono (h : DirectoriesAdded paths before after) (sub : paths ⊆ more) :
    DirectoriesAdded more before after := by
  refine ⟨h.home, fun key => (h.changed key).imp_right ?_⟩
  rintro ⟨missing, there, path, mem, leads⟩
  exact ⟨missing, there, path, sub mem, leads⟩

theorem trans (first : DirectoriesAdded paths before middle)
    (second : DirectoriesAdded paths middle after) : DirectoriesAdded paths before after := by
  refine ⟨second.home.trans first.home, fun key => ?_⟩
  rcases second.changed key with same | ⟨missing, there, leads⟩
  · rcases first.changed key with unchanged | ⟨missing, there, path, mem, place, leads, key_eq⟩
    · exact .inl (same.trans unchanged)
    · exact .inr ⟨missing, same.trans there, path, mem, place,
        second.keepsDirectories.leadsTo leads, key_eq⟩
  · -- what was missing in between was missing before
    refine .inr ⟨?_, there, leads⟩
    rcases first.changed key with unchanged | ⟨gone, -⟩
    · rwa [unchanged] at missing
    · exact gone

theorem of_makeDirectory (h : before.makeDirectory path = .ok after) (mem : path ∈ paths) :
    DirectoriesAdded paths before after := by
  obtain ⟨place, leads, missing, rfl⟩ := makeDirectory_eq_ok h
  obtain ⟨directory, name, target, rfl⟩ := leads
  have keeps : KeepsDirectories before (before.put (name :: directory) .directory) :=
    .put fun _ => rfl
  have leads := keeps.leadsTo ⟨directory, name, target, rfl⟩
  refine ⟨rfl, fun key => ?_⟩
  by_cases here : key = pathOf (name :: directory)
  · refine .inr ⟨?_, ?_, path, mem, _, leads, here⟩
    · rw [here]
      exact missing
    · rw [here]
      exact entry?_put before name directory .directory
  · rw [lookup_put, if_neg here]
    exact .inl rfl

end DirectoriesAdded

/-- A path leads to a file with a content, and nothing else has changed but that there are the
directories in which it lies. -/
structure Stored (path content : String) (before after : FileTree) : Prop where
  /-- The path leads to a file with the content. -/
  content : after.readFile path = .ok content
  /-- All paths around it lead to directories. -/
  around : ∀ other ∈ Path.surroundings path, after.isDirectory other = true
  /-- One is where one was. -/
  home : after.home = before.home
  /-- Whatever has changed is the file or a new directory. -/
  changed : ∀ key, after.entries.lookup key = before.entries.lookup key ∨
    NewDirectory (Path.surroundings path) before after key ∨
    ∃ place, after.LeadsTo path place ∧ key = pathOf place

/-- A file that is written after directories are added is stored. -/
theorem stored_of_writeFile {content : String}
    (added : DirectoriesAdded (Path.surroundings path) before middle)
    (h : middle.writeFile path content = .ok after) : Stored path content before after := by
  obtain ⟨place, leads, free, slash, rfl⟩ := writeFile_eq_ok h
  obtain ⟨directory, name, target, rfl⟩ := leads
  have keeps : KeepsDirectories middle (middle.put (name :: directory) (.file content)) :=
    .put fun there => absurd there free
  have stays := keeps.target target
  refine ⟨?content, ?around, added.home, ?changed⟩
  case content =>
    rw [readFile, find, stays]
    simp only [entry?_put, slash]
    rfl
  case around =>
    exact LeadsTo.isDirectory_surroundings ⟨directory, name, stays, rfl⟩
  case changed =>
    intro key
    by_cases here : key = pathOf (name :: directory)
    · exact .inr (.inr ⟨_, ⟨directory, name, stays, rfl⟩, here⟩)
    · have same := lookup_put middle (name :: directory) (.file content) key
      rw [if_neg here] at same
      rcases added.changed key with unchanged | ⟨missing, there, other, mem, place, leads, key_eq⟩
      · exact .inl (same.trans unchanged)
      · exact .inr (.inl
          ⟨missing, same.trans there, other, mem, place, keeps.leadsTo leads, key_eq⟩)

end FileTree
end DocModel
