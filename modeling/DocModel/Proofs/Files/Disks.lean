import DocModel.Files.Access
import DocModel.Proofs.Files.Trees

/-!
# DocModel.Proofs.Files.Disks

Programs on a state with a tree of files that changes only by the calls of the program. A call may
be refused for any reason, and then it has done nothing; writing may also break off in the middle.

* `Leaves`: what a program leaves, and how that is put together from its calls;
* `KeepsTree`: what a call does to the tree, by its result; a tree by itself is such a state;
* `ensureDirectories_leaves`: in whatever way making directories ends, only directories are added;
* `writeWithDirectories_leaves`: and a file only if it is written.
-/

namespace DocModel

open FileTree

variable {σ α β : Type}

/-- What a program leaves from a state: its result and the tree have a property. -/
def Leaves (tree : σ → FileTree) (program : StateM σ α) (s : σ) (post : α → FileTree → Prop) :
    Prop :=
  post (program s).1 (tree (program s).2)

section

variable {tree : σ → FileTree} {s : σ}

theorem Leaves.pure {a : α} {post : α → FileTree → Prop} (h : post a (tree s)) :
    Leaves tree (Pure.pure a) s post := h

theorem Leaves.bind {program : StateM σ α} {next : α → StateM σ β}
    {mid : α → FileTree → Prop} {post : β → FileTree → Prop} (first : Leaves tree program s mid)
    (later : ∀ a s', mid a (tree s') → Leaves tree (next a) s' post) :
    Leaves tree (program >>= next) s post :=
  later (program s).1 (program s).2 first

theorem Leaves.mono {program : StateM σ α} {mid post : α → FileTree → Prop}
    (h : Leaves tree program s mid) (weaker : ∀ a after, mid a after → post a after) :
    Leaves tree program s post :=
  weaker _ _ h

end

/-- The calls of programs do to the tree of a state what they say if they succeed, and nothing if
they fail, except that, where it may, writing breaks off. -/
structure KeepsTree [FileAccess (StateM σ)] (breaks : Prop) (tree : σ → FileTree) : Prop where
  /-- Looking for a directory changes nothing, and what is found is there. -/
  looked : ∀ path s, Leaves tree (FileAccess.isDirectory path) s fun found after =>
    after = tree s ∧ (found = true → (tree s).isDirectory path = true)
  /-- A directory is made or not. -/
  made : ∀ path s, Leaves tree (FileAccess.makeDirectory path) s fun
    | .ok (), after => (tree s).makeDirectory path = .ok after
    | .error _, after => after = tree s
  /-- A content is written or not, or a beginning of it. -/
  written : ∀ path content s, Leaves tree (FileAccess.writeFile path content) s fun
    | .ok (), after => (tree s).writeFile path content = .ok after
    | .error _, after => after = tree s ∨
        breaks ∧ ∃ part, part.toList <+: content.toList ∧ (tree s).writeFile path part = .ok after

theorem attempt_leaves (change : FileTree → Except FileError FileTree) (before : FileTree) :
    Leaves id (attempt change) before fun
      | .ok (), after => change before = .ok after
      | .error _, after => after = before := by
  rw [Leaves]
  simp only [attempt]
  cases change before <;> rfl

/-- A tree by itself is changed as the calls say, and writing does not break off. -/
theorem keepsTree_id : KeepsTree False (id : FileTree → FileTree) where
  looked := fun _ _ => ⟨rfl, id⟩
  made := fun path => attempt_leaves (·.makeDirectory path)
  written := fun path content before =>
    (attempt_leaves (·.writeFile path content) before).mono fun
      | .ok (), _, written => written
      | .error _, _, same => .inl same

namespace FileAccess

variable [FileAccess (StateM σ)] {breaks : Prop} {tree : σ → FileTree}
  (keeps : KeepsTree breaks tree) {path : String} {paths : List String}
include keeps

/-- A directory that is there already is as good as one that is made. -/
theorem ensureDirectory_leaves (mem : path ∈ paths) (s : σ) :
    Leaves tree (ensureDirectory path) s fun _ after => DirectoriesAdded paths (tree s) after := by
  rw [ensureDirectory]
  refine (keeps.made path s).bind fun result s' made => ?_
  cases result with
  | ok _ => exact .pure (.of_makeDirectory made mem)
  | error e =>
    refine (keeps.looked path s').bind fun found s'' looked => .pure ?_
    rw [looked.1, made]
    exact .refl paths _

/-- However it ends, nothing but directories along the paths is added. -/
theorem ensureDirectories_leaves (s : σ) : Leaves tree (ensureDirectories paths) s fun _ after =>
    DirectoriesAdded paths (tree s) after := by
  induction paths generalizing s with
  | nil => exact .pure (.refl [] _)
  | cons path outer ih =>
    rw [ensureDirectories]
    refine (keeps.made path s).bind fun result s' made => ?_
    split
    · exact .pure (.of_makeDirectory made List.mem_cons_self)
    · -- the directory around it is missing too: first all those around are made
      refine (ih s').bind fun result s'' added => ?_
      rw [made] at added
      have added := added.mono (List.subset_cons_self path outer)
      cases result with
      | ok _ => exact (ensureDirectory_leaves keeps List.mem_cons_self s'').mono fun _ _ =>
          added.trans
      | error e => exact .pure added
    · refine (keeps.looked path s').bind fun found s'' looked => .pure ?_
      rw [looked.1, made]
      exact .refl _ _

/-- What writing a content leaves, by its result: the file, or at most directories around it. -/
theorem writeWithDirectories_leaves (path content : String) (s : σ) :
    Leaves tree (writeWithDirectories path content) s fun
      | .ok (), after => Stored path content (tree s) after
      | .error _, after => DirectoriesAdded (Path.surroundings path) (tree s) after ∨
          breaks ∧ ∃ part, part.toList <+: content.toList ∧ Stored path part (tree s) after := by
  rw [writeWithDirectories]
  refine (ensureDirectories_leaves keeps s).bind fun result s' added => ?_
  cases result with
  | error e => exact .pure (.inl added)
  | ok _ =>
    refine (keeps.written path content s').mono ?_
    rintro (_ | _) after written
    · rcases written with rfl | ⟨breaks, part, beginning, written⟩
      · exact .inl added
      · exact .inr ⟨breaks, part, beginning, stored_of_writeFile added written⟩
    · exact stored_of_writeFile added written

end FileAccess

end DocModel
