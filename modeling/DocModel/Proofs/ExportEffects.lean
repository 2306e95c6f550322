import DocModel.Exporting
import DocModel.Proofs.Files.Disks

/-!
# DocModel.Proofs.ExportEffects

What an export leaves of the files, by its result. The document is converted before anything is
done with files, but directories are made before the file is written, and they stay if it is not.

* `Destination.Gives`: the path that a destination gives to the file;
* `ExportEffect`: what is left, for each result;
* `export_effect`: this is so on every disk that keeps its tree;
* `export_leaves_directory`: a failed export that leaves a directory.
-/

namespace DocModel

open FileTree

/-- A destination gives a path to the file for a format: if it is taken for a directory, or is one,
that of a file in it, and else its own. -/
def Destination.Gives (d : Destination) (target : Target) (tree : FileTree) (path : String) :
    Prop :=
  (path = Path.join d.path target.standardFileName ∧
    (d.isDirectory = true ∨ tree.isDirectory d.path = true)) ∨
  (path = d.path ∧ d.isDirectory = false)

/-- What an export leaves of a tree, by its result. -/
structure ExportEffect (breaks : Prop) (source : String) (target : Target) (options : Options)
    (destination : Option Destination) (before : FileTree)
    (result : Except ConversionError Artifact) (after : FileTree) : Prop where
  /-- If the document is not converted, this is the error, and nothing has changed. -/
  refused : ∀ e, convert source target options = .error e → result = .error e ∧ after = before
  /-- If the result is a text, there is no destination, and nothing has changed. -/
  kept : ∀ text, result = .ok (.text text) →
    destination = none ∧ convert source target options = .ok text ∧ after = before
  /-- If it is a file, it holds the text, and what has changed besides are directories around it. -/
  stored : ∀ path, result = .ok (.file path) → ∃ d text,
    destination = some d ∧ d.Gives target before path ∧
      convert source target options = .ok text ∧ Stored path text before after
  /-- If the document is converted and the file is not written, the error is that of a call, and
  what has changed are directories around the file, unless writing broke off. -/
  unwritten : ∀ e text, result = .error e → convert source target options = .ok text →
    ∃ d path reason, destination = some d ∧ d.Gives target before path ∧
      e = .io (FileError.message reason) ∧
      (DirectoriesAdded (Path.surroundings path) before after ∨
        breaks ∧ ∃ part, part.toList <+: text.toList ∧ Stored path part before after)

namespace ExportEffect

variable {breaks : Prop} {source text path : String} {target : Target} {options : Options}
  {destination : Option Destination} {d : Destination} {before after : FileTree}

theorem of_refused {e : ConversionError} (h : convert source target options = .error e) :
    ExportEffect breaks source target options destination before (.error e) before where
  refused := by
    intro other same
    rw [h, Except.error.injEq] at same
    exact ⟨congrArg _ same, rfl⟩
  kept := fun _ absurd => by cases absurd
  stored := fun _ absurd => by cases absurd
  unwritten := by
    intro _ _ _ converted
    rw [h] at converted
    cases converted

theorem of_kept (h : convert source target options = .ok text) :
    ExportEffect breaks source target options none before (.ok (.text text)) before where
  refused := by
    intro e refused
    rw [h] at refused
    cases refused
  kept := by
    intro other same
    cases same
    exact ⟨rfl, h, rfl⟩
  stored := fun _ absurd => by cases absurd
  unwritten := fun _ _ absurd => by cases absurd

theorem of_stored (h : convert source target options = .ok text)
    (gives : d.Gives target before path) (written : Stored path text before after) :
    ExportEffect breaks source target options (some d) before (.ok (.file path)) after where
  refused := by
    intro e refused
    rw [h] at refused
    cases refused
  kept := fun _ absurd => by cases absurd
  stored := by
    intro other same
    cases same
    exact ⟨d, text, rfl, gives, h, written⟩
  unwritten := fun _ _ absurd => by cases absurd

theorem of_unwritten (h : convert source target options = .ok text) (reason : FileError)
    (gives : d.Gives target before path)
    (left : DirectoriesAdded (Path.surroundings path) before after ∨
      breaks ∧ ∃ part, part.toList <+: text.toList ∧ Stored path part before after) :
    ExportEffect breaks source target options (some d) before (.error (.io reason.message))
      after where
  refused := by
    intro e refused
    rw [h] at refused
    cases refused
  kept := fun _ absurd => by cases absurd
  stored := fun _ absurd => by cases absurd
  unwritten := by
    intro e other same converted
    rw [h, Except.ok.injEq] at converted
    cases same
    exact ⟨d, path, reason, rfl, gives, rfl, converted ▸ left⟩

end ExportEffect

section

variable {σ : Type} [FileAccess (StateM σ)] {breaks : Prop} {tree : σ → FileTree}
  (keeps : KeepsTree breaks tree) {source text : String} {target : Target} {options : Options}
include keeps

theorem Destination.filePath_leaves (d : Destination) (target : Target) (s : σ) :
    Leaves tree (d.filePath target) s fun path after =>
      after = tree s ∧ d.Gives target (tree s) path := by
  rw [Destination.filePath]
  refine (keeps.looked d.path s).bind fun found s' looked => ?_
  split
  · next directory =>
    have there := (Bool.or_eq_true_iff.1 directory).imp_right looked.2
    exact .pure ⟨looked.1, .inl ⟨rfl, there⟩⟩
  · next plain =>
    simp only [Bool.or_eq_true, not_or, Bool.not_eq_true] at plain
    exact .pure ⟨looked.1, .inr ⟨rfl, plain.1⟩⟩

theorem Destination.store_leaves (h : convert source target options = .ok text) (d : Destination)
    (s : σ) : Leaves tree (d.store target text) s
      (ExportEffect breaks source target options (some d) (tree s)) := by
  rw [Destination.store]
  refine (d.filePath_leaves keeps target s).bind fun path s' chosen => ?_
  refine (FileAccess.writeWithDirectories_leaves keeps path text s').bind fun result s'' left => ?_
  rw [chosen.1] at left
  cases result with
  | ok _ => exact .pure (.of_stored h chosen.2 left)
  | error e => exact .pure (.of_unwritten h e chosen.2 left)

/-- On every disk that keeps its tree an export leaves this, for every document and destination. -/
theorem export_effect (source : String) (target : Target) (options : Options)
    (destination : Option Destination) (s : σ) :
    Leaves tree (exportTo source target options destination) s
      (ExportEffect breaks source target options destination (tree s)) := by
  unfold exportTo
  split
  · next refused => exact .pure (.of_refused refused)
  · next converted => exact Destination.store_leaves keeps converted _ s
  · next converted => exact .pure (.of_kept converted)

end

def plainSource : String := "### A\n- x\n  - Type: string\n"

/-- The home of somebody in a tree that holds nothing else. -/
def homeTree : FileTree := { entries := [("home", .directory)], home := ["home"] }

/-- A file beside the home: the directory for it is made. -/
theorem export_effect_homeTree :
    KeepsTree False (id : FileTree → FileTree) ∧
    ((exportTo plainSource .mermaid [] (some { path := "../out/./a.mmd" }) :
      StateM FileTree (Except ConversionError Artifact)) homeTree).1 =
        .ok (.file "../out/./a.mmd") ∧
    Leaves id (exportTo plainSource .mermaid [] (some { path := "../out/./a.mmd" })) homeTree
      (ExportEffect False plainSource .mermaid [] (some { path := "../out/./a.mmd" }) homeTree) :=
  ⟨keepsTree_id, by decide +kernel, export_effect keepsTree_id _ _ _ _ _⟩

/-- A path that ends in a slash is no path for a file, but the directory around it is made before
this comes out. -/
theorem export_leaves_directory :
    let outcome := (exportTo plainSource .mermaid [] (some { path := "new/sub/" }) :
      StateM FileTree (Except ConversionError Artifact)) {}
    outcome.1 = .error (.io "Is a directory (os error 21)") ∧
      outcome.2 = { entries := [("new", .directory)] } ∧ outcome.2 ≠ {} := by
  decide +kernel

end DocModel
