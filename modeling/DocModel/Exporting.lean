import DocModel.Conversion
import DocModel.Files.Access

/-!
# DocModel.Exporting

A document converted and, if there is a destination, written to a file. A destination that is a
directory gets a file with the default name of the format. Nothing is written unless the conversion
succeeds.
-/

namespace DocModel

/-- Where a text goes. -/
structure Destination where
  path : String
  /-- Whether it is taken for a directory, even if there is none yet. -/
  isDirectory : Bool := false
  deriving DecidableEq, Repr

/-- What becomes of a text. -/
inductive Artifact where
  | text (content : String)
  | file (path : String)
  deriving DecidableEq, Repr

section

variable {m : Type → Type} [Monad m] [FileAccess m]

/-- The path of the file for a format at a destination. -/
def Destination.filePath (d : Destination) (target : Target) : m String := do
  if d.isDirectory || (← FileAccess.isDirectory d.path) then
    return Path.join d.path target.standardFileName
  else return d.path

/-- A text put into a file at a destination. -/
def Destination.store (d : Destination) (target : Target) (content : String) :
    m (Except ConversionError Artifact) := do
  let path ← d.filePath target
  match ← FileAccess.writeWithDirectories path content with
  | .ok () => return .ok (.file path)
  | .error e => return .error (.io e.message)

/-- A document converted to a destination. -/
def exportTo (source : String) (target : Target) (options : Options)
    (destination : Option Destination) : m (Except ConversionError Artifact) :=
  match convert source target options, destination with
  | .error e, _ => return .error e
  | .ok content, some d => d.store target content
  | .ok content, none => return .ok (.text content)

end

end DocModel
