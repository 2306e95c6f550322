import DocModel.Files.Path

/-!
# DocModel.Files.Access

What a program does with files, and what goes wrong with them. A program that needs no more than
`FileAccess` runs on a `FileTree` as well as on a disk.
-/

namespace DocModel

/-- What goes wrong with a file. -/
inductive FileError where
  | notFound
  | alreadyExists
  /-- Something that is no directory stands where one is needed. -/
  | notDirectory
  | isDirectory
  | other (reason : String)
  deriving DecidableEq, Repr

def FileError.message : FileError → String
  | notFound => "No such file or directory (os error 2)"
  | alreadyExists => "File exists (os error 17)"
  | notDirectory => "Not a directory (os error 20)"
  | isDirectory => "Is a directory (os error 21)"
  | other reason => reason

/-- Reading and writing files. -/
class FileAccess (m : Type → Type) where
  /-- The content of a file. -/
  readFile : String → m (Except FileError String)
  /-- Whether a path leads to a file. -/
  isFile : String → m Bool
  /-- Whether a path leads to a directory. -/
  isDirectory : String → m Bool
  /-- Makes a directory in one that exists. -/
  makeDirectory : String → m (Except FileError Unit)
  /-- Puts a content into a file, which is made if there is none. -/
  writeFile : String → String → m (Except FileError Unit)

namespace FileAccess

variable {m : Type → Type} [Monad m] [FileAccess m]

/-- Makes a directory, unless it is there. -/
def ensureDirectory (path : String) : m (Except FileError Unit) := do
  match ← makeDirectory path with
  | .ok () => return .ok ()
  | .error e => return if ← isDirectory path then .ok () else .error e

/-- Makes a directory and those that it is inside of: the list has the longest path first. What
is missing is only looked for where making a directory fails for want of the one around it. -/
def ensureDirectories : List String → m (Except FileError Unit)
  | [] => return .ok ()
  | path :: outer => do
    match ← makeDirectory path with
    | .ok () => return .ok ()
    | .error .notFound =>
      match ← ensureDirectories outer with
      | .ok () => ensureDirectory path
      | .error e => return .error e
    | .error e => return if ← isDirectory path then .ok () else .error e

/-- Puts a content into a file after the directories around it are made. -/
def writeWithDirectories (path content : String) : m (Except FileError Unit) := do
  match ← ensureDirectories (((Path.parent? path).map Path.ancestors).getD []) with
  | .ok () => writeFile path content
  | .error e => return .error e

end FileAccess
end DocModel
