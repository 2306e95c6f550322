import DocModel.Text.Basic

/-!
# DocModel.Files.Path

Paths as texts: steps with slashes between them.

* `Path.steps` are the steps of a path; empty ones count for nothing;
* `Path.parent?` is the path without its last step;
* `Path.extension?` is what follows the last dot of the last name, unless the dot is its start.
-/

namespace DocModel
namespace Path

open Text

/-- A step of a path. -/
inductive Step where
  | stay
  | back
  /-- To the entry of a name. -/
  | down (name : String)
  deriving DecidableEq, Repr

/-- The step that a text stands for. -/
def Step.ofText (text : List Char) : Step :=
  if text = ['.'] then stay
  else if text = ['.', '.'] then back
  else down (String.ofList text)

/-- Whether a path starts at the root. -/
def isAbsolute (path : String) : Bool := path.toList.head? == some '/'

def steps (path : String) : List Step :=
  ((splitOn '/' path.toList).filter (!·.isEmpty)).map Step.ofText

/-- Whether a path says of its last entry that it is a directory. -/
def endsInSlash (path : String) : Bool := path.toList.getLast? == some '/'

/-- The last name of a path, unless it leads back at the end. -/
def fileName? (path : String) : Option String :=
  match ((steps path).filter (· != .stay)).getLast? with
  | some (.down name) => some name
  | _ => none

/-- What stands after the last dot of a name, if something stands before it. -/
def nameExtension? (name : List Char) : Option (List Char) :=
  match splitOnce '.' name.reverse with
  | some (after, before) => if before.isEmpty then none else some after.reverse
  | none => none

/-- The extension of the last name of a path. -/
def extension? (path : String) : Option String :=
  ((fileName? path).bind fun name => nameExtension? name.toList).map String.ofList

/-- A reversed path without slashes and steps of one dot in front. -/
def trimBack : List Char → List Char
  | '/' :: rest => trimBack rest
  | '.' :: '/' :: rest => trimBack rest
  | path => path

/-- The path without its last step. The root and the empty path have none. -/
def parent? (path : String) : Option String :=
  let body := trimBack path.toList.reverse
  if body.isEmpty then none
  else
    let rest := body.dropWhile (· != '/')
    let parent := trimBack rest
    if parent.isEmpty && !rest.isEmpty then some "/" else some (String.ofList parent.reverse)

def join (path name : String) : String :=
  if isAbsolute name || path.isEmpty then name
  else if endsInSlash path then path ++ name
  else path ++ "/" ++ name

/-- A path and all paths that it leads through, the longest first; at most `fuel` of them. -/
def ancestorsFrom : Nat → String → List String
  | 0, _ => []
  | fuel + 1, path =>
    if path.isEmpty then []
    else
      match parent? path with
      | some parent => path :: ancestorsFrom fuel parent
      | none => [path]

/-- A path and all paths that it leads through, the longest first, without the empty one. -/
def ancestors (path : String) : List String := ancestorsFrom (path.length + 1) path

end Path
end DocModel
