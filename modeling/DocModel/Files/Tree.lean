import DocModel.Files.Access
import DocModel.Text.Dictionary

/-!
# DocModel.Files.Tree

The files and directories below a root, as a value. `FileTree` gives `FileAccess` to programs with
such a state; a path that starts at the root leads on from there, any other from where one is.
-/

namespace DocModel

/-- What a path may lead to. -/
inductive FileEntry where
  | directory
  | file (content : String)
  deriving DecidableEq, Repr

/-- A place below a root: the names of the directories from the innermost to the outermost. -/
abbrev FileTree.Place := List String

/-- The entries below a root by their paths. -/
structure FileTree where
  /-- The paths from the root with what they lead to. -/
  entries : List (String × FileEntry) := []
  ascending : Ascending entries := by decide
  home : FileTree.Place := []
  deriving DecidableEq

namespace FileTree

def pathOf (place : Place) : String := String.intercalate "/" place.reverse

def entry? (tree : FileTree) : Place → Option FileEntry
  | [] => some .directory
  | place => tree.entries.lookup (pathOf place)

def put (tree : FileTree) (place : Place) (entry : FileEntry) : FileTree where
  entries := insertEntry (pathOf place) entry tree.entries
  ascending := tree.ascending.insertEntry (pathOf place) entry
  home := tree.home

/-- A place if there is a directory. -/
def directoryAt (tree : FileTree) (place : Place) : Except FileError Place :=
  match tree.entry? place with
  | some .directory => .ok place
  | some (.file _) => .error .notDirectory
  | none => .error .notFound

/-- The directory that steps from a place lead to. -/
def walk (tree : FileTree) (place : Place) : List Path.Step → Except FileError Place
  | [] => .ok place
  | .stay :: rest => walk tree place rest
  | .back :: rest => walk tree place.tail rest
  | .down name :: rest =>
    match tree.directoryAt (name :: place) with
    | .ok inner => walk tree inner rest
    | .error e => .error e

/-- The end of a path: a directory with the last step from it. -/
structure Target where
  directory : Place
  last : Path.Step

def start (tree : FileTree) (path : String) : Place :=
  if Path.isAbsolute path then [] else tree.home

/-- Where a path leads to if it leads through directories only. -/
def target (tree : FileTree) (path : String) : Except FileError Target :=
  let steps := Path.steps path
  match steps.getLast? with
  | none =>
    if Path.isAbsolute path then .ok { directory := [], last := .stay } else .error .notFound
  | some last =>
    (tree.walk (tree.start path) steps.dropLast).map fun directory => { directory, last }

/-- The entry that a path leads to. -/
def find (tree : FileTree) (path : String) : Except FileError FileEntry :=
  match tree.target path with
  | .error e => .error e
  | .ok t =>
    match t.last with
    | .down name =>
      match tree.entry? (name :: t.directory) with
      | some (.file content) =>
        if Path.endsInSlash path then .error .notDirectory else .ok (.file content)
      | some .directory => .ok .directory
      | none => .error .notFound
    | _ => .ok .directory

def readFile (tree : FileTree) (path : String) : Except FileError String :=
  match tree.find path with
  | .ok (.file content) => .ok content
  | .ok .directory => .error .isDirectory
  | .error e => .error e

/-- Whether a path leads to a file. -/
def isFile (tree : FileTree) (path : String) : Bool :=
  match tree.find path with
  | .ok (.file _) => true
  | _ => false

/-- Whether a path leads to a directory. -/
def isDirectory (tree : FileTree) (path : String) : Bool :=
  match tree.find path with
  | .ok .directory => true
  | _ => false

/-- The tree with one more directory. -/
def makeDirectory (tree : FileTree) (path : String) : Except FileError FileTree :=
  match tree.target path with
  | .error e => .error e
  | .ok t =>
    match t.last with
    | .down name =>
      match tree.entry? (name :: t.directory) with
      | some _ => .error .alreadyExists
      | none => .ok (tree.put (name :: t.directory) .directory)
    | _ => .error .alreadyExists

def writeFile (tree : FileTree) (path content : String) : Except FileError FileTree :=
  match tree.target path with
  | .error e => .error e
  | .ok t =>
    match t.last with
    | .down name =>
      if Path.endsInSlash path || tree.entry? (name :: t.directory) = some .directory then
        .error .isDirectory
      else .ok (tree.put (name :: t.directory) (.file content))
    | _ => .error .isDirectory

/-- A change that may fail, as a step of a program; a failure changes nothing. -/
def attempt (change : FileTree → Except FileError FileTree) :
    StateM FileTree (Except FileError Unit) := fun tree =>
  match change tree with
  | .ok changed => (.ok (), changed)
  | .error e => (.error e, tree)

instance : FileAccess (StateM FileTree) where
  readFile path := fun tree => (tree.readFile path, tree)
  isFile path := fun tree => (tree.isFile path, tree)
  isDirectory path := fun tree => (tree.isDirectory path, tree)
  makeDirectory path := attempt (·.makeDirectory path)
  writeFile path content := attempt (·.writeFile path content)

/-- The tree of files with their contents and the directories around them. -/
def ofFiles (files : List (String × String)) : FileTree :=
  files.foldl
    (fun tree file =>
      (FileAccess.writeWithDirectories file.1 file.2 : StateM FileTree (Except FileError Unit))
        tree |>.2)
    {}

/-- The entries that are not in another tree, or differ from it. -/
def changesSince (tree before : FileTree) : List (String × FileEntry) :=
  tree.entries.filter fun entry => before.entries.lookup entry.1 != some entry.2

end FileTree
end DocModel
