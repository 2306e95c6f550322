import DocModel.CommandLine.Run

/-!
# DocModel.Main

The program on a disk.
-/

namespace DocModel

/-- What went wrong on the disk. -/
def FileError.ofDisk : IO.Error → FileError
  | .noFileOrDirectory .. => .notFound
  | .alreadyExists .. => .alreadyExists
  | .inappropriateType _ 20 _ => .notDirectory
  | .inappropriateType _ 21 _ => .isDirectory
  | e => .other (toString e)

/-- An action on the disk that may fail. -/
def attemptOnDisk {α : Type} (action : IO α) : IO (Except FileError α) := do
  match ← action.toBaseIO with
  | .ok a => return .ok a
  | .error e => return .error (.ofDisk e)

def readFromDisk (path : String) : IO (Except FileError String) := do
  match ← attemptOnDisk (IO.FS.readBinFile path) with
  | .error e => return .error e
  | .ok bytes =>
    match String.fromUTF8? bytes with
    | some content => return .ok content
    | none => return .error (.other "stream did not contain valid UTF-8")

instance : FileAccess IO where
  readFile := readFromDisk
  isFile path := do
    let place := (← IO.currentDir) / path
    return (← place.pathExists) && !(← place.isDir)
  isDirectory path := do return !path.isEmpty && (← ((← IO.currentDir) / path).isDir)
  makeDirectory path := attemptOnDisk (IO.FS.createDir path)
  writeFile path content := attemptOnDisk (IO.FS.writeFile path content)

end DocModel

def main (arguments : List String) : IO UInt32 := do
  let reply ← (DocModel.CommandLine.run arguments : IO DocModel.CommandLine.Reply)
  IO.print reply.output
  IO.eprint reply.errors
  return reply.code.toUInt32
