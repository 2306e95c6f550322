import DocModel.Model.Basic
import DocModel.Yaml.Reading

/-!
# DocModel.Dialect.FrontMatter

The front matter of a document: a block of YAML between two lines of three hyphens, the first of
which is the first line of the document. It holds the settings of the model.

* `partsOf` cuts it off without losing a character;
* `FrontMatter.config` reads the settings; unknown ones are ignored.

A document whose front matter is broken cannot be read at all: see `FrontMatterError`.
-/

namespace DocModel
namespace Dialect

open Text

/-- Why a document cannot be read. -/
inductive FrontMatterError where
  /-- The front matter that begins on a line has no end. -/
  | unterminatedFrontMatter (line : Nat)
  /-- The front matter is not what it should be. -/
  | frontMatter (line : Nat) (reason : String)
  deriving DecidableEq, Repr

namespace FrontMatterError

def line : FrontMatterError → Nat
  | unterminatedFrontMatter line => line
  | frontMatter line _ => line

def message : FrontMatterError → String
  | unterminatedFrontMatter line =>
    "front matter starting on line " ++ natText line ++ " is not terminated by '---'"
  | frontMatter line reason => "invalid front matter on line " ++ natText line ++ ": " ++ reason

end FrontMatterError

/-- A front matter. It begins on the first line. -/
structure FrontMatter where
  /-- The text between its first and its last line. -/
  yaml : List Char
  endLine : Nat

/-- The line of every first line of a front matter. -/
def FrontMatter.startLine : Nat := 1

/-- A document in two parts. -/
structure Parts where
  /-- The front matter, if there is one. -/
  front : Option FrontMatter
  body : List Char
  /-- How many lines come before that. -/
  offset : Nat

/-- Whether a line is a delimiter of a front matter: three hyphens with white space after them. -/
def isDelimiter (line : List Char) : Bool := trimEnd line == ['-', '-', '-']

/-- The lines before the first delimiter and those after it. -/
def splitAtDelimiter : List (List Char) → Option (List (List Char) × List (List Char))
  | [] => none
  | line :: rest =>
    if isDelimiter line then some ([], rest)
    else (splitAtDelimiter rest).map fun (before, after) => (line :: before, after)

/-- A document cut into front matter and body. -/
def partsOf (source : List Char) : Except FrontMatterError Parts :=
  match terminatedLines source with
  | [] => .ok { front := none, body := source, offset := 0 }
  | first :: rest =>
    if isDelimiter first then
      match splitAtDelimiter rest with
      | some (yaml, body) =>
        let endLine := yaml.length + 2
        .ok { front := some { yaml := yaml.flatten, endLine }, body := body.flatten,
              offset := endLine }
      | none => .error (.unterminatedFrontMatter FrontMatter.startLine)
    else .ok { front := none, body := source, offset := 0 }

/-- What has been read of the settings. -/
structure ConfigSoFar where
  config : Config := {}
  seen : List String := []

namespace ConfigSoFar

open Yaml

/-- The value of one more setting. -/
def readEntry (document : Document) (sofar : ConfigSoFar) (key : String) (path : Path)
    (nodes : List Node) : Reads ConfigSoFar :=
  let c := sofar.config
  let keep {α : Type} (read : List Node → Reads α) (set : α → Config) : Reads ConfigSoFar :=
    if sofar.seen.contains key then .error (.value (.duplicate key) none)
    else
      (read nodes).map fun (value, rest) =>
        ({ config := set value, seen := key :: sofar.seen }, rest)
  match key with
  | "id-field" => keep (document.readBool path) fun value => { c with idField := value }
  | "repo" => keep (document.readOptionalText path) fun value => { c with repo := value }
  | "prefix" => keep (document.readOptionalText path) fun value => { c with ownPrefix := value }
  | "prefixes" => keep (document.readTexts path) fun value => { c with prefixes := value }
  | "nsmap" => keep (document.readTexts path) fun value => { c with nsmap := value }
  | _ => (document.skipValue 0 nodes).map fun rest => (sofar, rest)

end ConfigSoFar

/-- The settings that a YAML text gives. -/
def readConfig (yaml : List Char) : Except Yaml.ReadError Config :=
  let document := Yaml.Document.ofText yaml
  document.readAll fun nodes =>
    (document.readMapping [] .settings .field {} (ConfigSoFar.readEntry document) nodes).map
      fun (sofar, rest) => (sofar.config, rest)

namespace FrontMatter

/-- The settings in a front matter; blank text sets nothing. An error is on the line of the
document that it belongs to. -/
def config (front : FrontMatter) : Except FrontMatterError Config :=
  if isBlank front.yaml then .ok {}
  else
    (readConfig front.yaml).mapError fun error =>
      let line := match error.mark? with
        | some mark => startLine + mark.line + 1
        | none => startLine
      .frontMatter line error.message

end FrontMatter
end Dialect
end DocModel
