import DocModel.Number.Shortest
import DocModel.Text.Dictionary
import DocModel.Text.Escape
import DocModel.Yaml.Document
import DocModel.Yaml.Resolve

/-!
# DocModel.Yaml.Reading

Typed values read from a YAML document, part by part. A value of the wrong type is an error at the
place of that value, under the keys that lead to it; an error found before the end of the document
is reported even if the document is broken further on.

* `readText`, `readBool`, `readOptionalText` and `readTexts` read one value of a type;
* `readEntries` reads the entries of a mapping by what is to be done with each key;
* `ReadError.message` words an error.
-/

namespace DocModel
namespace Yaml

open Number Text

/-- What was found in place of a value of another type. -/
inductive Found where
  | unit
  | bool (value : Bool)
  | int (value : Int)
  | float (value : Double)
  | text (value : String)
  | sequence
  | mapping

namespace Found

/-- A magnitude with every place written and a point. -/
def decimalText (v : Magnitude) : List Char :=
  let text := positional v
  if text.contains '.' then text else text ++ ['.', '0']

/-- The words for what was found. -/
def phrase : Found → String
  | unit => "unit value"
  | bool value => "boolean \x60" ++ (if value then "true" else "false") ++ "\x60"
  | int value =>
    let width :=
      if Nat.pow 2 64 ≤ value then " as u128"
      else if value < -(Nat.pow 2 63 : Int) then " as i128"
      else ""
    "integer \x60" ++ intText value ++ "\x60" ++ width
  | float value => "floating point \x60" ++ value.text decimalText "inf" "NaN" ++ "\x60"
  | text value => "string " ++ quoted value
  | sequence => "sequence"
  | mapping => "map"

end Found

/-- What was expected. -/
inductive Expected where
  | bool
  | int
  | float
  | null
  | text
  | mapping
  /-- The settings of a model. -/
  | settings
  /-- The name of a setting. -/
  | field
  deriving DecidableEq

namespace Expected

/-- The words for what was expected. -/
def phrase : Expected → String
  | bool => "a boolean"
  | int => "an integer"
  | float => "a float"
  | null => "null"
  | text => "a string"
  | mapping => "a map"
  | settings => "struct Config"
  | field => "field identifier"

end Expected

/-- What is wrong with a value. -/
inductive ValueFault where
  | type (found : Found) (expected : Expected)
  /-- Its text does not denote a value of the type that its tag names. -/
  | value (found : String) (expected : Expected)
  /-- A name that occurred before. -/
  | duplicate (name : String)

namespace ValueFault

def message : ValueFault → String
  | type found expected => "invalid type: " ++ found.phrase ++ ", expected " ++ expected.phrase
  | value found expected =>
    "invalid value: " ++ (Found.text found).phrase ++ ", expected " ++ expected.phrase
  | duplicate name => "duplicate field \x60" ++ name ++ "\x60"

end ValueFault

/-- The keys that lead to a value, the outermost first; none stands for a key that is no text. -/
abbrev Path := List (Option String)

def Path.phrase (path : Path) : String :=
  if path.isEmpty then "" else String.intercalate "." (path.map (·.getD "?")) ++ ": "

/-- Why a document cannot be read. -/
inductive ReadError where
  /-- It ends before the value does. -/
  | endOfText
  | broken (reason : Break)
  | severalDocuments
  /-- A value is wrong, under a path and at a place, as far as these are known. -/
  | value (fault : ValueFault) (place : Option (Path × Mark))

namespace ReadError

/-- An error with the place where it was found, unless a more precise one is known. -/
def located (path : Path) (mark : Mark) : ReadError → ReadError
  | value fault none => value fault (some (path, mark))
  | error => error

def mark? : ReadError → Option Mark
  | endOfText => none
  | broken (.problem p) => some p.mark
  | broken (.unknownAnchor mark) => some mark
  | severalDocuments => none
  | value _ place => place.map (·.2)

def message : ReadError → String
  | endOfText => "EOF while parsing a value"
  | broken (.problem p) => p.message
  | broken (.unknownAnchor mark) => "unknown anchor" ++ mark.phrase
  | severalDocuments =>
    "deserializing from YAML containing more than one document is not supported"
  | value fault (some (path, mark)) => path.phrase ++ fault.message ++ mark.phrase
  | value fault none => fault.message

end ReadError

/-- A value and the parts of the document after it. -/
abbrev Reads (α : Type) := Except ReadError (α × List Node)

/-- Why the parts of a document are at an end. -/
def Document.exhausted (document : Document) : ReadError :=
  match document.broken with
  | some reason => .broken reason
  | none => .endOfText

/-- Whether a tag is one of the usual types. -/
def isCoreTag (tag : Option (List Char)) (name : String) : Bool :=
  tag == some ("tag:yaml.org,2002:".toList ++ name.toList)

/-- What a plain text denotes, as something found. -/
def Found.ofPlain (text : List Char) : Found :=
  match resolve text with
  | .null => .unit
  | .bool value => .bool value
  | .int value => .int value
  | .float value => .float value
  | .text => .text (String.ofList text)

/-- The error for a text where a value of another type is expected. A tag of a usual type decides
what the text denotes. -/
def scalarFault (tag : Option (List Char)) (text : List Char) (style : ScalarStyle)
    (expected : Expected) : ValueFault :=
  let word := String.ofList text
  let reading (found : Option Found) (wanted : Expected) : ValueFault :=
    match found with
    | some found => .type found expected
    | none => .value word wanted
  if isCoreTag tag "bool" then reading ((boolWord? word).map .bool) .bool
  else if isCoreTag tag "int" then reading ((integerText? text).map .int) .int
  else if isCoreTag tag "float" then reading ((floatText? text).map .float) .float
  else if isCoreTag tag "null" then reading (if isNullWord word then some .unit else none) .null
  else if style == .plain && tag.all (·.head? == some '!') then .type (.ofPlain text) expected
  else .type (.text word) expected

/-- The error for a part where a value of another type is expected. -/
def Node.fault (node : Node) (expected : Expected) : ReadError :=
  match node.kind with
  | .scalar tag text style => .value (scalarFault tag text style expected) none
  | .sequenceStart => .value (.type .sequence expected) none
  | .mappingStart => .value (.type .mapping expected) none
  | _ => .endOfText

namespace Document

variable (document : Document)

/-- A value read by `read` from its first part and what follows; a reference is read from the
place of its value. Errors are located at the part. -/
def readAt {α : Type} (path : Path) (read : Node → List Node → Reads α) : List Node → Reads α
  | [] => .error document.exhausted
  | node :: rest =>
    match node.kind with
    | .reference id =>
      match document.target id with
      | [] => .error document.exhausted
      | first :: more =>
        match read first more with
        | .ok (value, _) => .ok (value, rest)
        | .error error => .error (error.located path first.mark)
    | _ => (read node rest).mapError (ReadError.located path node.mark)

def readText (path : Path) (expected : Expected) : List Node → Reads String :=
  document.readAt path fun node rest =>
    match node.kind with
    | .scalar _ text _ => .ok (String.ofList text, rest)
    | _ => .error (node.fault expected)

def readBool (path : Path) : List Node → Reads Bool :=
  document.readAt path fun node rest =>
    match node.kind with
    | .scalar tag text style =>
      let direct := style == .plain || (style == .literal && isCoreTag tag "bool")
      match direct, boolWord? (String.ofList text) with
      | true, some value => .ok (value, rest)
      | _, _ => .error (node.fault .bool)
    | _ => .error (node.fault .bool)

/-- Whether a part is a value or stands for none. The error of a wrong tag has no place of its
own. -/
def isPresent (node : Node) : Except ReadError Bool :=
  match node.kind with
  | .scalar tag text style =>
    let word := String.ofList text
    if style != .plain then .ok true
    else if isCoreTag tag "null" then
      if isNullWord word then .ok false else .error (.value (.value word .null) none)
    else if tag.isSome then .ok true
    else .ok (!text.isEmpty && !isNullWord word)
  | .void => .ok false
  | _ => .ok true

/-- A text, or none if the value is empty or a word for nothing. -/
def readOptionalText (path : Path) : List Node → Reads (Option String)
  | [] => .error document.exhausted
  | node :: rest =>
    let first := match node.kind with
      | .reference id => (document.target id).head?.getD node
      | _ => node
    match isPresent first with
    | .error error => .error error
    | .ok false => .ok (none, rest)
    | .ok true =>
      (document.readText path .text (node :: rest)).map fun (text, rest) => (some text, rest)

/-- The rest after one value, which is inside `depth` collections that began with it. -/
def skipValue : Nat → List Node → Except ReadError (List Node)
  | _, [] => .error document.exhausted
  | depth, node :: rest =>
    match node.kind with
    | .sequenceStart => skipValue (depth + 1) rest
    | .mappingStart => skipValue (depth + 1) rest
    | .sequenceEnd => if depth ≤ 1 then .ok rest else skipValue (depth - 1) rest
    | .mappingEnd => if depth ≤ 1 then .ok rest else skipValue (depth - 1) rest
    | _ => if depth == 0 then .ok rest else skipValue depth rest

/-- Up to `n` entries of a mapping: `entry` takes what has been read before, the key, the path of
the value and the parts from the value on. -/
def readEntries {α : Type} (path : Path) (keys : Expected)
    (entry : α → String → Path → List Node → Reads α) : Nat → α → List Node → Reads α
  | 0, value, rest => .ok (value, rest)
  | n + 1, value, nodes =>
    match nodes with
    | [] => .error document.exhausted
    | node :: rest =>
      match node.kind with
      | .mappingEnd => .ok (value, rest)
      | .void => .ok (value, rest)
      | kind =>
        match document.readText path keys nodes with
        | .error error => .error error
        | .ok (key, rest) =>
          let name := match kind with
            | .scalar _ _ _ => some key
            | _ => none
          match entry value key (path ++ [name]) rest with
          | .error error => .error error
          | .ok (value, rest) => readEntries path keys entry n value rest

/-- A mapping read entry by entry; an empty text counts as an empty mapping. -/
def readMapping {α : Type} (path : Path) (expected keys : Expected) (start : α)
    (entry : α → String → Path → List Node → Reads α) : List Node → Reads α :=
  document.readAt path fun node rest =>
    match node.kind with
    | .mappingStart => document.readEntries path keys entry (rest.length + 1) start rest
    | .void => .ok (start, rest)
    | .scalar _ text style =>
      if text.isEmpty && style == .plain then .ok (start, rest)
      else .error (node.fault expected)
    | _ => .error (node.fault expected)

/-- A mapping of texts to texts. -/
def readTexts (path : Path) : List Node → Reads Dictionary :=
  document.readMapping path .mapping .text .empty fun texts key path nodes =>
    (document.readText path .text nodes).map fun (value, rest) => (texts.insert key value, rest)

/-- The whole document read by `read`. Nothing may be wrong or follow after it. -/
def readAll {α : Type} (read : List Node → Reads α) : Except ReadError α := do
  let (value, _) ← read document.nodes
  match document.broken, document.followed with
  | some reason, _ => .error (.broken reason)
  | none, true => .error .severalDocuments
  | none, false => return value

end Document
end Yaml
end DocModel
