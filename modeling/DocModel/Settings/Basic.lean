import DocModel.Settings.KeyPath
import DocModel.Target.Basic
import DocModel.Toml.Document

/-!
# DocModel.Settings.Basic

The settings of the program, and how they are put together from layers: the defaults, then files in
order, then single values. A later layer counts before an earlier one, and a single value before
every file.
-/

namespace DocModel

open Text

/-- The settings of the program. -/
structure Settings where
  /-- The format for which none is asked for. -/
  target : Target
  /-- Whether definitions of a JSON Schema are put where they are used. -/
  inlineDefinitions : Bool
  /-- Whether a JSON Schema requires every property and allows no other. -/
  strict : Bool
  /-- The directory for files, if there is one. -/
  outputDirectory : Option String
  /-- Whether a document that defines nothing is accepted. -/
  acceptEmptyDocument : Bool
  logLevel : String
  deriving DecidableEq

namespace Settings

/-- Why there are no settings. -/
inductive LoadError where
  | malformedKey
  | missingFile (name : String)
  | malformedFile (name : String)
  /-- A value cannot be taken for one of a type. -/
  | wrongType (value : Value) (expected key : String)
  /-- The values do not have the form of settings. -/
  | wrongForm (reason : String)

def LoadError.message : LoadError → String
  | malformedKey => "malformed key"
  | missingFile name => "configuration file \"" ++ name ++ "\" not found"
  | malformedFile name => "malformed TOML in " ++ name
  | wrongType value expected key =>
    "invalid type: " ++ value.phrase ++ ", expected " ++ expected ++ " for key \x60" ++ key
      ++ "\x60"
  | wrongForm reason => reason

/-! ## Reading -/

/-- The values of a record, by name in a group and by place in a list. -/
def record (recordName : String) (names : List String) :
    Value → Except LoadError (List (String × Value))
  | .group entries => .ok entries
  | .list items => .ok (names.zip items)
  | v =>
    .error (.wrongForm ("invalid type: " ++ v.phrase ++ ", expected struct " ++ recordName))

def required (entries : List (String × Value)) (name : String) : Except LoadError Value :=
  match entries.lookup name with
  | some v => .ok v
  | none => .error (.wrongForm ("missing field \x60" ++ name ++ "\x60"))

/-- A truth value of a key. -/
def readBool (key : String) (v : Value) : Except LoadError Bool :=
  match v.asBool? with
  | some b => .ok b
  | none => .error (.wrongType v "a boolean" key)

def readText (key : String) (v : Value) : Except LoadError String :=
  match v.asText? with
  | some s => .ok s
  | none => .error (.wrongType v "a string" key)

/-- The format of an exact name. -/
def readTargetName (name : String) : Except LoadError Target :=
  match Target.ofName? name with
  | some target => .ok target
  | none =>
    .error (.wrongForm ("enum TemplateId does not have variant constructor " ++ name))

/-- A format: its name, or a group with its name alone. -/
def readTarget : Value → Except LoadError Target
  | .text name => readTargetName name
  | .group [(name, _)] => readTargetName name
  | _ =>
    .error (.wrongForm ("value of enum TemplateId should be represented by "
      ++ "either string or table with exactly one key"))

def ofValue (root : Value) : Except LoadError Settings := do
  let convert ← record "ConvertConfig" ["default_template", "json_schema", "output_dir"]
    (← required root.entries "convert")
  let target ← readTarget (← required convert "default_template")
  let schema ← record "JsonSchemaConfig" ["resolve_refs", "strict"]
    (← required convert "json_schema")
  let inlineDefinitions ←
    readBool "convert.json_schema.resolve_refs" (← required schema "resolve_refs")
  let strict ← readBool "convert.json_schema.strict" (← required schema "strict")
  let outputDirectory ← match convert.lookup "output_dir" with
    | none => pure none
    | some .nothing => pure none
    | some v => (readText "convert.output_dir" v).map some
  let validate ← record "ValidateConfig" ["ignore_empty_document"]
    (← required root.entries "validate")
  let acceptEmptyDocument ←
    readBool "validate.ignore_empty_document" (← required validate "ignore_empty_document")
  let logging ← record "LoggingConfig" ["level"] (← required root.entries "logging")
  let logLevel ← readText "logging.level" (← required logging "level")
  return { target, inlineDefinitions, strict, outputDirectory, acceptEmptyDocument, logLevel }

/-! ## Layers -/

/-- The values that hold where nothing is set. -/
def defaults : Value :=
  .group
    [("convert", .group
        [("default_template", .text "json-schema"),
         ("json_schema", .group [("resolve_refs", .boolean false), ("strict", .boolean false)])]),
     ("validate", .group [("ignore_empty_document", .boolean false)]),
     ("logging", .group [("level", .text "warn")])]

/-- Something that sets values. -/
inductive Layer where
  | single (key : String) (value : Value)
  /-- A file with its content, if there is one. -/
  | file (name : String) (content : Option String) (needed : Bool)

/-- The keys with their values in order. -/
def singles : List Layer → Except LoadError (List (KeyPath × Value))
  | [] => .ok []
  | .single key value :: rest =>
    match KeyPath.ofText? key with
    | some path => (singles rest).map ((path, value) :: ·)
    | none => .error .malformedKey
  | .file .. :: rest => singles rest

/-- The values with those of a file. Its names count as keys. -/
def addFile (name content : String) (root : Value) : Except LoadError Value :=
  match Toml.parse content with
  | none => .error (.malformedFile name)
  | some entries =>
    .ok (entries.foldl (fun root entry =>
      let key := (KeyPath.ofText? entry.1).getD (.ofName entry.1)
      Value.assignAt key (.ofToml entry.2) root) root)

/-- The values with those of the files in order. -/
def addFiles (root : Value) : List Layer → Except LoadError Value
  | [] => .ok root
  | .file name content needed :: rest =>
    match content, needed with
    | some text, _ =>
      match addFile name text root with
      | .ok next => addFiles next rest
      | .error e => .error e
    | none, true => .error (.missingFile name)
    | none, false => addFiles root rest
  | .single .. :: rest => addFiles root rest

/-- The settings that layers over the defaults give. -/
def ofLayers (layers : List Layer) : Except LoadError Settings := do
  let values ← singles layers
  let root ← addFiles defaults layers
  ofValue (values.foldl (fun root entry => Value.assignAt entry.1 entry.2 root) root)

end Settings
end DocModel
