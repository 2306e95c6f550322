import DocModel.CommandLine.Argument
import DocModel.Exporting
import DocModel.Settings.Basic
import DocModel.Text.Dictionary
import DocModel.Validation.Codec

/-!
# DocModel.CommandLine.Run

The program: what it prints, and the code with which it ends.

| Code | Meaning                                           |
|------|---------------------------------------------------|
| 0    | all is well                                       |
| 1    | something is wrong with a document or a file      |
| 2    | the arguments make no sense                       |
-/

namespace DocModel
namespace CommandLine

open Text

/-- What the program prints, and how it ends. -/
structure Reply where
  /-- The code with which it ends. -/
  code : Nat := 0
  output : String := ""
  /-- What it prints about errors. -/
  errors : String := ""
  deriving DecidableEq, Repr

namespace Reply

def failure (message : String) : Reply := { code := 1, errors := message ++ "\n" }

end Reply

def usageText : String :=
  unlines
    ["Usage: mdmodels [convert] <input> [--to <template>] [--output <path>]",
     "       mdmodels validate <input> [--json]",
     "       mdmodels inspect <input> [<view>]",
     "       mdmodels templates"]

def versionText : String := "mdmodels 0.2.0\n"

/-- The reply if there is nothing to be done. -/
def Stop.reply : Stop → Reply
  | usage => { code := 2, errors := usageText }
  | help => { output := usageText }
  | version => { output := versionText }

/-- A line of the list of templates. -/
def templateLine (t : Template) : String :=
  "  " ++ padRight 22 t.target.name ++ " ." ++ padRight 8 t.extension ++ " " ++ t.description

def templateList : String :=
  unlines
    ("Available templates:" :: "" :: Target.all.map fun target => templateLine target.template)

/-- The format that is asked for: by name, or by the file to be written, or by the settings. -/
def chooseTarget (asked output : Option String) (settings : Settings) :
    Except ConversionError Target :=
  match asked with
  | some name => Target.read name
  | none => .ok ((output.bind Registry.complete.detect?).getD settings.target)

/-- A truth value as a parameter. -/
def flagText (b : Bool) : String := if b then "true" else "false"

/-- The parameters for a format. Those that are given by name count before the others. -/
def chooseOptions (target : Target) (root : Option String) (inlineDefinitions strict : Bool)
    (parameters : List (String × String)) (settings : Settings) : Except Reply Options :=
  let named := (root.toList.map fun name => ("root", name)) ++ parameters
  if target = .jsonSchema then
    .ok (Dictionary.ofList
      ([("resolve-refs", flagText (settings.inlineDefinitions || inlineDefinitions)),
        ("strict", flagText (settings.strict || strict))] ++ named)).entries
  else if inlineDefinitions || strict then
    .error (.failure "Error: --resolve-refs and --strict only apply to json-schema")
  else .ok (Dictionary.ofList named).entries

def chooseDestination (output : Option String) (settings : Settings) : Option Destination :=
  match output, settings.outputDirectory with
  | some path, _ => some { path }
  | none, some path => some { path, isDirectory := true }
  | none, none => none

def reportText (input : String) (report : Validation.Report) : String :=
  if report.isValid then input ++ ": valid\n"
  else
    unlines
      ((input ++ ": " ++ natText report.findings.length ++ " error(s)") ::
        report.findings.map fun f => "  " ++ f.display)

/-- The reply to a request to validate. -/
def validateReply (input : String) (asJson : Bool) (settings : Settings) (source : String) :
    Reply :=
  let full := Validation.validate source
  let report := if settings.acceptEmptyDocument then full.withoutEmptyNotice else full
  { code := if report.isValid then 0 else 1
    output := if asJson then report.toJson.pretty ++ "\n" else reportText input report }

/-- The reply to a request to inspect. -/
def inspectReply (view source : String) : Reply :=
  match Editor.inspect source view with
  | .ok text => { output := text }
  | .error message => .failure ("Execution error: " ++ message)

def convertReply (input : String) : Except ConversionError Artifact → Reply
  | .ok (.text content) => { output := content }
  | .ok (.file path) => { errors := "Wrote " ++ path ++ "\n" }
  | .error (.invalidModel findings) =>
    { code := 1
      errors := unlines
        (("Error: '" ++ input ++ "' is not a valid model") ::
          findings.map fun f => "  " ++ f.display) }
  | .error e => .failure ("Conversion error: " ++ e.message)

section

variable {m : Type → Type} [Monad m] [FileAccess m]

/-- The content of a file with settings. The extension may be left out. -/
def settingsContent? (name : String) : m (Option String) := do
  let content? (path : String) : m (Option String) := do
    if ← FileAccess.isFile path then
      return (← FileAccess.readFile path).toOption
    else return none
  match ← content? name with
  | some content => return some content
  | none => content? (name ++ ".toml")

/-- The file with settings that is read if it is there. -/
def settingsFileName : String := "mdmodels.toml"

/-- The settings: those of the usual file and those of the file that is named. -/
def loadSettings (named : Option String) : m (Except Settings.LoadError Settings) := do
  let usual : Settings.Layer := .file settingsFileName (← settingsContent? settingsFileName) false
  match named with
  | none => return Settings.ofLayers [usual]
  | some name => return Settings.ofLayers [usual, .file name (← settingsContent? name) true]

/-- Does something with the content of a document. -/
def withSource (path : String) (use : String → m Reply) : m Reply := do
  match ← FileAccess.readFile path with
  | .ok source => use source
  | .error e => return .failure ("Error reading file '" ++ path ++ "': " ++ e.message)

def Command.perform (settings : Settings) (parameters : List (String × String)) :
    Command → m Reply
  | .convert input asked output root inlineDefinitions strict =>
    match chooseTarget asked output settings with
    | .error e => return .failure ("Error: " ++ e.message)
    | .ok target =>
      match chooseOptions target root inlineDefinitions strict parameters settings with
      | .error reply => return reply
      | .ok options =>
        withSource input fun source => do
          return convertReply input
            (← exportTo source target options (chooseDestination output settings))
  | .validate input asJson =>
    withSource input fun source => return validateReply input asJson settings source
  | .inspect input view => withSource input fun source => return inspectReply view source
  | .templates => return { output := templateList }

def run (arguments : List String) : m Reply := do
  let separated := separate arguments
  match interpret separated.kept with
  | .error stop => return stop.reply
  | .ok invocation =>
    match ← loadSettings invocation.settings with
    | .error e => return .failure ("Failed to load configuration: " ++ e.message)
    | .ok settings =>
      match invocation.command with
      | some command => command.perform settings separated.parameters
      | none => return .failure "Unknown subcommand. Use --help for usage information."

end

end CommandLine
end DocModel
