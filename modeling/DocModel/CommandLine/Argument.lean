import DocModel.Editor.Inspect
import DocModel.CommandLine.Parameter

/-!
# DocModel.CommandLine.Argument

The arguments of the program: options with one or two hyphens, and the rest, which are taken by
their place.

* `scan` reads arguments up to the name of a command;
* `Invocation.ofArguments` reads all of them;
* `interpret` puts `convert` in front where no command is named.
-/

namespace DocModel
namespace CommandLine

open Text

/-- Why there is nothing to be done. -/
inductive Stop where
  /-- The arguments make no sense. -/
  | usage
  | help
  /-- The version is asked for. -/
  | version
  deriving DecidableEq, Repr

/-- How often an option may be given, and with what. -/
inductive OptionKind where
  | flag
  | value
  /-- Any number of times, by itself. -/
  | repeated
  deriving DecidableEq, Repr

/-- An option. -/
structure OptionSpec where
  /-- Its name after two hyphens. -/
  name : String
  /-- Its letter after one hyphen. -/
  letter : Option Char := none
  kind : OptionKind

/-- What may be given in a place. -/
structure Level where
  options : List OptionSpec
  /-- Which texts are accepted, by their place among the arguments that are no options. -/
  places : List (String → Bool) := []
  /-- The commands that may follow. -/
  commands : List String := []
  /-- Whether the version can be asked for. -/
  hasVersion : Bool := false

/-- What is given. -/
structure Given where
  /-- The options with their values. -/
  options : List (String × String) := []
  /-- The other arguments in order. -/
  others : List String := []
  deriving DecidableEq, Repr

namespace Given

def value? (g : Given) (name : String) : Option String := g.options.lookup name

def has (g : Given) (name : String) : Bool := (g.value? name).isSome

def addOption (g : Given) (spec : OptionSpec) (value : String) : Except Stop Given :=
  if spec.kind != .repeated && g.has spec.name then .error .usage
  else .ok { g with options := g.options ++ [(spec.name, value)] }

/-- One more argument that is no option. -/
def addOther (level : Level) (g : Given) (argument : String) : Except Stop Given :=
  match level.places[g.others.length]? with
  | some accepts =>
    if accepts argument then .ok { g with others := g.others ++ [argument] } else .error .usage
  | none => .error .usage

/-- More arguments that are no options. -/
def addOthers (level : Level) (g : Given) : List String → Except Stop Given
  | [] => .ok g
  | argument :: rest =>
    match g.addOther level argument with
    | .ok next => addOthers level next rest
    | .error e => .error e

end Given

/-- What is given, and the option that still needs a value. -/
structure Progress where
  given : Given
  waiting : Option OptionSpec := none

/-- The options of letters after one hyphen. What follows the letter of an option with a value is
the value, with an equals sign before it or not. -/
def readLetters (level : Level) : List Char → Given → Except Stop Progress
  | [], g => .ok { given := g }
  | c :: rest, g =>
    match level.options.find? (·.letter == some c) with
    | some spec =>
      if spec.kind = .value then
        match rest with
        | [] => .ok { given := g, waiting := some spec }
        | '=' :: value => (g.addOption spec (String.ofList value)).map ({ given := · })
        | value => (g.addOption spec (String.ofList value)).map ({ given := · })
      else
        match g.addOption spec "" with
        | .ok next => readLetters level rest next
        | .error e => .error e
    | none =>
      if c == 'h' then .error .help
      else if c == 'V' && level.hasVersion then .error .version
      else .error .usage

/-- The option of a name after two hyphens, with a value after an equals sign or without. -/
def readLong (level : Level) (text : List Char) (g : Given) : Except Stop Progress :=
  let (name, value) := match splitOnce '=' text with
    | some (name, value) => (String.ofList name, some (String.ofList value))
    | none => (String.ofList text, none)
  match level.options.find? (·.name == name), value with
  | some spec, some v =>
    if spec.kind = .value then (g.addOption spec v).map ({ given := · }) else .error .usage
  | some spec, none =>
    if spec.kind = .value then .ok { given := g, waiting := some spec }
    else (g.addOption spec "").map ({ given := · })
  | none, some _ => .error .usage
  | none, none =>
    if name == "help" then .error .help
    else if name == "version" && level.hasVersion then .error .version
    else .error .usage

/-- Whether an argument is an option, or the two hyphens after which there is none. -/
def isOption (argument : String) : Bool := startsWithHyphen argument && argument != "-"

/-- What an argument gives that starts with a hyphen. -/
def readOption (level : Level) (argument : String) (g : Given) : Except Stop Progress :=
  match argument.toList with
  | '-' :: '-' :: text => readLong level text g
  | _ :: letters => readLetters level letters g
  | [] => .error .usage

/-- What arguments give, up to the name of a command and what follows it. -/
def scan (level : Level) :
    List String → Given → Except Stop (Given × Option (String × List String))
  | [], g => .ok (g, none)
  | argument :: rest, g =>
    if argument = "--" then (g.addOthers level rest).map (·, none)
    else if isOption argument then
      match readOption level argument g with
      | .error e => .error e
      | .ok { given, waiting := none } => scan level rest given
      | .ok { given, waiting := some spec } =>
        match rest with
        | [] => .error .usage
        | value :: more =>
          if isOption value then .error .usage
          else
            match given.addOption spec value with
            | .ok next => scan level more next
            | .error e => .error e
    else if level.commands.contains argument then .ok (g, some (argument, rest))
    else
      match g.addOther level argument with
      | .ok next => scan level rest next
      | .error e => .error e

/-! ## Commands -/

/-- What is to be done. -/
inductive Command where
  | convert (input : String) (target output root : Option String)
      (inlineDefinitions strict : Bool)
  | validate (input : String) (asJson : Bool)
  /-- A stage of the reading of a document is shown. -/
  | inspect (input view : String)
  | templates
  deriving DecidableEq, Repr

/-- What the arguments of the program say. -/
structure Invocation where
  settings : Option String
  /-- What is to be done, if anything is. -/
  command : Option Command
  deriving DecidableEq, Repr

/-- The options that may be given anywhere. -/
def commonOptions : List OptionSpec :=
  [{ name := "config", kind := .value },
   { name := "verbose", letter := some 'v', kind := .repeated }]

def commandNames : List String := ["convert", "validate", "inspect", "templates", "help"]

/-- What may be given before a command. -/
def outerLevel : Level :=
  { options := commonOptions, commands := commandNames, hasVersion := true }

def anyText (_ : String) : Bool := true

def isViewName (text : String) : Bool := (Editor.View.ofName? text).isSome

/-- What may be given after a command. -/
def commandLevel (name : String) : Level :=
  match name with
  | "convert" =>
    { options := commonOptions ++
        [{ name := "to", letter := some 't', kind := .value },
         { name := "output", letter := some 'o', kind := .value },
         { name := "root", kind := .value },
         { name := "resolve-refs", kind := .flag },
         { name := "strict", kind := .flag }]
      places := [anyText] }
  | "validate" =>
    { options := commonOptions ++ [{ name := "json", kind := .flag }], places := [anyText] }
  | "inspect" => { options := commonOptions, places := [anyText, isViewName] }
  | _ => { options := commonOptions }

/-- The command of a name with what is given after it. -/
def Command.ofGiven (name : String) (g : Given) : Except Stop Command :=
  match name, g.others with
  | "convert", [input] =>
    .ok (.convert input (g.value? "to") (g.value? "output") (g.value? "root")
      (g.has "resolve-refs") (g.has "strict"))
  | "validate", [input] => .ok (.validate input (g.has "json"))
  | "inspect", [input] => .ok (.inspect input Editor.View.model.name)
  | "inspect", [input, view] => .ok (.inspect input view)
  | "templates", [] => .ok .templates
  | _, _ => .error .usage

/-- The answer to the command for help: it knows the other commands. -/
def helpOn : List String → Stop
  | [] => .help
  | [name] => if commandNames.contains name then .help else .usage
  | _ => .usage

/-- What arguments say. Settings that are named after the command count before others. -/
def Invocation.ofArguments (arguments : List String) : Except Stop Invocation := do
  let (outer, command) ← scan outerLevel arguments {}
  match command with
  | none =>
    if outer.options.isEmpty then .error .usage
    else return { settings := outer.value? "config", command := none }
  | some (name, rest) =>
    if name = "help" then .error (helpOn rest)
    else
      let (inner, _) ← scan (commandLevel name) rest {}
      let command ← Command.ofGiven name inner
      return { settings := (inner.value? "config").or (outer.value? "config"), command }

/-- What arguments say if the command may be left out: then it is to convert. -/
def interpret (arguments : List String) : Except Stop Invocation :=
  match Invocation.ofArguments arguments, arguments with
  | .error stop, first :: _ =>
    if startsWithHyphen first || commandNames.contains first then .error stop
    else Invocation.ofArguments ("convert" :: arguments)
  | result, _ => result

end CommandLine
end DocModel
