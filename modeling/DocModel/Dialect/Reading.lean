import DocModel.Dialect.Document
import DocModel.Dialect.Entry
import DocModel.Dialect.Section

/-!
# DocModel.Dialect.Reading

From the sections of a document to a data model. Nothing in a section makes the reading fail: a
line that cannot be read leaves a diagnostic at its place and is skipped.

* `readAttribute` reads a bullet, `takeOption` one of the bullets nested in it;
* `readEnumeration` reads the lines of code blocks;
* `parse` reads a whole document.
-/

namespace DocModel
namespace Dialect

open Text

/-- Something in a definition that cannot be read. -/
structure Diagnostic where
  message : String
  definition : String
  property : Option String
  position : SourcePosition
  deriving DecidableEq

/-- A value and what could not be read of it. -/
abbrev Diagnosed (α : Type) := α × List Diagnostic

/-! ## Attributes -/

/-- What is wrong with the text of a nested bullet. -/
inductive OptionFault where
  | noColon
  /-- Nothing stands before the colon. -/
  | noKey
  /-- Nothing stands after the colon. -/
  | noValue (key : String)
  /-- The value is no truth value. -/
  | notBoolean (value : String)
  deriving DecidableEq

/-- The words for a fault of a bullet with a text. -/
def OptionFault.message (text : String) : OptionFault → String
  | noColon => "Malformed option '" ++ text ++ "': expected 'Key: Value'"
  | noKey => "Option is missing its key"
  | noValue key => "Option '" ++ key ++ "' has no value"
  | notBoolean value => "Required must be 'true' or 'false', found '" ++ value ++ "'"

/-- The key and the value of a bullet. -/
def splitOption (text : String) : Except OptionFault (String × String) :=
  match splitOnce ':' text.toList with
  | none => .error .noColon
  | some (key, value) =>
    let key := String.ofList (trim key)
    let value := String.ofList (trim value)
    if key.isEmpty then .error .noKey
    else if value.isEmpty then .error (.noValue key)
    else .ok (key, value)

/-- A description with one more sentence. -/
def extended (docstring value : String) : String :=
  if docstring.isEmpty then value else docstring ++ " " ++ value

/-- An attribute with a property at a place. -/
def withProperty (a : Attribute) (key value : String) (position : SourcePosition) :
    Except OptionFault Attribute :=
  match asciiLowercase key with
  | "type" =>
    let (dtypes, multiple) := typeValue value.toList
    .ok { a with dtypes := a.dtypes ++ dtypes, multiple := a.multiple || multiple,
                 typePosition := a.typePosition.or (some position) }
  | "term" => .ok { a with term := some value, termPosition := some position }
  | "description" => .ok { a with docstring := extended a.docstring value }
  | "xml" => .ok { a with xml := XmlHint.read value }
  | "required" =>
    match boolValue? value with
    | some required => .ok { a with required }
    | none => .error (.notBoolean value)
  | _ => .ok { a with options := a.options ++ [{ key, value }] }

/-- The words for a bullet below a nested bullet. -/
def tooDeep (text : String) : String :=
  "Bullet '" ++ text ++ "' is nested too deeply; options are a single level below the attribute"

/-- An attribute of a definition with the property that a nested bullet gives. -/
def takeOption (table : LineTable) (definition : String) (a : Attribute) (item : ListItem) :
    Diagnosed Attribute :=
  let report (line : Nat) (message : String) : Diagnostic :=
    { message, definition, property := some a.name, position := table.positionOf line }
  let nested := item.children.map fun child => report child.line (tooDeep child.text)
  let result : Except OptionFault Attribute := do
    let (key, value) ← splitOption item.text
    withProperty a key value (table.positionOf item.line)
  match result with
  | .ok changed => (changed, nested)
  | .error fault => (a, nested ++ [report item.line (fault.message item.text)])

/-- An attribute of a definition with the properties that nested bullets give. -/
def takeOptions (table : LineTable) (definition : String) (a : Attribute) :
    List ListItem → Diagnosed Attribute
  | [] => (a, [])
  | item :: items =>
    let (changed, diagnostics) := takeOption table definition a item
    let (result, more) := takeOptions table definition changed items
    (result, diagnostics ++ more)

/-- The attribute of a definition that a bullet gives. -/
def readAttribute (table : LineTable) (definition : String) (item : ListItem) :
    Diagnosed (Option Attribute) :=
  let position := table.positionOf item.line
  if item.text.isEmpty then
    (none, [{ message := "Attribute bullet has no name", definition, property := none, position }])
  else
    let (name, isId) := attributeName item.text.toList
    let name := String.ofList name
    let start : Attribute := { name, isId, xml := XmlHint.ofElement name, position }
    let (a, diagnostics) := takeOptions table definition start item.children
    (some a, diagnostics)

/-- The attributes of a definition that bullets give. -/
def readAttributes (table : LineTable) (definition : String) :
    List ListItem → Diagnosed (List Attribute)
  | [] => ([], [])
  | item :: items =>
    let (a, diagnostics) := readAttribute table definition item
    let (rest, more) := readAttributes table definition items
    (a.toList ++ rest, diagnostics ++ more)

/-! ## Definitions -/

/-- The members of an enumeration with those of more lines. The first value of a member counts. -/
def readMembers (table : LineTable) (definition : String) (members : Dictionary) :
    List (Nat × String) → Diagnosed Dictionary
  | [] => (members, [])
  | (line, text) :: rest =>
    let report (message : String) : Diagnostic :=
      { message, definition, property := none, position := table.positionOf line }
    match readMemberLine text.toList with
    | .skip => readMembers table definition members rest
    | .mapping key value =>
      if members.contains key then
        let (result, more) := readMembers table definition members rest
        (result, report ("Enumeration member '" ++ key ++ "' is defined more than once") :: more)
      else readMembers table definition (members.insert key value) rest
    | .malformed =>
      let (result, more) := readMembers table definition members rest
      (result, report ("Malformed enumeration member '" ++ onChars trim text ++
        "': expected KEY = \"value\"") :: more)

def readEnumeration (table : LineTable) (s : Section) : Diagnosed Enumeration :=
  let (mappings, diagnostics) := readMembers table s.name .empty s.codeBlocks.flatten
  ({ name := s.name, mappings, docstring := s.description, position := table.positionOf s.line },
    diagnostics)

def readObject (table : LineTable) (s : Section) : Diagnosed Object :=
  let (attributes, diagnostics) := readAttributes table s.name s.lists.flatten
  ({ name := s.name, docstring := s.description, attributes,
     position := table.positionOf s.line },
    diagnostics)

/-- What a section defines. -/
inductive Definition where
  | object (o : Object)
  | enumeration (e : Enumeration)

namespace Definition

/-- The object, if it is one. -/
def object? : Definition → Option Object
  | object o => some o
  | enumeration _ => none

/-- The enumeration, if it is one. -/
def enumeration? : Definition → Option Enumeration
  | object _ => none
  | enumeration e => some e

def ofSection (table : LineTable) (s : Section) : Diagnosed Definition :=
  if s.isEnumeration then
    let (e, diagnostics) := readEnumeration table s
    (enumeration e, diagnostics)
  else
    let (o, diagnostics) := readObject table s
    (object o, diagnostics)

end Definition

/-! ## Documents -/

/-- The model of a document and what could not be read of it. -/
structure Reading where
  model : DataModel := {}
  /-- What could not be read. -/
  diagnostics : List Diagnostic := []

/-- An object whose attributes know whether one of their types is an enumeration. -/
def markEnumerations (enums : List String) (o : Object) : Object :=
  { o with attributes := o.attributes.map fun a =>
      { a with isEnum := a.dtypes.any (enums.contains ·) } }

def Reading.ofDocument (table : LineTable) (document : Document) : Reading :=
  let read := (sectionsOf document.blocks).map (Definition.ofSection table)
  let definitions := read.map (·.1)
  let enums := definitions.filterMap (·.enumeration?)
  let objects := definitions.filterMap (·.object?)
  { model :=
      { name := titleOf document.blocks
        objects := objects.map (markEnumerations (enums.map (·.name)))
        enums
        config := document.config }
    diagnostics := read.flatMap (·.2) }

/-- The model of a text. Only a broken front matter makes this fail. -/
def parse (source : String) : Except FrontMatterError Reading :=
  (Document.ofSource source.toList).map (Reading.ofDocument (LineTable.ofSource source.toList))

theorem document_of_parse {source : String} {reading : Reading}
    (h : parse source = .ok reading) :
    ∃ document, Document.ofSource source.toList = .ok document ∧
      reading = Reading.ofDocument (LineTable.ofSource source.toList) document := by
  rw [parse] at h
  cases read : Document.ofSource source.toList with
  | error error =>
    rw [read] at h
    cases h
  | ok document =>
    rw [read] at h
    cases h
    exact ⟨document, rfl, rfl⟩

/-- The model of a text, whatever could not be read. -/
def readModel (source : String) : Except FrontMatterError DataModel := (parse source).map (·.model)

end Dialect
end DocModel
