import DocModel.Json.Basic
import DocModel.Model.Basic

/-!
# DocModel.Model.Codec

Data models as JSON values.

* `DataModel.toJson` writes every field of a model; settings that are not set are left out;
* `DataModel.ofJson?` reads them back. Only settings and values that may be absent can be left
  out there. A record may also be given as the list of its values in order.
-/

namespace DocModel

open Json

namespace Span

/-- The span as a JSON value. -/
def toJson (s : Span) : Json :=
  .object [("start", .nat s.start), ("end", .nat s.stop)]

end Span

namespace SourcePosition

/-- The place as a JSON value. -/
def toJson (p : SourcePosition) : Json :=
  .object [("line", .nat p.line), ("column", p.column.toJson), ("offset", p.offset.toJson)]

end SourcePosition

namespace Dictionary

def toJson (d : Dictionary) : Json :=
  .object (d.entries.map fun entry => (entry.1, .string entry.2))

end Dictionary

namespace XmlHint

/-- The hint as a JSON value. -/
def toJson (x : XmlHint) : Json :=
  .object [("is_attr", .bool x.isAttribute), ("name", .string x.name)]

end XmlHint

namespace AttributeOption

/-- The option as a JSON value. -/
def toJson (o : AttributeOption) : Json :=
  .object [("key", .string o.key), ("value", .string o.value)]

end AttributeOption

def optionalPosition : Option SourcePosition → Json
  | some p => p.toJson
  | none => .null

namespace Attribute

/-- The attribute as a JSON value. -/
def toJson (a : Attribute) : Json :=
  .object
    [("name", .string a.name), ("multiple", .bool a.multiple), ("is_id", .bool a.isId),
     ("dtypes", .array (a.dtypes.map .string)), ("docstring", .string a.docstring),
     ("term", .optional a.term), ("required", .bool a.required), ("xml", a.xml.toJson),
     ("options", .array (a.options.map (·.toJson))), ("is_enum", .bool a.isEnum),
     ("position", a.position.toJson), ("type_position", optionalPosition a.typePosition),
     ("term_position", optionalPosition a.termPosition)]

end Attribute

namespace Object

/-- The object as a JSON value. -/
def toJson (o : Object) : Json :=
  .object
    [("name", .string o.name), ("docstring", .string o.docstring),
     ("attributes", .array (o.attributes.map (·.toJson))), ("position", o.position.toJson)]

end Object

namespace Enumeration

/-- The enumeration as a JSON value. -/
def toJson (e : Enumeration) : Json :=
  .object
    [("name", .string e.name), ("mappings", e.mappings.toJson),
     ("docstring", .string e.docstring), ("position", e.position.toJson)]

end Enumeration

namespace Config

/-- The field of a setting, unless it is empty. -/
def dictionaryField (name : String) (d : Dictionary) : List (String × Json) :=
  if d.isEmpty then [] else [(name, d.toJson)]

/-- The field of a setting, if it is set. -/
def textField (name : String) : Option String → List (String × Json)
  | some s => [(name, .string s)]
  | none => []

/-- The settings as a JSON value. -/
def toJson (c : Config) : Json :=
  .object
    ((if c.idField then [("id-field", .bool true)] else []) ++ textField "repo" c.repo
      ++ textField "prefix" c.ownPrefix ++ dictionaryField "prefixes" c.prefixes
      ++ dictionaryField "nsmap" c.nsmap)

end Config

namespace DataModel

/-- The model as a JSON value. -/
def toJson (m : DataModel) : Json :=
  .object
    [("name", .optional m.name), ("objects", .array (m.objects.map (·.toJson))),
     ("enums", .array (m.enums.map (·.toJson))), ("config", m.config.toJson)]

end DataModel

/-! ## Reading -/

namespace Json

def asBool? : Json → Option Bool
  | .bool value => some value
  | _ => none

def asString? : Json → Option String
  | .string value => some value
  | _ => none

/-- A number that counts something; it fits 64 bits. -/
def asNat? : Json → Option Nat
  | .int (.ofNat n) => if n < Nat.pow 2 64 then some n else none
  | _ => none

/-- A list whose members all have a reading. -/
def asList? {α : Type} (read : Json → Option α) : Json → Option (List α)
  | .array items => items.mapM read
  | _ => none

/-- A value that may be absent. -/
def asOption? {α : Type} (read : Json → Option α) : Json → Option (Option α)
  | .null => some none
  | value => (read value).map some

def asDictionary? : Json → Option Dictionary
  | .object fields =>
    (fields.mapM fun field => (asString? field.2).map fun text => (field.1, text)).map
      Dictionary.ofList
  | _ => none

/-- A record as an object: one given as the list of its values gets the names of its fields. -/
def asRecord? (names : List String) : Json → Option Json
  | .object fields => some (.object fields)
  | .array items => if items.length = names.length then some (.object (names.zip items)) else none
  | _ => none

/-- The value of a field that must be there. -/
def required? {α : Type} (record : Json) (name : String) (read : Json → Option α) : Option α :=
  record.field? name >>= read

/-- The value of a field that may be missing. -/
def optional? {α : Type} (record : Json) (name : String) (absent : α)
    (read : Json → Option α) : Option α :=
  match record.field? name with
  | some value => read value
  | none => some absent

end Json

namespace Span

/-- The span that a JSON value gives. -/
def ofJson? (value : Json) : Option Span := do
  let record ← value.asRecord? ["start", "end"]
  let start ← record.required? "start" asNat?
  let stop ← record.required? "end" asNat?
  return { start, stop }

end Span

namespace SourcePosition

/-- The place that a JSON value gives. -/
def ofJson? (value : Json) : Option SourcePosition := do
  let record ← value.asRecord? ["line", "column", "offset"]
  let line ← record.required? "line" asNat?
  let column ← record.required? "column" Span.ofJson?
  let offset ← record.required? "offset" Span.ofJson?
  return { line, column, offset }

end SourcePosition

namespace XmlHint

/-- The hint that a JSON value gives. -/
def ofJson? (value : Json) : Option XmlHint := do
  let record ← value.asRecord? ["is_attr", "name"]
  let isAttribute ← record.required? "is_attr" asBool?
  let name ← record.required? "name" asString?
  return { isAttribute, name }

end XmlHint

namespace AttributeOption

/-- The option that a JSON value gives. -/
def ofJson? (value : Json) : Option AttributeOption := do
  let record ← value.asRecord? ["key", "value"]
  let key ← record.required? "key" asString?
  let text ← record.required? "value" asString?
  return { key, value := text }

end AttributeOption

namespace Attribute

def fieldNames : List String :=
  ["name", "multiple", "is_id", "dtypes", "docstring", "term", "required", "xml", "options",
   "is_enum", "position", "type_position", "term_position"]

/-- The attribute that a JSON value gives. -/
def ofJson? (value : Json) : Option Attribute := do
  let record ← value.asRecord? fieldNames
  let name ← record.required? "name" asString?
  let multiple ← record.required? "multiple" asBool?
  let isId ← record.required? "is_id" asBool?
  let dtypes ← record.required? "dtypes" (asList? asString?)
  let docstring ← record.required? "docstring" asString?
  let term ← record.optional? "term" none (asOption? asString?)
  let required ← record.required? "required" asBool?
  let xml ← record.required? "xml" XmlHint.ofJson?
  let options ← record.required? "options" (asList? AttributeOption.ofJson?)
  let isEnum ← record.required? "is_enum" asBool?
  let position ← record.required? "position" SourcePosition.ofJson?
  let typePosition ← record.optional? "type_position" none (asOption? SourcePosition.ofJson?)
  let termPosition ← record.optional? "term_position" none (asOption? SourcePosition.ofJson?)
  return { name, multiple, isId, dtypes, docstring, term, required, xml, options, isEnum,
           position, typePosition, termPosition }

end Attribute

namespace Object

/-- The object that a JSON value gives. -/
def ofJson? (value : Json) : Option Object := do
  let record ← value.asRecord? ["name", "docstring", "attributes", "position"]
  let name ← record.required? "name" asString?
  let docstring ← record.required? "docstring" asString?
  let attributes ← record.required? "attributes" (asList? Attribute.ofJson?)
  let position ← record.required? "position" SourcePosition.ofJson?
  return { name, docstring, attributes, position }

end Object

namespace Enumeration

/-- The enumeration that a JSON value gives. -/
def ofJson? (value : Json) : Option Enumeration := do
  let record ← value.asRecord? ["name", "mappings", "docstring", "position"]
  let name ← record.required? "name" asString?
  let mappings ← record.required? "mappings" asDictionary?
  let docstring ← record.required? "docstring" asString?
  let position ← record.required? "position" SourcePosition.ofJson?
  return { name, mappings, docstring, position }

end Enumeration

namespace Config

def fieldNames : List String := ["id-field", "repo", "prefix", "prefixes", "nsmap"]

/-- The settings as a record. A list may give only the first of them. -/
def asRecord? : Json → Option Json
  | .array items =>
    if items.length ≤ fieldNames.length then some (.object (fieldNames.zip items)) else none
  | value => value.asRecord? fieldNames

/-- The settings that a JSON value gives. -/
def ofJson? (value : Json) : Option Config := do
  let record ← asRecord? value
  let idField ← record.optional? "id-field" false asBool?
  let repo ← record.optional? "repo" none (asOption? asString?)
  let ownPrefix ← record.optional? "prefix" none (asOption? asString?)
  let prefixes ← record.optional? "prefixes" .empty asDictionary?
  let nsmap ← record.optional? "nsmap" .empty asDictionary?
  return { idField, repo, ownPrefix, prefixes, nsmap }

end Config

namespace DataModel

/-- The model that a JSON value gives. -/
def ofJson? (value : Json) : Option DataModel := do
  let record ← value.asRecord? ["name", "objects", "enums", "config"]
  let name ← record.optional? "name" none (asOption? asString?)
  let objects ← record.required? "objects" (asList? Object.ofJson?)
  let enums ← record.required? "enums" (asList? Enumeration.ofJson?)
  let config ← record.required? "config" Config.ofJson?
  return { name, objects, enums, config }

end DataModel
end DocModel
