import DocModel.Target.Layout
import DocModel.Text.Escape

/-!
# DocModel.Target.Rdf

Names in RDF: the prefixes of a document, and the terms that stand for attributes, types and
members.

* `PrefixTable.ofModel` collects the prefixes: fixed ones, that of the model itself, and those of
  the settings that are not bound yet;
* `PrefixTable.predicateOf` writes the term of an attribute.
-/

namespace DocModel

open Text

namespace Target.Rdf

/-- Where models are published that do not say where. -/
def publicBase : String := "https://w3id.org/mdmodels/"

/-- The namespace of the types of XML Schema. -/
def xsdNamespace : String := "http://www.w3.org/2001/XMLSchema#"

def shaclNamespace : String := "http://www.w3.org/ns/shacl#"

def baseIri (m : DataModel) : String := m.config.repo.getD (publicBase ++ m.slug ++ "/")

/-- Prefixes with what they stand for. -/
structure PrefixTable where
  /-- The prefix of the model's own names. -/
  basePrefix : String
  bindings : List (String × String)

/-- The bindings with those of more entries whose prefix is not bound yet. -/
def bindMissing (bindings : List (String × String)) :
    List (String × String) → List (String × String)
  | [] => bindings
  | entry :: entries =>
    if bindings.any (·.1 == entry.1) then bindMissing bindings entries
    else bindMissing (bindings ++ [entry]) entries

namespace PrefixTable

/-- The prefixes for a model, after fixed ones. -/
def ofModel (m : DataModel) (leading : List (String × String)) : PrefixTable :=
  let basePrefix := m.config.ownPrefix.getD "md"
  { basePrefix
    bindings := bindMissing (leading ++ [(basePrefix, baseIri m)])
      (m.config.prefixes.entries ++ m.config.nsmap.entries) }

/-- A name of the model itself. -/
def localName (ns : PrefixTable) (name : String) : String := ns.basePrefix ++ ":" ++ name

def isBound (ns : PrefixTable) (term : String) : Bool :=
  match splitOnce ':' term.toList with
  | some (name, _) => ns.bindings.any (·.1 == String.ofList name)
  | none => false

/-- The predicate of an attribute: its term if that is a full name or has a bound prefix, otherwise
a name of the model itself. -/
def predicateOf (ns : PrefixTable) (a : Attribute) : String :=
  match a.term with
  | some term =>
    if contains "://".toList term.toList then "<" ++ term ++ ">"
    else if ns.isBound term then term
    else ns.localName a.name
  | none => ns.localName a.name

end PrefixTable

/-- The type of XML Schema for a primitive type. -/
def xsdDatatype : Primitive → String
  | .string | .identifier => "xsd:string"
  | .integer => "xsd:integer"
  | .float => "xsd:double"
  | .number => "xsd:decimal"
  | .boolean => "xsd:boolean"
  | .bytes => "xsd:base64Binary"
  | .date => "xsd:date"
  | .dateTime => "xsd:dateTime"

def literal (text : String) : String := "\"" ++ escapeString text ++ "\""

/-- The values of the enumeration of a name, as literals. -/
def memberLiterals (m : DataModel) (name : String) : List String :=
  match m.enumeration? name with
  | some e => e.mappings.values.map literal
  | none => []

end Target.Rdf
end DocModel
