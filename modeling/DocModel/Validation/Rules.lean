import DocModel.Dialect.Reading
import DocModel.Validation.Finding
import DocModel.Validation.Name

/-!
# DocModel.Validation.Rules

What is asked of a model. Each rule lists what breaks it and never stops early.

| Rule              | Broken by                                                     |
|-------------------|---------------------------------------------------------------|
| `diagnosticRule`  | a line that could not be read                                 |
| `duplicateRule`   | a name that was given before                                  |
| `nameRule`        | a name that is no identifier                                  |
| `typeRule`        | an attribute without a type, an unknown type, a list of ids   |
| `termRule`        | a term that is no URI and has no declared prefix              |
| `xmlRule`         | a name that is no XML name                                    |
| `enumerationRule` | an enumeration without members                                |
-/

namespace DocModel
namespace Validation

/-- A finding about an object or one of its attributes. -/
def findingAt (kind : FindingKind) (message : String) (definition : String)
    (property : Option String) (position : SourcePosition) : Finding :=
  { kind, message, definition := some definition, property, positions := [position] }

/-- A rule for attributes applied to every attribute of a model. -/
def forAttributes (m : DataModel) (rule : Object → Attribute → List Finding) : List Finding :=
  m.objects.flatMap fun o => o.attributes.flatMap (rule o)

/-- A line that could not be read. -/
def diagnosticFinding (d : Dialect.Diagnostic) : Finding :=
  findingAt .parseError d.message d.definition d.property d.position

/-- Every line that could not be read. -/
def diagnosticRule (diagnostics : List Dialect.Diagnostic) : List Finding :=
  diagnostics.map diagnosticFinding

/-- The heading of a definition. -/
structure Heading where
  kind : String
  name : String
  position : SourcePosition
  deriving DecidableEq

def Heading.ofObject (o : Object) : Heading := ⟨"Object", o.name, o.position⟩

def Heading.ofEnumeration (e : Enumeration) : Heading := ⟨"Enumeration", e.name, e.position⟩

/-- The headings of a model in the order of their lines. -/
def headings (m : DataModel) : List Heading :=
  (m.objects.map Heading.ofObject ++ m.enums.map Heading.ofEnumeration).mergeSort
    fun a b => a.position.line ≤ b.position.line

/-- The items whose name is among `seen` or is the name of an earlier item. -/
def repeatedAfter {α : Type} (name : α → String) (seen : List String) : List α → List α
  | [] => []
  | item :: rest =>
    if seen.contains (name item) then item :: repeatedAfter name seen rest
    else repeatedAfter name (name item :: seen) rest

/-- The items whose name is the name of an earlier item. -/
def repeated {α : Type} (name : α → String) (items : List α) : List α := repeatedAfter name [] items

/-- A definition with the name of an earlier one. -/
def duplicateHeading (h : Heading) : Finding :=
  findingAt .duplicateError (h.kind ++ " '" ++ h.name ++ "' is defined more than once") h.name none
    h.position

/-- An attribute with the name of an earlier one of the same object. -/
def duplicateAttribute (o : Object) (a : Attribute) : Finding :=
  findingAt .duplicateError
    ("Attribute '" ++ a.name ++ "' is defined more than once in object '" ++ o.name ++ "'")
    o.name (some a.name) a.position

/-- Every name that was given before: definitions, and attributes of one object. -/
def duplicateRule (m : DataModel) : List Finding :=
  (repeated (·.name) (headings m)).map duplicateHeading ++
    m.objects.flatMap fun o => (repeated (·.name) o.attributes).map (duplicateAttribute o)

/-- A definition whose name is no identifier. -/
def definitionNameFinding (kind name : String) (position : SourcePosition) : List Finding :=
  if isDefinitionName name.toList then []
  else
    [findingAt .nameError
      ("Name '" ++ name ++ "' of " ++ kind ++
        " is invalid: use letters, digits and underscores, starting with a letter")
      name none position]

/-- An attribute whose name is no identifier. -/
def attributeNameFinding (o : Object) (a : Attribute) : List Finding :=
  if isAttributeName a.name.toList then []
  else
    [findingAt .nameError
      ("Name '" ++ a.name ++ "' of attribute in object '" ++ o.name ++
        "' is invalid: use letters, digits and underscores")
      o.name (some a.name) a.position]

/-- Every name that is no identifier. -/
def nameRule (m : DataModel) : List Finding :=
  (m.objects.flatMap fun o =>
    definitionNameFinding "object" o.name o.position ++
      o.attributes.flatMap (attributeNameFinding o)) ++
  m.enums.flatMap fun e => definitionNameFinding "enumeration" e.name e.position

/-- What is wrong with the types of an attribute. -/
def typeFindings (m : DataModel) (o : Object) (a : Attribute) : List Finding :=
  let anchor := a.typePosition.getD a.position
  let about (message : String) (position : SourcePosition) : Finding :=
    findingAt .typeError message o.name (some a.name) position
  let place := "attribute '" ++ a.name ++ "' in object '" ++ o.name ++ "'"
  let missing :=
    if a.dtypes.isEmpty then
      [about ("Attribute '" ++ a.name ++ "' in object '" ++ o.name ++ "' has no type") a.position]
    else []
  let unknown := (a.dtypes.filter fun dtype => (m.resolve dtype).isNone).map fun dtype =>
    about ("Type '" ++ dtype ++ "' of " ++ place ++ " is not defined") anchor
  let listed :=
    if a.isId && a.multiple then
      [about ("Identifier '" ++ a.name ++ "' in object '" ++ o.name ++ "' cannot be an array")
        anchor]
    else []
  missing ++ unknown ++ listed

/-- Everything that is wrong with types. -/
def typeRule (m : DataModel) : List Finding := forAttributes m (typeFindings m)

/-- What is wrong with a term under some settings. -/
def termFault? (c : Config) (term : String) : Option String :=
  if isUri term.toList then none
  else
    match curiePrefix? term.toList with
    | some name =>
      let name := String.ofList name
      if c.bindsPrefix name then none
      else some ("Prefix '" ++ name ++ "' of term '" ++ term ++
        "' is not declared in the front matter")
    | none => some ("Term '" ++ term ++ "' is neither a URI nor a 'prefix:local' CURIE")

/-- What is wrong with the term of an attribute. -/
def termFindings (m : DataModel) (o : Object) (a : Attribute) : List Finding :=
  match a.term.bind (termFault? m.config) with
  | some message =>
    [findingAt .termError message o.name (some a.name) (a.termPosition.getD a.position)]
  | none => []

/-- Everything that is wrong with terms. -/
def termRule (m : DataModel) : List Finding := forAttributes m (termFindings m)

/-- What is wrong with the XML name of an attribute. The name that it has without a hint is left
to the rule for names. -/
def xmlFindings (o : Object) (a : Attribute) : List Finding :=
  if a.xml = XmlHint.ofElement a.name || isXmlName a.xml.name.toList then []
  else
    [findingAt .xmlError
      ("XML name '" ++ a.xml.name ++ "' of attribute '" ++ a.name ++ "' is not a valid XML name")
      o.name (some a.name) a.position]

/-- Everything that is wrong with XML names. -/
def xmlRule (m : DataModel) : List Finding := forAttributes m xmlFindings

def enumerationRule (m : DataModel) : List Finding :=
  (m.enums.filter (·.mappings.isEmpty)).map fun e =>
    findingAt .globalError ("Enumeration '" ++ e.name ++ "' has no members") e.name none e.position

end Validation
end DocModel
