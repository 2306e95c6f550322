import DocModel.Dialect.Entry
import DocModel.Json.Scalar
import DocModel.Target.Basic

/-!
# DocModel.Target.JsonSchema

A model as a JSON Schema. One object is the root; definitions that are referred to are collected in
`$defs`, or put where they are used. A definition is not put inside itself: there a reference stays.

* `Schema` is a schema as a tree; `SchemaScope.typeSchema` builds it along the path of the objects
  that it is inside of;
* `Schema.toJson` writes it, and `Schema.references` lists the definitions that it refers to;
* `SchemaScope.definitions` follows references until there are no new ones.
-/

namespace DocModel
namespace Target.JsonSchema

open Number

/-- What is asked for. -/
structure Request where
  /-- The root object; the first one if none is named. -/
  root : Option String := none
  /-- Whether every property is required and no other is allowed. -/
  strict : Bool := false
  /-- Whether definitions are put where they are used. -/
  inline : Bool := false
  deriving DecidableEq

/-! ## Schemas as trees -/

/-- A schema. -/
inductive Schema where
  | anything
  /-- Values of a primitive type. -/
  | primitive (p : Primitive)
  /-- What the root object is. -/
  | root
  | definition (name : String)
  /-- The values of an enumeration. -/
  | members (e : Enumeration)
  /-- An object with its attributes and the schemas of their types. -/
  | object (o : Object) (properties : List (Attribute × List Schema))

/-- The schemas that depend on the model and the request. -/
structure SchemaScope where
  model : DataModel
  /-- The name of the root object. -/
  root : Option String
  /-- Whether definitions are put where they are used. -/
  inline : Bool

namespace SchemaScope

/-- The schema of a type inside the objects of a path; at most `fuel` more objects are put inside
each other. -/
def typeSchema (b : SchemaScope) : Nat → List String → String → Schema
  | fuel, path, dtype =>
    match b.model.classify dtype with
    | .primitive p => .primitive p
    | .unknown name => .definition name
    | .enumeration name =>
      match b.inline, b.model.enumeration? name with
      | true, some e => .members e
      | _, _ => .definition name
    | .object name =>
      if b.root == some name then .root
      else
        match fuel, b.inline && !path.contains name, b.model.object? name with
        | n + 1, true, some o =>
          .object o (o.attributes.map fun a =>
            (a, a.dtypes.map (typeSchema b n (o.name :: path))))
        | _, _, _ => .definition name

/-- How deep objects can be inside each other: each name occurs once on a path. -/
def depth (b : SchemaScope) : Nat := b.model.objects.length

/-- The schema of an object that is not inside another. -/
def objectSchema (b : SchemaScope) (o : Object) : Schema :=
  .object o (o.attributes.map fun a => (a, a.dtypes.map (b.typeSchema b.depth [o.name])))

def definitionSchema (b : SchemaScope) (name : String) : Schema :=
  match b.model.object? name with
  | some o => b.objectSchema o
  | none =>
    match b.model.enumeration? name with
    | some e => .members e
    | none => .anything

end SchemaScope

mutual

/-- The definitions that a schema refers to. -/
def Schema.references : Schema → List String
  | .definition name => [name]
  | .object _ properties => propertyReferences properties
  | _ => []

/-- The definitions that some schemas refer to. -/
def schemaReferences : List Schema → List String
  | [] => []
  | schema :: schemas => schema.references ++ schemaReferences schemas

/-- The definitions that the schemas of some properties refer to. -/
def propertyReferences : List (Attribute × List Schema) → List String
  | [] => []
  | (_, schemas) :: properties => schemaReferences schemas ++ propertyReferences properties

end

namespace SchemaScope

/-- The definitions built so far and those that more names need, in at most `rounds` rounds. -/
def definitionsFrom (b : SchemaScope) (names : List String) (built : List (String × Schema)) :
    Nat → List (String × Schema)
  | 0 => built
  | rounds + 1 =>
    let pending := names.eraseDups.filter fun name => !built.any (·.1 == name)
    if pending.isEmpty then built
    else
      let more := pending.map fun name => (name, b.definitionSchema name)
      definitionsFrom b (more.flatMap fun entry => entry.2.references) (built ++ more) rounds

/-- How many rounds there can be: each builds a definition that was not built before. -/
def rounds (b : SchemaScope) : Nat :=
  (b.model.allAttributes.flatMap (·.dtypes)).length + b.model.enums.length + 1

/-- The definitions that some names need. -/
def definitions (b : SchemaScope) (names : List String) : List (String × Schema) :=
  b.definitionsFrom names [] b.rounds

end SchemaScope

/-! ## Schemas as JSON -/

/-- The fields of an object in order of their names. -/
abbrev Fields := List (String × Json)

/-- The fields with more fields; one of the same name replaces the one before. -/
def Fields.putAll (fields : Fields) (more : Fields) : Fields :=
  more.foldl (fun fields entry => insertEntry entry.1 entry.2 fields) fields

/-- A field with a text, unless it is empty. -/
def describe (docstring : String) : Fields :=
  if docstring.isEmpty then [] else [("description", .string docstring)]

/-- The fields of a primitive type. -/
def primitiveFields : Primitive → Fields
  | .string | .identifier => [("type", .string "string")]
  | .integer => [("type", .string "integer")]
  | .float | .number => [("type", .string "number")]
  | .boolean => [("type", .string "boolean")]
  | .bytes => [("contentEncoding", .string "base64"), ("type", .string "string")]
  | .date => [("format", .string "date"), ("type", .string "string")]
  | .dateTime => [("format", .string "date-time"), ("type", .string "string")]

/-- A finite number; a whole one is an integer. -/
def numberJson (negative : Bool) (v : Magnitude) : Json :=
  match v.whole? with
  | some n =>
    if n < Nat.pow 2 63 then .int (if negative then -(n : Int) else n) else .float negative v
  | none => .float negative v

/-- The finite number that a text is. -/
def numberText? (text : String) : Option Json :=
  match Double.read? text.toList with
  | some (.finite negative v) => some (numberJson negative v)
  | _ => none

/-- A text without the double quotes around it. -/
def unquoted (text : String) : String := Text.onChars (Text.trimWhere (· == '"')) text

/-- A value of a primitive type, or its text if it is none. -/
def typedLiteral (p : Primitive) (text : String) : Json :=
  let value := match p with
    | .integer => (integer? text.toList).map Json.int
    | .float | .number => numberText? text
    | .boolean =>
      match Text.asciiLowercase text with
      | "true" => some (.bool true)
      | "false" => some (.bool false)
      | _ => none
    | _ => none
  value.getD (.string text)

/-- A default value. Its type is the first type of its attribute; without a primitive type it is a
number, a truth value or a text by its form. -/
def defaultJson (m : DataModel) (a : Attribute) (value : String) : Json :=
  match a.primaryType?.map m.classify with
  | some (.primitive p) => typedLiteral p (unquoted value)
  | some (.enumeration _) => .string (unquoted value)
  | _ => (Json.scalar? value).getD (.string (unquoted value))

/-- The options that give bounds, and the keywords for them. -/
def boundKeywords : List (String × String) :=
  [("minimum", "minimum"), ("maximum", "maximum"), ("exclusiveminimum", "exclusiveMinimum"),
   ("exclusivemaximum", "exclusiveMaximum"), ("minlength", "minLength"),
   ("maxlength", "maxLength"), ("minitems", "minItems"), ("maxitems", "maxItems")]

/-- What an attribute says of its values besides their types. -/
def annotations (m : DataModel) (a : Attribute) : Fields :=
  describe a.docstring
    ++ (a.term.toList.map fun term => ("$term", .string term))
    ++ (a.default?.toList.map fun value => ("default", defaultJson m a value))
    ++ (boundKeywords.filterMap fun (option, keyword) =>
          ((a.option? option).bind numberText?).map fun n => (keyword, n))
    ++ ((a.option? "pattern").toList.map fun pattern => ("pattern", .string pattern))

/-- The fields of one of several alternatives. -/
def alternativeFields : List Json → Fields
  | [] => []
  | [.object fields] => fields
  | [other] => [("allOf", .array [other])]
  | many => [("anyOf", .array many)]

/-- The fields of a property with these alternatives for its values. -/
def propertyFields (m : DataModel) (a : Attribute) (alternatives : List Json) : Fields :=
  let item := alternativeFields alternatives
  let base := if a.multiple then [("items", .object item), ("type", .string "array")] else item
  Fields.putAll base (annotations m a)

/-- The names of the attributes that have to be present. -/
def requiredNames (strict : Bool) (o : Object) : List String :=
  (o.attributes.filter fun a => strict || a.isRequired).map (·.name)

/-- The fields of an object with these properties. -/
def objectFields (strict : Bool) (o : Object) (properties : Fields) : Fields :=
  let required := requiredNames strict o
  Fields.putAll []
    ([("title", .string o.name), ("type", .string "object")] ++ describe o.docstring
      ++ [("properties", .object properties)]
      ++ (if required.isEmpty then [] else [("required", .array (required.map .string))])
      ++ (if strict then [("additionalProperties", .bool false)] else []))

def memberFields (e : Enumeration) : Fields :=
  Fields.putAll []
    ([("title", .string e.name), ("type", .string "string")] ++ describe e.docstring
      ++ [("enum", .array (e.mappings.values.map .string))])

mutual

def Schema.fields (m : DataModel) (strict : Bool) : Schema → Fields
  | .anything => []
  | .primitive p => primitiveFields p
  | .root => [("$ref", .string "#")]
  | .definition name => [("$ref", .string ("#/$defs/" ++ name))]
  | .members e => memberFields e
  | .object o properties => objectFields strict o (propertiesFields m strict [] properties)

def schemaList (m : DataModel) (strict : Bool) : List Schema → List Json
  | [] => []
  | schema :: schemas => .object (schema.fields m strict) :: schemaList m strict schemas

/-- The properties of an object after others. -/
def propertiesFields (m : DataModel) (strict : Bool) (before : Fields) :
    List (Attribute × List Schema) → Fields
  | [] => before
  | (a, schemas) :: properties =>
    let property := propertyFields m a (schemaList m strict schemas)
    propertiesFields m strict (insertEntry a.name (.object property) before) properties

end

/-! ## Documents -/

def draft : String := "https://json-schema.org/draft/2020-12/schema"

/-- The object that a request takes as root: the one it names or the first, if there is any. -/
def rootObject (m : DataModel) (request : Request) : Except ConversionError (Option Object) :=
  match request.root with
  | some name =>
    match m.object? name with
    | some o => .ok (some o)
    | none => .error (.render ("Root object '" ++ name ++ "' is not defined"))
  | none => .ok m.objects.head?

/-- The document of a model with a root object or without. -/
def documentOf (m : DataModel) (request : Request) (root : Option Object) : Json :=
  let b : SchemaScope := { model := m, root := root.map (·.name), inline := request.inline }
  let body := root.map b.objectSchema
  let needed := match body with
    | some schema => schema.references
    | none => m.enums.map (·.name)
  let definitions := (b.definitions needed).map fun entry =>
    (entry.1, Json.object (entry.2.fields m request.strict))
  .object
    (Fields.putAll []
      ([("$schema", .string draft)]
        ++ (m.config.repo.toList.map fun repo => ("$id", .string repo))
        ++ ((body.map (·.fields m request.strict)).getD [])
        ++ (if definitions.isEmpty then []
            else [("$defs", .object (Fields.putAll [] definitions))])))

def document (m : DataModel) (request : Request) : Except ConversionError Json :=
  (rootObject m request).map (documentOf m request)

/-- A model as the text of a schema. -/
def renderRequest (m : DataModel) (request : Request) : Except ConversionError String :=
  (document m request).map (·.pretty)

/-! ## Parameters -/

/-- A parameter that is a truth value. -/
def flag (key value : String) : Except ConversionError Bool :=
  match Dialect.boolValue? value with
  | some b => .ok b
  | none =>
    .error (.notSupported
      ("Parameter '" ++ key ++ "' expects true or false, got '" ++ value ++ "'"))

/-- A request with one more parameter. -/
def Request.set (request : Request) (key value : String) : Except ConversionError Request :=
  match key with
  | "root" => .ok { request with root := some value }
  | "strict" => (flag key value).map fun strict => { request with strict }
  | "resolve-refs" => (flag key value).map fun inline => { request with inline }
  | _ =>
    .error (.notSupported ("Template 'json-schema' does not support parameter '" ++ key ++ "'"))

def Request.ofOptions (options : Options) : Except ConversionError Request :=
  options.foldlM (fun request entry => request.set entry.1 entry.2) {}

/-- A model with parameters as the text of a schema. -/
def render (options : Options) (m : DataModel) : Except ConversionError String := do
  renderRequest m (← Request.ofOptions options)

end Target.JsonSchema
end DocModel
