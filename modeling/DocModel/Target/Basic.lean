import DocModel.Validation.Report

/-!
# DocModel.Target.Basic

The formats into which a model can be rendered, what goes wrong on the way, and what a template
for a format is.

A template takes parameters as a list of names with values. Most templates have none and refuse
every parameter (`Template.withoutOptions`).
-/

namespace DocModel

open Text

/-- A format. -/
inductive Target where
  /-- The dialect itself, in its normal form. -/
  | markdown
  | jsonSchema
  | xsd
  | pythonPydanticXml
  | pythonPydantic
  | pythonDataclass
  | rust
  | golang
  | typescript
  | typescriptZod
  | protobuf
  | graphql
  | linkml
  | julia
  | mermaid
  | mkdocs
  | shacl
  | shex
  deriving DecidableEq, Repr, Inhabited

namespace Target

def all : List Target :=
  [markdown, jsonSchema, xsd, pythonPydanticXml, pythonPydantic, pythonDataclass, rust, golang,
   typescript, typescriptZod, protobuf, graphql, linkml, julia, mermaid, mkdocs, shacl, shex]

def name : Target → String
  | markdown => "markdown"
  | jsonSchema => "json-schema"
  | xsd => "xsd"
  | pythonPydanticXml => "python-pydantic-xml"
  | pythonPydantic => "python-pydantic"
  | pythonDataclass => "python-dataclass"
  | rust => "rust"
  | golang => "golang"
  | typescript => "typescript"
  | typescriptZod => "typescript-zod"
  | protobuf => "protobuf"
  | graphql => "graphql"
  | linkml => "linkml"
  | julia => "julia"
  | mermaid => "mermaid"
  | mkdocs => "mkdocs"
  | shacl => "shacl"
  | shex => "shex"

/-- The format of an exact name. -/
def ofName? (text : String) : Option Target := all.find? (·.name == text)

/-- The format that a text names; case and the kind of hyphen do not matter. -/
def read? (text : String) : Option Target :=
  ofName? (asciiLowercase (onChars (fun cs => replaceChar '_' ['-'] (trim cs)) text))

end Target

/-- What goes wrong when a document is converted. -/
inductive ConversionError where
  /-- The document cannot be read. -/
  | parse (error : Dialect.FrontMatterError)
  | invalidModel (findings : List Validation.Finding)
  | templateNotFound (name : String)
  /-- Something is asked for that the template cannot do. -/
  | notSupported (reason : String)
  /-- The model cannot be rendered. -/
  | render (reason : String)
  /-- A file cannot be written. -/
  | io (reason : String)
  deriving DecidableEq

namespace ConversionError

def message : ConversionError → String
  | parse error => "Parse error: " ++ error.message
  | invalidModel findings =>
    "model is invalid (" ++ natText findings.length ++ " error(s)): " ++
      ((findings.head?).map (·.display)).getD ""
  | templateNotFound name => "Template '" ++ name ++ "' not found"
  | notSupported reason => "Operation not supported: " ++ reason
  | render reason => "Render error: " ++ reason
  | io reason => "IO error: " ++ reason

end ConversionError

/-- Parameters by name, in the order in which they are looked at. -/
abbrev Options := List (String × String)

/-- The format that a text names, or the error that there is none. -/
def Target.read (text : String) : Except ConversionError Target :=
  match Target.read? text with
  | some target => .ok target
  | none => .error (.templateNotFound text)

/-- A way to render models into a format. -/
structure Template where
  target : Target
  /-- What it is, in a few words. -/
  description : String := ""
  /-- The extension of files with its output, without the dot. -/
  extension : String
  /-- Renders a model with parameters. -/
  render : Options → DataModel → Except ConversionError String

namespace Template

/-- The error that a template has no parameters. -/
def noOptions (target : Target) : ConversionError :=
  .notSupported ("Template '" ++ target.name ++ "' does not support extra parameters")

def withoutOptions (target : Target) (description extension : String)
    (render : DataModel → String) : Template :=
  { target, description, extension
    render := fun options m =>
      if options.isEmpty then .ok (render m) else .error (noOptions target) }

end Template
end DocModel
