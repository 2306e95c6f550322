import DocModel.Target.Golang
import DocModel.Target.Graphql
import DocModel.Target.JsonSchema
import DocModel.Target.Julia
import DocModel.Target.Linkml
import DocModel.Target.Markdown
import DocModel.Target.Mermaid
import DocModel.Target.MkDocs
import DocModel.Target.Protobuf
import DocModel.Target.Python
import DocModel.Target.Rust
import DocModel.Target.Shacl
import DocModel.Target.Shex
import DocModel.Target.TypeScript.Codec
import DocModel.Target.TypeScript.Zod
import DocModel.Target.Xsd

/-!
# DocModel.Target.Catalog

The template of every format.
-/

namespace DocModel
namespace Target

def template : Target → Template
  | markdown => .withoutOptions markdown "Normalized markdown data model" "md" Markdown.render
  | jsonSchema =>
    { target := jsonSchema, description := "JSON Schema (draft 2020-12) for the root object"
      extension := "json", render := JsonSchema.render }
  | xsd => .withoutOptions xsd "XML Schema definition" "xsd" Xsd.render
  | pythonPydanticXml =>
    .withoutOptions pythonPydanticXml "pydantic-xml models with XML bindings" "py"
      (Python.render .pydanticXml)
  | pythonPydantic =>
    .withoutOptions pythonPydantic "Pydantic v2 models" "py" (Python.render .pydantic)
  | pythonDataclass =>
    .withoutOptions pythonDataclass "Standard library dataclasses" "py" (Python.render .dataclass)
  | rust => .withoutOptions rust "Rust structs and enums with serde derives" "rs" Rust.render
  | golang => .withoutOptions golang "Go structs with json and xml tags" "go" Golang.render
  | typescript =>
    .withoutOptions typescript "TypeScript interfaces with io-ts codecs" "ts"
      TypeScript.Codec.render
  | typescriptZod =>
    .withoutOptions typescriptZod "TypeScript interfaces with zod schemas" "ts"
      TypeScript.Zod.render
  | protobuf =>
    .withoutOptions protobuf "Protocol Buffers (proto3) messages" "proto" Protobuf.render
  | graphql => .withoutOptions graphql "GraphQL schema types" "graphql" Graphql.render
  | linkml => .withoutOptions linkml "LinkML schema" "yaml" Linkml.render
  | julia => .withoutOptions julia "Julia module with structs and enums" "jl" Julia.render
  | mermaid => .withoutOptions mermaid "Mermaid class diagram" "mmd" Mermaid.render
  | mkdocs => .withoutOptions mkdocs "MkDocs documentation page" "md" MkDocs.render
  | shacl => .withoutOptions shacl "SHACL node shapes in Turtle" "ttl" Shacl.render
  | shex => .withoutOptions shex "ShEx shape expressions" "shex" Shex.render

/-- The name of a file in this format for which none is given. -/
def standardFileName (target : Target) : String := "schema." ++ target.template.extension

end Target
end DocModel
