import DocModel.CommandLine.Argument
import DocModel.CommandLine.Parameter
import DocModel.CommandLine.Run
import DocModel.Conversion
import DocModel.Dialect.Block
import DocModel.Dialect.Document
import DocModel.Dialect.Entry
import DocModel.Dialect.FrontMatter
import DocModel.Dialect.Outline
import DocModel.Dialect.Reading
import DocModel.Dialect.Section
import DocModel.Editor.Inspect
import DocModel.Editor.Lint
import DocModel.Exporting
import DocModel.Files.Access
import DocModel.Files.Path
import DocModel.Files.Tree
import DocModel.Json.Basic
import DocModel.Json.Scalar
import DocModel.Main
import DocModel.Markdown.Block
import DocModel.Markdown.Cursor
import DocModel.Markdown.Document
import DocModel.Markdown.Entity
import DocModel.Markdown.Html
import DocModel.Markdown.LinkDefinition
import DocModel.Markdown.OpenBlock
import DocModel.Markdown.Scan
import DocModel.Markdown.Table
import DocModel.Model.Basic
import DocModel.Model.Codec
import DocModel.Model.Graph
import DocModel.Model.Primitive
import DocModel.Number.Binary
import DocModel.Number.Decimal
import DocModel.Number.Shortest
import DocModel.Proofs.Dialect.AttributeLines
import DocModel.Proofs.Dialect.MemberLines
import DocModel.Proofs.Dialect.OpenList
import DocModel.Proofs.Dialect.Parts
import DocModel.Proofs.Dialect.Readings
import DocModel.Proofs.Dialect.Sections
import DocModel.Proofs.Dialect.TypeValue
import DocModel.Proofs.Entries
import DocModel.Proofs.JsonSchema.Definitions
import DocModel.Proofs.JsonSchema.Inlining
import DocModel.Proofs.JsonSchema.Keywords
import DocModel.Proofs.JsonSchema.Unfolding
import DocModel.Proofs.Markdown.Bullets
import DocModel.Proofs.Markdown.Characters
import DocModel.Proofs.Markdown.Lines
import DocModel.Proofs.Markdown.Placement
import DocModel.Proofs.Markdown.TextBullet
import DocModel.Proofs.Normalization.Bullets
import DocModel.Proofs.Normalization.Definitions
import DocModel.Proofs.Normalization.FixedPoint
import DocModel.Proofs.Normalization.Places
import DocModel.Proofs.Normalization.ReadBack
import DocModel.Proofs.Normalization.Rendering
import DocModel.Proofs.Source.Lines
import DocModel.Proofs.Splitting
import DocModel.Proofs.Trimming
import DocModel.Proofs.Validation.Forms
import DocModel.Proofs.Validation.WellFormed
import DocModel.Settings.Basic
import DocModel.Settings.KeyPath
import DocModel.Settings.Value
import DocModel.Source.LineTable
import DocModel.Source.Position
import DocModel.Target.Basic
import DocModel.Target.Catalog
import DocModel.Target.Golang
import DocModel.Target.Graphql
import DocModel.Target.JsonSchema
import DocModel.Target.Julia
import DocModel.Target.Layout
import DocModel.Target.Linkml
import DocModel.Target.Markdown
import DocModel.Target.Mermaid
import DocModel.Target.MkDocs
import DocModel.Target.Protobuf
import DocModel.Target.Python
import DocModel.Target.Rdf
import DocModel.Target.Registry
import DocModel.Target.Rust
import DocModel.Target.Shacl
import DocModel.Target.Shex
import DocModel.Target.TypeScript.Codec
import DocModel.Target.TypeScript.Declaration
import DocModel.Target.TypeScript.Zod
import DocModel.Target.Xsd
import DocModel.Text.Basic
import DocModel.Text.Dictionary
import DocModel.Text.Escape
import DocModel.Text.Words
import DocModel.Toml.Document
import DocModel.Toml.Draft
import DocModel.Toml.Moment
import DocModel.Toml.Text
import DocModel.Toml.Value
import DocModel.Unicode.Alphanumeric
import DocModel.Unicode.CaseMapping
import DocModel.Unicode.LetterCase
import DocModel.Unicode.Printable
import DocModel.Unicode.Ranges
import DocModel.Unicode.WhiteSpace
import DocModel.Validation.Codec
import DocModel.Validation.Finding
import DocModel.Validation.Name
import DocModel.Validation.Report
import DocModel.Validation.Rules
import DocModel.Xml.Element
import DocModel.Yaml.Cursor
import DocModel.Yaml.Document
import DocModel.Yaml.Event
import DocModel.Yaml.Problem
import DocModel.Yaml.Reading
import DocModel.Yaml.Resolve
import DocModel.Yaml.Tag
import DocModel.Yaml.TextScalar
import DocModel.Yaml.Token
import DocModel.Yaml.Writer
import DocModel.Proofs.JsonSchema.References
import DocModel.Proofs.Dialect.Headings
import DocModel.Proofs.Source.BodyLines
import DocModel.Proofs.Markdown.Markers
import DocModel.Proofs.Markdown.Origins
import DocModel.Proofs.Dialect.LinesRead
import DocModel.Proofs.Model.RoundTrip
import DocModel.Proofs.Rdf.Prefixes
import DocModel.Proofs.Rdf.ShapeExpressions
import DocModel.Proofs.Rdf.Turtle
import DocModel.Proofs.Markdown.Order
import DocModel.Proofs.Dialect.BulletOrder
import DocModel.Proofs.Source.Offsets
import DocModel.Proofs.Validation.TypeFindings
import DocModel.Proofs.Editor.TypeMessages
import DocModel.Proofs.Validation.EmptyNotice
import DocModel.Proofs.JsonSchema.Needed
import DocModel.Proofs.Xml.Entities
import DocModel.Proofs.Xml.Tokens
import DocModel.Proofs.Model.Kinds
import DocModel.Proofs.Xml.Documents
import DocModel.Proofs.Xml.Elements
import DocModel.Proofs.Xsd.Schemas
import DocModel.Proofs.Declarations
import DocModel.Proofs.JsonSchema.Termination
import DocModel.Proofs.JsonSchema.ObjectSchemas
import DocModel.Proofs.Dialect.MemberGrammar
import DocModel.Proofs.Dialect.Faults
import DocModel.Proofs.Normalization.Members
import DocModel.Proofs.Words
import DocModel.Proofs.Rust.FieldNames
import DocModel.Proofs.TypeFiles
import DocModel.Proofs.Golang.Imports
import DocModel.Proofs.NameClashes
import DocModel.Proofs.Python.Dataclasses
import DocModel.Proofs.Source.Slices
import DocModel.Proofs.Dialect.Positions
import DocModel.Proofs.Validation.Duplicates
import DocModel.Proofs.Dialect.FrontMatterLines
import DocModel.Proofs.Editor.Ranges
import DocModel.Proofs.Source.Tiling
import DocModel.Proofs.Model.Edges
import DocModel.Proofs.Mermaid.Arrows
import DocModel.Proofs.Rust.MemberValues
import DocModel.Proofs.Passages
import DocModel.Proofs.Graphql.Descriptions
import DocModel.Proofs.TypeScript.DocComments
import DocModel.Proofs.Julia.Literals
import DocModel.Proofs.MkDocs.Rows
import DocModel.Proofs.IdentifierWords
import DocModel.Proofs.Julia.Modules
import DocModel.Proofs.TitleNames
import DocModel.Proofs.Python.StringLiterals
import DocModel.Proofs.Python.Classes
import DocModel.Proofs.Python.Names
import DocModel.Proofs.Python.Numbers
import DocModel.Proofs.Python.Defaults
import DocModel.Proofs.Registration
import DocModel.Proofs.JsonSchema.Parameters
import DocModel.Proofs.Files.Paths
import DocModel.Proofs.Files.Trees
import DocModel.Proofs.Files.Disks
import DocModel.Proofs.ExportEffects
import DocModel.Proofs.Validation.Reordering
import DocModel.Proofs.CommandLine.Separation
import DocModel.Proofs.Editor.Completions
import DocModel.Proofs.SnakeCase
import DocModel.Proofs.QuotedTexts
