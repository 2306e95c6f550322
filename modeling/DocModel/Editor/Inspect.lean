import DocModel.Dialect.Outline
import DocModel.Editor.Lint
import DocModel.Model.Codec
import DocModel.Model.Graph

/-!
# DocModel.Editor.Inspect

Views of a document at the stages of its reading.

| View         | Shows                                             |
|--------------|---------------------------------------------------|
| `model-json` | the model                                         |
| `blocks`     | the blocks with their lines, one a line           |
| `graph`      | the edges between objects                         |
| `outline`    | the table of contents                             |
| `lint`       | the ranges that an editor shows                   |
-/

namespace DocModel
namespace Editor

open Text Dialect

/-- A stage of the reading of a document. -/
inductive View where
  | model
  | blocks
  | graph
  | outline
  /-- The ranges that an editor shows. -/
  | lint
  deriving DecidableEq, Repr

namespace View

def all : List View := [model, blocks, graph, outline, lint]

def name : View → String
  | model => "model-json"
  | blocks => "blocks"
  | graph => "graph"
  | outline => "outline"
  | lint => "lint"

def ofName? (text : String) : Option View := all.find? (·.name == text)

end View

/-- A JSON value as a text that ends its last line. -/
def jsonText (value : Json) : String := value.pretty ++ "\n"

def lineRange (first last : Nat) : String :=
  padLeft 4 (natText first) ++ "-" ++ padRight 4 (natText last)

def blockLine (block : Block) : String :=
  lineRange block.startLine block.endLine ++
    match block.content with
    | .heading level text => " heading(" ++ natText level ++ ") " ++ text
    | .paragraph text => " paragraph " ++ onChars (fun cs => (lines cs).head?.getD []) text
    | .list items =>
      " list items=" ++ natText items.length ++ " nested=" ++
        natText (items.flatMap (·.children)).length
    | .code info lines => " code info=" ++ quoted info ++ " lines=" ++ natText lines.length
    | .other => " other"

/-- The blocks of a document, one on a line. -/
def documentText (document : Document) : String :=
  let front := match document.frontMatter with
    | some (first, last) => [lineRange first last ++ " front-matter"]
    | none => []
  unlines (front ++ document.blocks.map blockLine)

/-- The table of contents, indented by level. -/
def outlineText (entries : List OutlineHeading) : String :=
  unlines (entries.map fun e =>
    String.ofList (List.replicate (2 * (e.level - 1)) ' ') ++ e.text ++ " (line " ++
      natText e.line ++ ")")

/-- A range that an editor shows, as a JSON value. -/
def EditorMessage.toJson (d : EditorMessage) : Json :=
  .object [("from", .nat d.start), ("to", .nat d.stop), ("severity", .string "error"),
    ("message", .string d.message)]

/-- A view of a document; the error is that it cannot be read. -/
def View.show (view : View) (source : String) : Except FrontMatterError String :=
  match view with
  | .model => (readModel source).map fun m => jsonText m.toJson
  | .blocks => (Document.ofSource source.toList).map documentText
  | .graph => (readModel source).map fun m => jsonText (.array (m.edges.map (·.toJson)))
  | .outline => .ok (outlineText (Dialect.outline source))
  | .lint => .ok (jsonText (.array ((editorMessages source).map (·.toJson))))

/-- The view of a name of a document, or the words for an error. -/
def inspect (source : String) (name : String) : Except String String :=
  match View.ofName? name with
  | some view => (view.show source).mapError fun error => "Parse error: " ++ error.message
  | none =>
    .error ("Unknown view '" ++ name ++ "'. Available views: " ++
      String.intercalate ", " (View.all.map (·.name)))

end Editor
end DocModel
