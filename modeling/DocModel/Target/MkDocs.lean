import DocModel.Target.Markdown
import DocModel.Target.Mermaid

/-!
# DocModel.Target.MkDocs

A model as a page of documentation: a diagram, a section with a table for every object, and one for
every enumeration. Types in a table are links to their sections.
-/

namespace DocModel
namespace Target.MkDocs

open Text

/-- A text that stays in its cell: no bar ends it and no line end breaks its row. -/
def cell (text : String) : String :=
  onChars (fun cs => replaceChar '\n' "<br>".toList (replaceChar '|' ['\\', '|'] cs)) text

def row (cells : List String) : String := "| " ++ String.intercalate " | " cells ++ " |"

def code (text : String) : String := "\x60" ++ text ++ "\x60"

def attributeTitle (a : Attribute) : String :=
  if a.isId then "**" ++ a.name ++ "** (identifier)" else code a.name

def typesCell (m : DataModel) (a : Attribute) : String :=
  String.intercalate " or " (a.dtypes.map (Markdown.typeLink m)) ++ if a.multiple then "[]" else ""

def attributeCells (m : DataModel) (a : Attribute) : List String :=
  [attributeTitle a, typesCell m a, if a.isRequired then "yes" else "no", cell a.docstring,
   (a.term.map cell).getD ""]

def memberCells (entry : String × String) : List String := [code entry.1, code (cell entry.2)]

/-- The heading and the description of a definition. -/
def headingLines (name docstring : String) : List String :=
  ["", "### " ++ name] ++ if docstring.isEmpty then [] else ["", docstring]

def objectLines (m : DataModel) (o : Object) : List String :=
  headingLines o.name o.docstring ++
    if o.attributes.isEmpty then []
    else
      ["", row ["Attribute", "Type", "Required", "Description", "Term"],
       "|-----------|------|----------|-------------|------|"]
        ++ o.attributes.map fun a => row (attributeCells m a)

def enumerationLines (e : Enumeration) : List String :=
  headingLines e.name e.docstring
    ++ ["", row ["Alias", "Value"], "|-------|-------|"]
    ++ e.mappings.entries.map fun entry => row (memberCells entry)

def render (m : DataModel) : String :=
  let front := unlines ["---", "hide:", "  - navigation", "---", "", "# " ++ m.title]
  let overview :=
    if m.objects.isEmpty then ""
    else
      unlines ["", Markdown.fence ++ "mermaid"] ++ Mermaid.render m
        ++ unlines [Markdown.fence, "", "## Types"]
  let enums := if m.enums.isEmpty then [] else ["", "## Enumerations"]
  front ++ overview ++ unlines (m.objects.flatMap (objectLines m))
    ++ unlines (enums ++ m.enums.flatMap enumerationLines)

end Target.MkDocs
end DocModel
