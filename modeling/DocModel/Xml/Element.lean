import DocModel.Text.Escape

/-!
# DocModel.Xml.Element

Elements of XML and their text, one element on a line and two spaces for each level. Names are
written as they are; values and texts are escaped.
-/

namespace DocModel
namespace Xml

open Text

/-- An element. -/
inductive Element where
  | empty (name : String) (attributes : List (String × String))
  /-- An element that holds a text. -/
  | text (name content : String)
  /-- An element that holds elements. -/
  | parent (name : String) (attributes : List (String × String)) (children : List Element)
  deriving Inhabited

/-- An attribute with a space before it. -/
def attributeText (a : String × String) : String := " " ++ a.1 ++ "=\"" ++ escapeXml a.2 ++ "\""

/-- What stands in a tag: the name and the attributes. -/
def tagText (name : String) (attributes : List (String × String)) : String :=
  name ++ String.join (attributes.map attributeText)

def indentation (level : Nat) : String := String.ofList (List.replicate (2 * level) ' ')

mutual

def Element.lines (level : Nat) : Element → List String
  | .empty name attributes => [indentation level ++ "<" ++ tagText name attributes ++ "/>"]
  | .text name content =>
    [indentation level ++ "<" ++ name ++ ">" ++ escapeXml content ++ "</" ++ name ++ ">"]
  | .parent name attributes children =>
    (indentation level ++ "<" ++ tagText name attributes ++ ">") ::
      (childLines (level + 1) children ++ [indentation level ++ "</" ++ name ++ ">"])

/-- The lines of several elements at a level. -/
def childLines (level : Nat) : List Element → List String
  | [] => []
  | child :: children => child.lines level ++ childLines level children

end

/-- The line at the head of every document. -/
def declaration : String := "<?xml version=\"1.0\" encoding=\"UTF-8\"?>"

/-- A document: a root whose children have an empty line before each. -/
structure Document where
  /-- The name of the root. -/
  name : String
  attributes : List (String × String)
  children : List Element

def Document.render (d : Document) : String :=
  unlines
    ([declaration, "<" ++ tagText d.name d.attributes ++ ">"]
      ++ (d.children.flatMap fun child => "" :: child.lines 1)
      ++ ["", "</" ++ d.name ++ ">"])

end Xml
end DocModel
