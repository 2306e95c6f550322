import DocModel.Xml.Element
import DocModel.Proofs.Xml.Tokens

/-!
# DocModel.Proofs.Xml.Elements

The elements of a document, and what their tags and texts say.

* `allOf` lists elements with those inside of them, in the order of their tags;
* `valuesOf` are the values of an attribute and `textsOf` the texts in elements of a name; both go
  along with appending and mapping.
-/

namespace DocModel
namespace Xml

/-- What stands in the tag that opens an element. -/
def Element.tag : Element → Tag
  | .empty name attributes => ⟨name, attributes⟩
  | .text name _ => ⟨name, []⟩
  | .parent name attributes _ => ⟨name, attributes⟩

mutual

/-- An element and those inside of it, in order. -/
def Element.all : Element → List Element
  | .empty name attributes => [.empty name attributes]
  | .text name content => [.text name content]
  | .parent name attributes children => .parent name attributes children :: allOf children

/-- Some elements and those inside of them, in order. -/
def allOf : List Element → List Element
  | [] => []
  | child :: children => child.all ++ allOf children

end

/-- The value of an attribute in a tag of a name, if it is one. -/
def Tag.values (name key : String) (tag : Tag) : List String :=
  if tag.name = name then (tag.attributes.lookup key).toList else []

/-- The values of an attribute of the elements of a name. -/
def valuesOf (name key : String) (elements : List Element) : List String :=
  elements.flatMap (·.tag.values name key)

def textsOf (name : String) (elements : List Element) : List String :=
  elements.flatMap fun
    | .text other content => if other = name then [content] else []
    | _ => []

section

variable {name key : String}

theorem allOf_append (first second : List Element) :
    allOf (first ++ second) = allOf first ++ allOf second := by
  induction first with
  | nil => rfl
  | cons e first ih => rw [List.cons_append, allOf, allOf, ih, List.append_assoc]

theorem allOf_map {α : Type} (f : α → Element) (items : List α) :
    allOf (items.map f) = items.flatMap fun item => (f item).all := by
  induction items with
  | nil => rfl
  | cons item items ih => rw [List.map_cons, allOf, List.flatMap_cons, ih]

theorem allOf_map_self {α : Type} {f : α → Element} (h : ∀ item, (f item).all = [f item])
    (items : List α) : allOf (items.map f) = items.map f := by
  simp only [allOf_map, h]
  exact List.map_eq_flatMap.symm

theorem valuesOf_cons (e : Element) (elements : List Element) :
    valuesOf name key (e :: elements) = e.tag.values name key ++ valuesOf name key elements :=
  List.flatMap_cons

theorem valuesOf_append (first second : List Element) :
    valuesOf name key (first ++ second) = valuesOf name key first ++ valuesOf name key second :=
  List.flatMap_append

theorem valuesOf_map {α : Type} (f : α → Element) (items : List α) :
    valuesOf name key (items.map f) = items.flatMap fun item => (f item).tag.values name key :=
  List.flatMap_map f _ _

theorem valuesOf_flatMap {α : Type} (f : α → List Element) (items : List α) :
    valuesOf name key (items.flatMap f) = items.flatMap fun item => valuesOf name key (f item) :=
  List.flatMap_assoc

theorem textsOf_append (first second : List Element) :
    textsOf name (first ++ second) = textsOf name first ++ textsOf name second :=
  List.flatMap_append

theorem textsOf_flatMap {α : Type} (f : α → List Element) (items : List α) :
    textsOf name (items.flatMap f) = items.flatMap fun item => textsOf name (f item) :=
  List.flatMap_assoc

end

end Xml
end DocModel
