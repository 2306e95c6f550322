import DocModel.Proofs.Dialect.AttributeLines
import DocModel.Proofs.Dialect.Sections

/-!
# DocModel.Proofs.Normalization.Rendering

The normal form of a model, cut into the parts that it is made of.

* `modelParts` are the parts of a model;
* `toList_render_bare` and `toList_render_front` give its text, without and with a front matter.
-/

namespace DocModel

open Dialect Text

namespace Target.Markdown

/-! ## Parts of a model -/

def writtenBullet (m : DataModel) (a : Attribute) : WrittenBullet :=
  ((nameText a).toList, (properties m a).map fun p => (propertyText p).toList)

/-- The line of the heading of a definition. -/
def definitionHeading (name : String) : List Char := '#' :: '#' :: '#' :: ' ' :: name.toList

def objectPart (m : DataModel) (o : Object) : Part :=
  { level := 3
    heading := definitionHeading o.name
    docstring := o.docstring
    content :=
      if o.attributes.isEmpty then .none else .list (o.attributes.map (writtenBullet m)) }

def enumerationPart (e : Enumeration) : Part :=
  { level := 3
    heading := definitionHeading e.name
    docstring := e.docstring
    content := .code ((memberLines e).map String.toList) }

def definitionParts (m : DataModel) : List Part :=
  m.objects.map (objectPart m) ++ m.enums.map enumerationPart

def modelParts (m : DataModel) : List Part :=
  (m.name.toList.map fun name => titlePart name.toList) ++ definitionParts m

theorem toList_attributeLines (m : DataModel) (a : Attribute) :
    (attributeLines m a).map String.toList = bulletLines (writtenBullet m a) := by
  rw [attributeLines, List.map_cons, bulletLines, writtenBullet, List.map_map, List.map_map]
  congr 1
  · rw [String.toList_append]
    rfl
  · refine List.map_congr_left fun p _ => ?_
    simp [propertyText, nestedLine, Markdown.hyphenLine, String.toList_append]

theorem toList_heading (name docstring : String) :
    (heading name docstring).toList =
      terminated (definitionHeading name ::
        if docstring.isEmpty then [] else [] :: splitOn '\n' docstring.toList) := by
  rw [heading, terminated_cons]
  split
  · simp [definitionHeading, terminated]
  · rw [terminated_cons, terminated_splitOn]
    simp [definitionHeading, String.toList_append]

theorem toList_unlines_attributeLines (m : DataModel) (attributes : List Attribute) :
    (unlines (attributes.flatMap (attributeLines m))).toList =
      terminated ((attributes.map (writtenBullet m)).flatMap bulletLines) := by
  rw [toList_unlines, List.map_flatMap, List.flatMap_map]
  simp only [toList_attributeLines]

theorem toList_renderObject (m : DataModel) (o : Object) :
    (renderObject m o).toList = terminated (objectPart m o).lines := by
  have lines : (objectPart m o).lines = (definitionHeading o.name ::
      if o.docstring.isEmpty then [] else [] :: splitOn '\n' o.docstring.toList) ++
        (objectPart m o).content.lines := rfl
  rw [renderObject, String.toList_append, lines, terminated_append, toList_heading, objectPart]
  congr 1
  by_cases ha : o.attributes.isEmpty = true
  · rw [if_pos ha, if_pos ha]
    rfl
  · have list : (Content.list (o.attributes.map (writtenBullet m))).lines =
        [] :: (o.attributes.map (writtenBullet m)).flatMap bulletLines := rfl
    rw [if_neg ha, if_neg ha, list, terminated_cons, String.toList_append,
      toList_unlines_attributeLines]
    rfl

theorem toList_renderEnumeration (e : Enumeration) :
    (renderEnumeration e).toList = terminated (enumerationPart e).lines := by
  have lines : (enumerationPart e).lines = (definitionHeading e.name ::
      if e.docstring.isEmpty then [] else [] :: splitOn '\n' e.docstring.toList) ++
        [] :: codeLines ((memberLines e).map String.toList) := rfl
  have code : terminated ([] :: codeLines ((memberLines e).map String.toList)) =
      ['\n'] ++ (fenceLine ++ (Markdown.python ++ ['\n'] ++
        (terminated ((memberLines e).map String.toList) ++ (fenceLine ++ ['\n'])))) := by
    rw [terminated_cons, codeLines, List.cons_append, terminated_cons, terminated_append]
    simp [terminated]
  rw [renderEnumeration, lines, terminated_append, code]
  simp only [String.toList_append, toList_heading, toList_unlines, List.append_assoc]
  rfl

theorem toList_title (name : String) :
    ("# " ++ name ++ "\n").toList = terminated (titlePart name.toList).lines := by
  simp [String.toList_append, titlePart, Part.lines, Part.body, Part.describedLines, Content.lines,
    terminated]

/-! ## The text of a model -/

/-- Lines of parts with an empty line between neighbours. -/
def joinedLines : List Part → List (List Char)
  | [] => []
  | part :: more => part.lines ++ spacedLines more

theorem joinedLines_cons_cons (part next : Part) (more : List Part) :
    joinedLines (part :: next :: more) = part.lines ++ [] :: joinedLines (next :: more) := rfl

theorem spacedLines_eq {parts : List Part} (h : parts ≠ []) :
    spacedLines parts = [] :: joinedLines parts := by
  obtain ⟨part, more, rfl⟩ := List.exists_cons_of_ne_nil h
  rfl

theorem toList_intercalate_parts {pieces : List String} {parts : List Part}
    (h : pieces.map String.toList = parts.map (terminated ·.lines)) :
    (String.intercalate "\n" pieces).toList = terminated (joinedLines parts) := by
  rw [String.toList_intercalate, h]
  clear h
  induction parts with
  | nil => rfl
  | cons part more ih =>
    cases more with
    | nil => simp [joinedLines, spacedLines]
    | cons next more =>
      rw [List.map_cons] at ih
      rw [List.map_cons, List.map_cons, List.intercalate_cons_cons, ih, joinedLines_cons_cons,
        terminated_append, terminated_cons]
      simp

/-- The text of the front matter of settings. -/
def frontText (c : Config) : String := "---\n" ++ Yaml.write (configValue c) ++ "---\n"

theorem modelParts_toList (m : DataModel) :
    ((m.name.toList.map fun name => "# " ++ name ++ "\n") ++ m.objects.map (renderObject m) ++
        m.enums.map renderEnumeration).map String.toList =
      (modelParts m).map (terminated ·.lines) := by
  simp only [modelParts, definitionParts, List.map_append, List.map_map, List.append_assoc]
  congr 1
  · exact List.map_congr_left fun name _ => toList_title name
  · congr 1
    · exact List.map_congr_left fun o _ => toList_renderObject m o
    · exact List.map_congr_left fun e _ => toList_renderEnumeration e

theorem toList_render_bare {m : DataModel} (h : m.config.isDefault = true) :
    (render m).toList = terminated (joinedLines (modelParts m)) := by
  rw [render, if_pos h, ← toList_intercalate_parts (modelParts_toList m)]
  simp only [List.nil_append]

theorem toList_render_front {m : DataModel} (h : m.config.isDefault = false)
    (some : modelParts m ≠ []) :
    (render m).toList = (frontText m.config).toList ++ terminated (spacedLines (modelParts m)) := by
  have pieces := modelParts_toList m
  have nonempty : (m.name.toList.map fun name => "# " ++ name ++ "\n") ++
      m.objects.map (renderObject m) ++ m.enums.map renderEnumeration ≠ [] := by
    intro empty
    rw [empty] at pieces
    exact some (List.map_eq_nil_iff.1 pieces.symm)
  rw [render, if_neg (by simp [h]), List.append_assoc, List.append_assoc, List.singleton_append,
    ← List.append_assoc, String.intercalate_cons_of_ne_nil nonempty, String.toList_append,
    String.toList_append, toList_intercalate_parts pieces, spacedLines_eq some, terminated_cons,
    List.append_assoc]
  rfl

end Target.Markdown
end DocModel
