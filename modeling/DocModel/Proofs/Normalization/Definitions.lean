import DocModel.Proofs.Normalization.Bullets
import DocModel.Proofs.Normalization.Places

/-!
# DocModel.Proofs.Normalization.Definitions

The definitions of a model are read back from their parts of the normal form.

* `WritableObject` and `WritableEnumeration` say what they have to be for that;
* `plain_definitionPart`: the block structure sees the parts as they are written;
* `ofSection_definitionPart`: the section of a part gives the definition again.
-/

namespace DocModel

open Dialect Markdown Target.Markdown Text Validation

/-! ## Definitions that can be written -/

/-- A description that can be written below a heading. -/
def WritableDocstring (docstring : String) : Prop :=
  docstring.isEmpty = true ∨ StandsAlone docstring

/-- An object that can be written. -/
structure WritableObject (m : DataModel) (o : Object) : Prop where
  /-- It has a proper name. -/
  named : DefinitionName o.name.toList
  /-- Its description can be written. -/
  docstring : WritableDocstring o.docstring
  /-- Its attributes can be written. -/
  attributes : ∀ a ∈ o.attributes, WritableAttribute m a
  /-- Their options open no other blocks. -/
  options : ∀ a ∈ o.attributes, ∀ option ∈ a.options, OpensNothing option

/-- An enumeration that can be written. -/
structure WritableEnumeration (e : Enumeration) : Prop where
  /-- It has a proper name. -/
  named : DefinitionName e.name.toList
  /-- Its description can be written. -/
  docstring : WritableDocstring e.docstring
  /-- Its members can be written. -/
  members : ∀ entry ∈ e.mappings.entries, WritableMember entry
  /-- Their values are on one line. -/
  single : ∀ entry ∈ e.mappings.entries, '\n' ∉ entry.2.toList
  /-- No character of a value is replaced. -/
  clean : ∀ entry ∈ e.mappings.entries, '\x00' ∉ entry.2.toList

namespace Dialect.Definition

def part (m : DataModel) : Definition → Part
  | object o => objectPart m o
  | enumeration e => enumerationPart e

def unplaced : Definition → Definition
  | object o => object o.unplaced
  | enumeration e => enumeration e.unplaced

/-- A definition that can be written. -/
def Writable (m : DataModel) : Definition → Prop
  | object o => WritableObject m o
  | enumeration e => WritableEnumeration e

theorem objects_unplaced (definitions : List Definition) :
    (definitions.filterMap (·.object?)).map Object.unplaced =
      (definitions.map unplaced).filterMap (·.object?) := by
  rw [List.map_filterMap, List.filterMap_map]
  congr 1
  funext d
  cases d <;> rfl

theorem enumerations_unplaced (definitions : List Definition) :
    (definitions.filterMap (·.enumeration?)).map Enumeration.unplaced =
      (definitions.map unplaced).filterMap (·.enumeration?) := by
  rw [List.map_filterMap, List.filterMap_map]
  congr 1
  funext d
  cases d <;> rfl

end Dialect.Definition

/-- The definitions of a model in the order in which they are written. -/
def DataModel.definitions (m : DataModel) : List Definition :=
  m.objects.map .object ++ m.enums.map .enumeration

theorem definitionParts_eq (m : DataModel) :
    definitionParts m = m.definitions.map (Definition.part m) := by
  rw [definitionParts, DataModel.definitions, List.map_append, List.map_map, List.map_map]
  rfl

theorem objects_definitions (m : DataModel) : m.definitions.filterMap (·.object?) = m.objects := by
  have enums : (m.enums.map Definition.enumeration).filterMap (·.object?) = [] := by
    rw [List.filterMap_map, List.filterMap_eq_nil_iff]
    intro e _
    rfl
  rw [DataModel.definitions, List.filterMap_append, enums, List.append_nil, List.filterMap_map]
  exact List.filterMap_some

theorem enumerations_definitions (m : DataModel) :
    m.definitions.filterMap (·.enumeration?) = m.enums := by
  have objects : (m.objects.map Definition.object).filterMap (·.enumeration?) = [] := by
    rw [List.filterMap_map, List.filterMap_eq_nil_iff]
    intro o _
    rfl
  rw [DataModel.definitions, List.filterMap_append, objects, List.nil_append, List.filterMap_map]
  exact List.filterMap_some

/-! ## What the block structure sees -/

theorem headingLevel?_definitionHeading (name : String) :
    headingLevel? (cleanLine (definitionHeading name)) = some 3 := rfl

theorem headingLevel?_title (title : List Char) :
    headingLevel? (cleanLine (titlePart title).heading) = some 1 := rfl

theorem wordChar_ne_hash {c : Char} (h : WordChar c) : (c == '#') = false := by
  rw [beq_eq_false_iff_ne]
  rintro rfl
  exact absurd (isWordChar_iff.2 h) (by decide)

theorem bareHeading_definitionHeading {name : String} (h : DefinitionName name.toList) :
    bareHeading (definitionHeading name) = name.toList := by
  have word : ∀ c ∈ name.toList, WordChar c := h.forall_mem fun _ hc => .inl hc
  have solid : ∀ c ∈ name.toList, Unicode.isWhiteSpace c = false :=
    fun c hc => wordChar_not_white (word c hc)
  have some := h.ne_nil
  have trimmed : trim (definitionHeading name) = definitionHeading name := by
    refine trimmed_iff.2 ⟨fun c hc => ?_, fun c hc => ?_⟩
    · cases hc
      rfl
    · have last : (definitionHeading name).getLast? = name.toList.getLast? := by
        have split : definitionHeading name = ['#', '#', '#', ' '] ++ name.toList := rfl
        rw [split, List.getLast?_append_of_ne_nil _ some]
      rw [last] at hc
      exact solid c (List.mem_of_getLast? hc)
  have begun : (definitionHeading name).dropWhile (· == '#') = ' ' :: name.toList := rfl
  have text : trim (' ' :: name.toList) = name.toList := by
    rw [trim_cons rfl]
    exact trimmed_of_forall solid
  have bare : dropEndWhile (· == '#') name.toList = name.toList := by
    refine dropEndWhile_eq_self fun c hc => ?_
    exact wordChar_ne_hash (word c (List.mem_of_getLast? hc))
  have visible : name.toList.isEmpty = false := by simpa using some
  have marked : ((definitionHeading name).head? != Option.some '#') = false := rfl
  unfold bareHeading
  simp only [trimmed, marked, begun, text, bare, visible, bne_self_eq_false, Bool.false_and,
    Bool.false_eq_true, if_false]

section

variable {m : DataModel}

theorem plain_objectPart {o : Object} (h : WritableObject m o) : (objectPart m o).Plain := by
  refine ⟨headingLevel?_definitionHeading o.name, h.docstring, ?_⟩
  by_cases empty : o.attributes.isEmpty = true
  · rw [objectPart, if_pos empty]
    trivial
  · rw [objectPart, if_neg empty]
    have some : o.attributes ≠ [] := by simpa using empty
    refine ⟨mt List.map_eq_nil_iff.1 some, fun bullet hb => ?_⟩
    obtain ⟨a, ha, rfl⟩ := List.mem_map.1 hb
    exact plain_writtenBullet (h.attributes a ha) (h.options a ha)

theorem plain_enumerationPart {e : Enumeration} (h : WritableEnumeration e) :
    (enumerationPart e).Plain := by
  refine ⟨headingLevel?_definitionHeading e.name, h.docstring, fun line hl => ?_⟩
  rw [memberLines, List.map_map] at hl
  obtain ⟨entry, he, rfl⟩ := List.mem_map.1 hl
  have writable := h.members entry he
  refine ⟨staysCode_memberLine writable, cleanLine_eq_self ?_⟩
  have quote : memberQuote entry.2.toList ≠ '\x00' := by
    rw [memberQuote]
    split <;> decide
  have key : '\x00' ∉ entry.1.toList := fun hm =>
    absurd (isWordChar_iff.2 (attributeName_wordChar writable.key _ hm)) (by decide)
  rw [Function.comp_apply, toList_memberLine]
  simp [key, h.clean entry he, quote.symm]

/-- The part of a definition is seen as it is written. -/
theorem plain_definitionPart {d : Definition} (h : d.Writable m) : (d.part m).Plain := by
  cases d with
  | object o => exact plain_objectPart h
  | enumeration e => exact plain_enumerationPart h

theorem definitionPart_level (d : Definition) : (d.part m).level = 3 := by
  cases d <;> rfl

/-! ## What the dialect reads -/

variable {table : LineTable} {offset n : Nat}

theorem description_section {part : Part} (h : WritableDocstring part.docstring) :
    (part.section table offset n).description = part.docstring := by
  have shown : (part.section table offset n).paragraphs = part.paragraphs := rfl
  rw [Section.description, shown, Part.paragraphs]
  by_cases empty : part.docstring.isEmpty = true
  · rw [if_pos empty, String.isEmpty_iff.1 empty]
    rfl
  · rw [if_neg empty]
    exact (h.resolve_left empty).same

theorem name_section {part : Part} {name : String} (heading : part.heading = definitionHeading name)
    (h : DefinitionName name.toList) : (part.section table offset n).name = name := by
  have shown : (part.section table offset n).name =
      String.ofList (bareHeading part.heading) := rfl
  rw [shown, heading, bareHeading_definitionHeading h, String.ofList_toList]

/-- The lines of the content of a part stand below those of its description. -/
theorem Stands.content {part : Part} (hs : Stands table (n + offset) part.lines) :
    Stands table (n + part.describedLines.length + 1 + offset) part.content.lines := by
  have tail := (Stands.tail hs : Stands table (n + offset + 1) part.body)
  have below := tail.append.2
  have place : n + offset + 1 + part.describedLines.length =
      n + part.describedLines.length + 1 + offset := by omega
  rwa [place] at below

theorem ofSection_objectPart {o : Object} (h : WritableObject m o)
    (hs : Stands table (n + offset) (objectPart m o).lines) :
    ∃ b, Definition.ofSection table ((objectPart m o).section table offset n) =
        (.object b, []) ∧ b.unplaced = o.unplaced := by
  have name : ((objectPart m o).section table offset n).name = o.name := name_section rfl h.named
  have description := @description_section table offset n (objectPart m o) h.docstring
  have docstring : (objectPart m o).docstring = o.docstring := rfl
  have below := hs.content
  have lists : ∃ attributes, readAttributes table o.name
      ((objectPart m o).section table offset n).lists.flatten = (attributes, []) ∧
        attributes.map Attribute.unplaced = o.attributes.map Attribute.unplaced := by
    have shown : ((objectPart m o).section table offset n).lists =
        (objectPart m o).content.lists table offset
          (n + (objectPart m o).describedLines.length) := rfl
    rw [shown]
    by_cases empty : o.attributes.isEmpty = true
    · have content : (objectPart m o).content = .none := by rw [objectPart, if_pos empty]
      rw [content, List.isEmpty_iff.1 empty]
      exact ⟨[], rfl, rfl⟩
    · have content : (objectPart m o).content =
          .list (o.attributes.map (writtenBullet m)) := by rw [objectPart, if_neg empty]
      rw [content] at below ⊢
      have bullets := below.tail
      rw [Nat.add_right_comm] at bullets
      have read := readAttributes_bulletsFrom o.name h.attributes bullets
      simpa only [Content.lists, List.flatten_cons, List.flatten_nil, List.append_nil] using read
  have kind : ((objectPart m o).section table offset n).isEnumeration = false := by
    have shown : ((objectPart m o).section table offset n).isEnumeration =
        (((objectPart m o).content.lists table offset
            (n + (objectPart m o).describedLines.length)).isEmpty &&
          !((objectPart m o).content.codeBlocks offset
            (n + (objectPart m o).describedLines.length)).isEmpty) := rfl
    rw [shown, objectPart]
    dsimp only
    split <;> rfl
  obtain ⟨attributes, read, same⟩ := lists
  refine ⟨{ name := o.name, docstring := o.docstring, attributes,
            position := table.positionOf ((objectPart m o).section table offset n).line },
    ?_, ?_⟩
  · rw [Definition.ofSection, kind]
    simp only [Bool.false_eq_true, if_false, readObject, name, description, docstring, read]
  · simp only [Object.unplaced, same]

theorem ofSection_enumerationPart {e : Enumeration} (h : WritableEnumeration e) :
    ∃ b, Definition.ofSection table ((enumerationPart e).section table offset n) =
        (.enumeration b, []) ∧ b.unplaced = e.unplaced := by
  have name : ((enumerationPart e).section table offset n).name = e.name :=
    name_section rfl h.named
  have description := @description_section table offset n (enumerationPart e) h.docstring
  have docstring : (enumerationPart e).docstring = e.docstring := rfl
  have kind : ((enumerationPart e).section table offset n).isEnumeration = true := rfl
  have texts : (((enumerationPart e).section table offset n).codeBlocks.flatten).map (·.2) =
      e.mappings.entries.map memberLine := by
    have shown : ((enumerationPart e).section table offset n).codeBlocks.flatten =
        ((memberLines e).map String.toList).zipIdx.map fun x =>
          (n + (enumerationPart e).describedLines.length + 2 + offset + 1 + x.2,
            String.ofList x.1) := List.append_nil _
    have lines : ((memberLines e).map String.toList).zipIdx.map (fun x => String.ofList x.1) =
        memberLines e := by
      refine List.ext_getElem (by simp) fun i h1 h2 => ?_
      simp only [List.getElem_map, List.getElem_zipIdx, String.ofList_toList]
    rw [shown, List.map_map]
    exact lines
  have read := @readMembers_memberLines table e.name e.mappings.entries h.members .empty
    e.mappings.ascending _ texts
  refine ⟨{ name := e.name, mappings := e.mappings, docstring := e.docstring,
            position := table.positionOf ((enumerationPart e).section table offset n).line },
    ?_, rfl⟩
  rw [Definition.ofSection, kind]
  simp only [if_true, readEnumeration, name, description, docstring, read]
  rfl

/-- The section of the part of a definition gives the definition. -/
theorem ofSection_definitionPart {d : Definition} (h : d.Writable m)
    (hs : Stands table (n + offset) (d.part m).lines) :
    ∃ b, Definition.ofSection table ((d.part m).section table offset n) = (b, []) ∧
      b.unplaced = d.unplaced := by
  cases d with
  | object o =>
    obtain ⟨b, read, same⟩ := ofSection_objectPart h hs
    exact ⟨.object b, read, congrArg Definition.object same⟩
  | enumeration e =>
    obtain ⟨b, read, same⟩ := @ofSection_enumerationPart table offset n e h
    exact ⟨.enumeration b, read, congrArg Definition.enumeration same⟩

theorem ofSections_definitionParts {definitions : List Definition}
    (h : ∀ d ∈ definitions, d.Writable m)
    (hs : Stands table (n + offset) (spacedLines (definitions.map (Definition.part m)))) :
    ∃ read : List Definition,
      (partSections table offset (n + 1) (definitions.map (Definition.part m))).map
        (Definition.ofSection table) = read.map (·, []) ∧
      read.map Definition.unplaced = definitions.map Definition.unplaced := by
  induction definitions generalizing n with
  | nil => exact ⟨[], rfl, rfl⟩
  | cons d more ih =>
    have split : Stands table (n + offset) (([] :: (d.part m).lines) ++
        spacedLines (more.map (Definition.part m))) := hs
    obtain ⟨own, later⟩ := split.append
    have place : n + offset + 1 = n + 1 + offset := by omega
    have first := own.tail
    rw [List.tail_cons, place] at first
    have next : n + offset + ([] :: (d.part m).lines : List (List Char)).length =
        n + 1 + (d.part m).lines.length + offset := by
      rw [List.length_cons]
      omega
    rw [next] at later
    obtain ⟨b, section_, same⟩ := ofSection_definitionPart (h d List.mem_cons_self) first
    obtain ⟨rest, sections, alike⟩ := ih (fun x hx => h x (List.mem_cons_of_mem _ hx)) later
    refine ⟨b :: rest, ?_, by rw [List.map_cons, List.map_cons, same, alike]⟩
    rw [List.map_cons, partSections, List.map_cons, section_, sections, List.map_cons]

end

end DocModel
