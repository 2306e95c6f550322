import DocModel.Proofs.Agreement
import DocModel.Proofs.Dialect.Readings
import DocModel.Proofs.Normalization.Definitions

/-!
# DocModel.Proofs.Normalization.ReadBack

The normal form of a model is read back.

* `WritableModel` says what the model has to be for that;
* `parse_render`: its normal form gives the model again, up to places;
* `convert_render`: a normal form that is read back is normal.
-/

namespace DocModel

open Dialect Markdown Target.Markdown Text Validation

/-- A title that can be written. -/
structure WritableTitle (title : String) : Prop where
  titled : title ≠ ""
  /-- It is on one line. -/
  single : '\n' ∉ title.toList

/-- The title that the heading with a title gives. Marks at its ends may be taken for some of the
heading. -/
def titleAgain (title : String) : Option String :=
  let bare := String.ofList (bareHeading (titlePart title.toList).heading)
  if bare.isEmpty then none else some bare

/-- The model with the title that is read back. -/
def DataModel.retitled (m : DataModel) : DataModel := { m with name := m.name.bind titleAgain }

/-- The settings are those that their front matter gives. -/
def SettingsReadBack (c : Config) : Prop :=
  ∃ front offset,
    partsOf (frontText c).toList = .ok { front := some front, body := [], offset } ∧
      front.config = .ok c

/-- A model that can be written. -/
structure WritableModel (m : DataModel) : Prop where
  /-- Its settings can be written. -/
  settings : m.config.isDefault = true ∨ SettingsReadBack m.config
  /-- Its title can be written. -/
  title : ∀ title, m.name = some title → WritableTitle title
  defined : m.definitions ≠ []
  /-- Its definitions can be written. -/
  definitions : ∀ d ∈ m.definitions, d.Writable m
  /-- Lines end at line feeds only. -/
  unreturned : '\r' ∉ (render m).toList

/-! ## Lines -/

theorem notMem_of_terminated {c : Char} {ls : List (List Char)} (h : c ∉ terminated ls) :
    ∀ line ∈ ls, c ∉ line := by
  induction ls with
  | nil => exact fun line hm => by cases hm
  | cons first more ih =>
    rw [terminated_cons, List.mem_append, List.mem_cons, not_or, not_or] at h
    intro line hm
    rcases List.mem_cons.1 hm with rfl | hm
    · exact h.1
    · exact ih h.2.2 line hm

/-- A text that ends in a line feed is made of lines. -/
theorem exists_terminated (text : List Char) :
    ∃ ls, text ++ ['\n'] = terminated ls ∧ ∀ line ∈ ls, '\n' ∉ line :=
  ⟨splitOn '\n' text, (terminated_splitOn text).symm, fun _ hm => notMem_of_mem_splitOn hm⟩

theorem single_described {part : Part} : ∀ line ∈ part.describedLines, '\n' ∉ line := by
  intro line hm
  rw [Part.describedLines] at hm
  split at hm
  · cases hm
  · rcases List.mem_cons.1 hm with rfl | hm
    · exact List.not_mem_nil
    · exact notMem_of_mem_splitOn hm

theorem single_definitionHeading {name : String} (h : DefinitionName name.toList) :
    '\n' ∉ definitionHeading name := by
  have word : '\n' ∉ name.toList := fun hm =>
    absurd (isWordChar_iff.2 (h.forall_mem (fun _ hc => .inl hc) _ hm)) (by decide)
  simp [definitionHeading, word]

section

variable {m : DataModel}

theorem single_bulletLines {a : Attribute} (h : WritableAttribute m a) :
    ∀ line ∈ bulletLines (writtenBullet m a), '\n' ∉ line := by
  intro line hm
  rw [bulletLines, List.mem_cons] at hm
  rcases hm with rfl | hm
  · have name : '\n' ∉ (nameText a).toList := fun hn =>
      absurd (isWordChar_iff.2 (nameText_wordChar h _ hn)) (by decide)
    simp [hyphenLine, writtenBullet, name]
  · obtain ⟨text, ht, rfl⟩ := List.mem_map.1 hm
    obtain ⟨p, hp, rfl⟩ := List.mem_map.1 ht
    have ok := properties_writable h hp
    simp [nestedLine, hyphenLine, toList_propertyText, ok.key.single, ok.value.single]

theorem single_objectPart {o : Object} (h : WritableObject m o) :
    ∀ line ∈ (objectPart m o).lines, '\n' ∉ line := by
  intro line hm
  rw [Part.lines, Part.body, List.mem_cons, List.mem_append] at hm
  rcases hm with rfl | hm | hm
  · exact single_definitionHeading h.named
  · exact single_described line hm
  · rw [objectPart] at hm
    dsimp only at hm
    split at hm
    · cases hm
    · rcases List.mem_cons.1 hm with rfl | hm
      · exact List.not_mem_nil
      · obtain ⟨bullet, hb, hl⟩ := List.mem_flatMap.1 hm
        obtain ⟨a, ha, rfl⟩ := List.mem_map.1 hb
        exact single_bulletLines (h.attributes a ha) line hl

theorem single_memberLine {entry : String × String} (h : WritableMember entry)
    (single : '\n' ∉ entry.2.toList) : '\n' ∉ (memberLine entry).toList := by
  have key : '\n' ∉ entry.1.toList := fun hm =>
    absurd (isWordChar_iff.2 (attributeName_wordChar h.key _ hm)) (by decide)
  have quote : '\n' ≠ memberQuote entry.2.toList := by
    rw [memberQuote]
    split <;> decide
  rw [toList_memberLine]
  simp [key, single, quote]

theorem single_enumerationPart {e : Enumeration} (h : WritableEnumeration e) :
    ∀ line ∈ (enumerationPart e).lines, '\n' ∉ line := by
  have fence : '\n' ∉ fenceLine := by decide
  have opening : '\n' ∉ fenceLine ++ python := by decide
  intro line hm
  rw [Part.lines, Part.body, List.mem_cons, List.mem_append] at hm
  rcases hm with rfl | hm | hm
  · exact single_definitionHeading h.named
  · exact single_described line hm
  · rcases List.mem_cons.1 hm with rfl | hm
    · exact List.not_mem_nil
    rw [codeLines, List.mem_append, List.mem_cons, List.mem_singleton] at hm
    rcases hm with (rfl | hm) | rfl
    · exact opening
    · rw [memberLines, List.map_map] at hm
      obtain ⟨entry, he, rfl⟩ := List.mem_map.1 hm
      exact single_memberLine (h.members entry he) (h.single entry he)
    · exact fence

theorem single_definitionParts (h : WritableModel m) :
    ∀ part ∈ definitionParts m, ∀ line ∈ part.lines, '\n' ∉ line := by
  intro part hp
  rw [definitionParts_eq] at hp
  obtain ⟨d, hd, rfl⟩ := List.mem_map.1 hp
  have writable := h.definitions d hd
  cases d with
  | object o => exact single_objectPart writable
  | enumeration e => exact single_enumerationPart writable

/-- The lines of the normal form of a model with a title that may be another one. -/
theorem single_spacedLines (h : WritableModel m) {name : Option String}
    (title : ∀ title, name = some title → '\n' ∉ title.toList) :
    ∀ line ∈ spacedLines (modelParts { m with name }), '\n' ∉ line := by
  intro line hm
  obtain ⟨part, hp, hl⟩ := List.mem_flatMap.1 hm
  rcases List.mem_cons.1 hl with rfl | hl
  · exact List.not_mem_nil
  rcases List.mem_append.1 hp with hp | hp
  · obtain ⟨text, ht, rfl⟩ := mem_toList_map hp
    rw [List.mem_singleton.1 hl]
    simp [titlePart, title text ht]
  · exact single_definitionParts h part hp line hl

theorem plain_modelParts (h : WritableModel m) : ∀ part ∈ modelParts m, part.Plain := by
  intro part hp
  rw [modelParts, List.mem_append] at hp
  rcases hp with hp | hp
  · obtain ⟨title, -, rfl⟩ := mem_toList_map hp
    exact ⟨headingLevel?_title title.toList, .inl rfl, trivial⟩
  · rw [definitionParts_eq] at hp
    obtain ⟨d, hd, rfl⟩ := List.mem_map.1 hp
    exact plain_definitionPart (h.definitions d hd)

theorem modelParts_ne_nil (h : WritableModel m) : modelParts m ≠ [] := by
  rw [modelParts, definitionParts_eq]
  intro empty
  exact h.defined (List.map_eq_nil_iff.1 (List.append_eq_nil_iff.1 empty).2)

theorem oneLine_spacedLines (h : WritableModel m) :
    ∀ line ∈ spacedLines (modelParts m), OneLine line := by
  have single : ∀ line ∈ spacedLines (modelParts m), '\n' ∉ line :=
    single_spacedLines h fun title ht => (h.title title ht).single
  have unreturned : ∀ line ∈ spacedLines (modelParts m), '\r' ∉ line := by
    have some := modelParts_ne_nil h
    have text := h.unreturned
    cases config : m.config.isDefault with
    | true =>
      rw [toList_render_bare config] at text
      intro line hm
      rw [spacedLines_eq some] at hm
      rcases List.mem_cons.1 hm with rfl | hm
      · exact List.not_mem_nil
      · exact notMem_of_terminated text line hm
    | false =>
      rw [toList_render_front config some, List.mem_append, not_or] at text
      exact notMem_of_terminated text.2
  exact fun line hm => ⟨single line hm, unreturned line hm⟩

/-! ## The model of a document -/

theorem definitionParts_level : ∀ part ∈ definitionParts m, part.level = 3 := by
  intro part hp
  rw [definitionParts_eq] at hp
  obtain ⟨d, -, rfl⟩ := List.mem_map.1 hp
  exact definitionPart_level d

/-- Blocks that are those of the parts of a model give the title as it is read and definitions that
differ from those of the model in their places only. -/
theorem read_of_parts (h : WritableModel m) {table : LineTable} {offset n : Nat}
    (hs : Stands table (n + offset) (spacedLines (modelParts m))) {blocks : List Dialect.Block}
    (gist : blocks.map Block.gist = partsBlocks table offset (n + 1) (modelParts m)) :
    titleOf blocks = m.name.bind titleAgain ∧
      ∃ read : List Definition, (sectionsOf blocks).map (Definition.ofSection table) =
          read.map (·, []) ∧
        read.map Definition.unplaced = m.definitions.map Definition.unplaced := by
  have place : n + offset + 1 = n + 1 + offset := by omega
  rw [← titleOf_gist, sectionsOf, ← sectionsAfter_gist, gist]
  cases name : m.name with
  | none =>
    have parts : modelParts m = definitionParts m := by
      rw [modelParts, name]
      rfl
    rw [parts] at hs ⊢
    have tail := hs.tail
    rw [place] at tail
    rw [titleOf_parts definitionParts_level, sectionsAfter_parts definitionParts_level tail,
      definitionParts_eq]
    rw [definitionParts_eq] at hs
    exact ⟨rfl, ofSections_definitionParts h.definitions hs⟩
  | some title =>
    have parts : modelParts m = titlePart title.toList :: definitionParts m := by
      rw [modelParts, name]
      rfl
    rw [parts] at hs ⊢
    have split : Stands table (n + offset) (([] :: (titlePart title.toList).lines) ++
        spacedLines (definitionParts m)) := hs
    obtain ⟨own, later⟩ := split.append
    have heading := own.tail
    rw [place] at heading
    have next : n + offset + ([] :: (titlePart title.toList).lines : List (List Char)).length =
        n + 1 + (titlePart title.toList).lines.length + offset := by
      rw [List.length_cons]
      omega
    rw [next] at later
    have below := later.tail
    have down : n + 1 + (titlePart title.toList).lines.length + offset + 1 =
        n + 1 + (titlePart title.toList).lines.length + 1 + offset := by omega
    rw [down] at below
    refine ⟨?_, ?_⟩
    · rw [partsBlocks, titleOf_title heading.head, titleOf_parts definitionParts_level,
        Option.bind_some, titleAgain]
      rfl
    · have sections := @sectionsOf_title table offset (n + 1) title.toList
        (partsBlocks table offset (n + 1 + (titlePart title.toList).lines.length + 1)
          (definitionParts m))
      rw [sectionsOf, sectionsOf] at sections
      rw [partsBlocks, sections, sectionsAfter_parts definitionParts_level below,
        definitionParts_eq]
      rw [definitionParts_eq] at later
      exact ofSections_definitionParts h.definitions later

/-- Blocks that are those of the parts of a model give the model, with the title as it is read. -/
theorem ofDocument_parts (h : WritableModel m) {table : LineTable} {offset n : Nat}
    (hs : Stands table (n + offset) (spacedLines (modelParts m))) {document : Document}
    (config : document.config = m.config)
    (blocks : document.blocks.map Block.gist =
      partsBlocks table offset (n + 1) (modelParts m)) :
    ∃ model, Reading.ofDocument table document = { model, diagnostics := [] } ∧
      model.unplaced = m.retitled.unplaced := by
  obtain ⟨title, read, sections, same⟩ := read_of_parts h hs blocks
  have definitions : ((sectionsOf document.blocks).map (Definition.ofSection table)).map (·.1) =
      read := by
    rw [sections, List.map_map]
    exact List.map_id _
  have quiet : ((sectionsOf document.blocks).map (Definition.ofSection table)).flatMap (·.2) =
      [] := by
    rw [sections, List.flatMap_map, List.flatMap_eq_nil_iff]
    exact fun _ _ => rfl
  refine ⟨_, by rw [Reading.ofDocument, quiet], ?_⟩
  have objects : (read.filterMap (·.object?)).map Object.unplaced =
      m.objects.map Object.unplaced := by
    rw [Definition.objects_unplaced, same, ← Definition.objects_unplaced, objects_definitions]
  have enums : (read.filterMap (·.enumeration?)).map Enumeration.unplaced =
      m.enums.map Enumeration.unplaced := by
    rw [Definition.enumerations_unplaced, same, ← Definition.enumerations_unplaced,
      enumerations_definitions]
  have unmarked : ∀ names, Object.unplaced ∘ markEnumerations names = Object.unplaced := by
    intro names
    funext o
    simp only [Function.comp_apply, Object.unplaced, markEnumerations, List.map_map]
    rfl
  rw [definitions]
  simp only [DataModel.unplaced, DataModel.retitled, List.map_map, unmarked, objects, enums, title,
    config]

theorem ofSource_bare (h : WritableModel m) (bare : m.config.isDefault = true) :
    ∃ document, Document.ofSource (render m).toList = .ok document ∧
      document.config = m.config ∧
      Stands (LineTable.ofSource (render m).toList) (0 + 0) (spacedLines (modelParts m)) ∧
      document.blocks.map Block.gist =
        partsBlocks (LineTable.ofSource (render m).toList) 0 (0 + 1) (modelParts m) := by
  have default_ : m.config = {} := by simpa [Config.isDefault] using bare
  obtain ⟨part, more, parts⟩ := List.exists_cons_of_ne_nil (modelParts_ne_nil h)
  have plain := plain_modelParts h
  have text := toList_render_bare bare
  have oneLine := oneLine_spacedLines h
  have joined : joinedLines (part :: more) = part.lines ++ spacedLines more := rfl
  have spaced : spacedLines (part :: more) = [] :: (part.lines ++ spacedLines more) := rfl
  rw [parts] at plain text oneLine ⊢
  rw [joined] at text
  rw [spaced] at oneLine
  have lines : ∀ line ∈ part.lines ++ spacedLines more, OneLine line :=
    fun line hm => oneLine line (List.mem_cons_of_mem _ hm)
  obtain ⟨rest, hash⟩ := (plain part List.mem_cons_self).head
  have first : part.lines ++ spacedLines more =
      ('#' :: rest) :: (part.body ++ spacedLines more) := by
    rw [Part.lines, hash]
    rfl
  have stands : Stands (LineTable.ofSource (render m).toList) 1
      (part.lines ++ spacedLines more) := by
    have front := @stands_ofSource [] _ (fun line hm => by cases hm) lines
    rwa [List.nil_append, List.length_nil, Nat.zero_add, ← text] at front
  have parted : partsOf (render m).toList =
      .ok { front := none, body := terminated (part.lines ++ spacedLines more), offset := 0 } := by
    rw [text, first]
    refine partsOf_terminated (fun line hm => (lines line (first ▸ hm)).feed) ?_
    have other : trimEnd (('#' :: rest) ++ ['\n']) ≠ ['-', '-', '-'] := by
      intro e
      have kept : (trimEnd (('#' :: rest) ++ ['\n'])) <+: ('#' :: rest) ++ ['\n'] :=
        List.rdropWhile_prefix _ _
      rw [e] at kept
      obtain ⟨tail, same⟩ := kept
      cases (List.cons.inj same).1
    rw [isDelimiter, beq_eq_false_iff_ne]
    exact other
  refine ⟨_, by simp only [Document.ofSource, parted, bind, Except.bind]; rfl, default_.symm,
    ?_, ?_⟩
  · rw [spaced]
    exact stands.before
  · exact gist_blocksOf_first plain lines stands

theorem ofSource_front (h : WritableModel m) (set : m.config.isDefault = false) :
    ∃ document offset, Document.ofSource (render m).toList = .ok document ∧
      document.config = m.config ∧
      Stands (LineTable.ofSource (render m).toList) (1 + offset) (spacedLines (modelParts m)) ∧
      document.blocks.map Block.gist =
        partsBlocks (LineTable.ofSource (render m).toList) offset (1 + 1) (modelParts m) := by
  obtain ⟨front, offset, parted, settings⟩ := h.settings.resolve_left (by simp [set])
  have text := toList_render_front set (modelParts_ne_nil h)
  have oneLine := oneLine_spacedLines h
  obtain ⟨ls, lines, single⟩ :=
    exists_terminated ("---\n" ++ Yaml.write (configValue m.config) ++ "---").toList
  have frontLines : (frontText m.config).toList = terminated ls := by
    rw [← lines]
    simp [frontText, String.toList_append]
  rw [frontLines] at text parted
  have cut := partsOf_front single parted (terminated (spacedLines (modelParts m)))
  have stands : Stands (LineTable.ofSource (render m).toList) (1 + ls.length)
      (spacedLines (modelParts m)) := by
    have below := stands_ofSource single oneLine
    rwa [terminated_append, ← text, Nat.add_comm] at below
  refine ⟨{ config := m.config
            frontMatter := some (FrontMatter.startLine, front.endLine)
            blocks := blocksOf (LineTable.ofSource (render m).toList) ls.length
              (terminated (spacedLines (modelParts m))) }, ls.length, ?_, rfl, stands, ?_⟩
  · rw [← text] at cut
    simp only [Document.ofSource, cut, bind, Except.bind, settings]
    rfl
  · exact gist_blocksOf_spaced (plain_modelParts h) oneLine stands

/-- The normal form of a model that can be written gives the model again, up to places and up to
the title. -/
theorem parse_render (h : WritableModel m) :
    ∃ model, parse (render m) = .ok { model, diagnostics := [] } ∧
      model.unplaced = m.retitled.unplaced := by
  cases config : m.config.isDefault with
  | true =>
    obtain ⟨document, read, settings, stands, blocks⟩ := ofSource_bare h config
    obtain ⟨model, parsed, same⟩ := ofDocument_parts h stands settings blocks
    exact ⟨model, by rw [parse, read, Except.map, parsed], same⟩
  | false =>
    obtain ⟨document, offset, read, settings, stands, blocks⟩ := ofSource_front h config
    obtain ⟨model, parsed, same⟩ := ofDocument_parts h stands settings blocks
    exact ⟨model, by rw [parse, read, Except.map, parsed], same⟩

end

/-! ## Normal forms -/

theorem convert_markdown {source : String} {m : DataModel} (h : validModel source = .ok m) :
    convert source .markdown [] = .ok (render m) :=
  convert_of_validModel h .markdown []

theorem validModel_of_convert {source text : String}
    (h : convert source .markdown [] = .ok text) :
    ∃ m, validModel source = .ok m ∧ text = render m := by
  cases valid : validModel source with
  | error e =>
    rw [convert_of_error valid] at h
    cases h
  | ok m =>
    rw [convert_markdown valid] at h
    cases h
    exact ⟨m, rfl, rfl⟩

theorem wellFormed_retitled {m : DataModel} {diagnostics : List Diagnostic}
    (h : WellFormed { model := m, diagnostics }) :
    WellFormed { model := m.retitled, diagnostics } := by
  refine ⟨h.read, h.defined, h.distinct, h.distinctAttributes, h.objectsNamed, h.enumsNamed,
    fun o ho a ha => ?_, h.inhabited⟩
  have ok := h.attributes o ho a ha
  exact ⟨ok.named, ok.typed, ok.known, ok.single, ok.term, ok.xml⟩

/-- The normal form of a well-formed model that can be written, normalized again. -/
theorem convert_render {m : DataModel} (valid : WellFormed { model := m, diagnostics := [] })
    (h : WritableModel m) : convert (render m) .markdown [] = .ok (render m.retitled) := by
  obtain ⟨model, parsed, same⟩ := parse_render h
  have read : validModel (render m) = .ok model := by
    have checked : (reportOf { model, diagnostics := [] }).isValid = true :=
      isValid_of_wellFormed (wellFormed_congr same (wellFormed_retitled valid))
    rw [validModel, parsed]
    simp only [checked, if_true]
  rw [convert_markdown read, render_congr same]

/-! ## Titles -/

theorem terminated_injective {first second : List (List Char)} (hf : ∀ line ∈ first, '\n' ∉ line)
    (hs : ∀ line ∈ second, '\n' ∉ line) (h : terminated first = terminated second) :
    first = second := by
  have pieces := congrArg (splitOn '\n') h
  rw [splitOn_terminated hf, splitOn_terminated hs] at pieces
  exact List.append_cancel_right pieces

section

variable {m : DataModel}

theorem exists_definitionHeading (h : WritableModel m) :
    ∃ name more, spacedLines (definitionParts m) = [] :: definitionHeading name :: more := by
  obtain ⟨d, rest, definitions⟩ := List.exists_cons_of_ne_nil h.defined
  rw [definitionParts_eq, definitions]
  cases d with
  | object o => exact ⟨o.name, _, rfl⟩
  | enumeration e => exact ⟨e.name, _, rfl⟩

/-- Models with the same normal form have the same lines below the front matter. -/
theorem spacedLines_of_render (h : WritableModel m) {name : Option String}
    (title : ∀ title, name = some title → '\n' ∉ title.toList)
    (same : render { m with name } = render m) :
    spacedLines (modelParts { m with name }) = spacedLines (modelParts m) := by
  have first := single_spacedLines h title
  have second : ∀ line ∈ spacedLines (modelParts m), '\n' ∉ line :=
    fun line hm => (oneLine_spacedLines h line hm).feed
  have some := modelParts_ne_nil h
  have someNamed : modelParts { m with name } ≠ [] := by
    rw [modelParts]
    intro empty
    have none : definitionParts m = [] := (List.append_eq_nil_iff.1 empty).2
    rw [definitionParts_eq] at none
    exact h.defined (List.map_eq_nil_iff.1 none)
  have texts := congrArg String.toList same
  refine terminated_injective first second ?_
  cases config : m.config.isDefault with
  | true =>
    have named := @toList_render_bare { m with name } config
    rw [toList_render_bare config, named] at texts
    rw [spacedLines_eq some, spacedLines_eq someNamed, terminated_cons, terminated_cons, texts]
  | false =>
    have named := @toList_render_front { m with name } config someNamed
    rw [toList_render_front config some, named] at texts
    exact List.append_cancel_left texts

theorem name_of_render (h : WritableModel m) {name : Option String}
    (title : ∀ title, name = some title → '\n' ∉ title.toList)
    (same : render { m with name } = render m) : name = m.name := by
  have lines := spacedLines_of_render h title same
  obtain ⟨first, more, definitions⟩ := exists_definitionHeading h
  have titled : ∀ text : String, spacedLines (modelParts { m with name := some text }) =
      [] :: ('#' :: ' ' :: text.toList) :: spacedLines (definitionParts m) := fun _ => rfl
  have untitled : spacedLines (modelParts { m with name := none }) =
      [] :: definitionHeading first :: more := definitions
  have own : ∀ other, m.name = other →
      spacedLines (modelParts m) = spacedLines (modelParts { m with name := other }) := by
    rintro _ rfl
    rfl
  cases hn : name with
  | none =>
    cases hm : m.name with
    | none => rfl
    | some text =>
      rw [own _ hm, hn, titled, untitled] at lines
      cases (List.cons.inj (List.cons.inj (List.cons.inj lines).2).1).2
  | some text =>
    cases hm : m.name with
    | none =>
      rw [own _ hm, hn, titled, untitled] at lines
      cases (List.cons.inj (List.cons.inj (List.cons.inj lines).2).1).2
    | some other =>
      rw [own _ hm, hn, titled, titled] at lines
      have texts := (List.cons.inj (List.cons.inj lines).2).1
      rw [String.toList_injective (List.cons.inj (List.cons.inj texts).2).2]

theorem single_titleAgain {title again : String} (h : '\n' ∉ title.toList)
    (ha : titleAgain title = some again) : '\n' ∉ again.toList := by
  rw [titleAgain] at ha
  split at ha
  · cases ha
  · cases ha
    rw [String.toList_ofList]
    intro hm
    have heading : '\n' ∈ '#' :: ' ' :: title.toList := mem_of_mem_bareHeading hm
    simp [h] at heading

/-- A normal form is normal exactly if its title is read back. -/
theorem render_retitled_iff (h : WritableModel m) :
    render m.retitled = render m ↔
      ∀ title, m.name = some title → titleAgain title = some title := by
  have again : ∀ title, m.name.bind titleAgain = some title → '\n' ∉ title.toList := by
    intro title ht
    obtain ⟨text, hm, ha⟩ := Option.bind_eq_some_iff.1 ht
    exact single_titleAgain (h.title text hm).single ha
  constructor
  · intro same title hm
    have name : m.name.bind titleAgain = m.name := name_of_render h again same
    rwa [hm] at name
  · intro back
    have name : m.name.bind titleAgain = m.name := by
      cases hm : m.name with
      | none => rfl
      | some title => exact back title hm
    rw [DataModel.retitled, name]

end

end DocModel
