import DocModel.Proofs.Dialect.MemberLines
import DocModel.Proofs.Markdown.Characters

/-!
# DocModel.Proofs.Dialect.Readings

What holds of every model that is read, whatever the document is. Its texts come from single lines
of the document, and they are trimmed.

* `Single` is that property of a bullet, of a block and of a section;
* `ReadAttribute` and `ReadMember` say what it makes of attributes and of members;
* `attributes_of_parse`, `members_of_parse` and `title_of_parse` are about whole models.
-/

namespace DocModel
namespace Dialect

open Text Validation

/-! ## Texts -/

theorem mem_of_mem_trim {c : Char} {text : List Char} (h : c ∈ trim text) : c ∈ text := by
  rw [trim, trimWhere, dropEndWhile_eq_rdropWhile] at h
  exact (List.dropWhile_suffix _).mem ((List.rdropWhile_prefix _ _).mem h)

theorem mem_of_mem_bareHeading {c : Char} {line : List Char} (h : c ∈ bareHeading line) :
    c ∈ line := by
  have inner : ∀ d ∈ trim ((trim line).dropWhile (· == '#')), d ∈ line := fun d hd =>
    mem_of_mem_trim ((List.dropWhile_suffix _).mem (mem_of_mem_trim hd))
  unfold bareHeading at h
  dsimp only at h
  split at h
  · exact mem_of_mem_trim h
  · split at h
    · exact inner c ((List.rdropWhile_prefix _ _).mem ((List.rdropWhile_prefix _ _).mem h))
    · split at h
      · cases h
      · exact inner c h

theorem suffix_of_afterListMarker? {text after : List Char}
    (h : afterListMarker? text = some after) : after <:+ text := by
  cases text with
  | nil => cases h
  | cons c rest =>
    unfold afterListMarker? at h
    dsimp only at h
    split at h
    · cases rest with
      | nil =>
        cases h
        exact List.nil_suffix
      | cons d more =>
        dsimp only at h
        split at h
        · cases h
          exact List.suffix_cons c _
        · cases h
    split at h
    · have digits : rest.dropWhile Unicode.isDecimal <:+ c :: rest :=
        (List.dropWhile_suffix _).trans (List.suffix_cons c rest)
      cases hr : rest.dropWhile Unicode.isDecimal with
      | nil =>
        rw [hr] at h
        cases h
      | cons d more =>
        rw [hr] at h digits
        dsimp only at h
        split at h
        · cases more with
          | nil =>
            cases h
            exact List.nil_suffix
          | cons e tail =>
            dsimp only at h
            split at h
            · cases h
              exact (List.suffix_cons d _).trans digits
            · cases h
        · cases h
    · cases h

theorem mem_of_mem_bulletText {c : Char} {line : List Char} (h : c ∈ bulletText line) :
    c ∈ line := by
  have begun : trimStart line <:+ line := List.dropWhile_suffix _
  have text := mem_of_mem_trim h
  cases ha : afterListMarker? (trimStart line) with
  | none =>
    rw [ha] at text
    exact begun.mem text
  | some after =>
    rw [ha] at text
    exact begun.mem ((suffix_of_afterListMarker? ha).mem text)

/-! ## Blocks -/

/-- The texts of a bullet and of those nested in it are trimmed and on one line. -/
inductive ListItem.Single : ListItem → Prop where
  | mk {text : String} {line : Nat} {children : List ListItem} : TrimmedLine text →
      (∀ child ∈ children, child.Single) → Single (.mk text line children)

/-- The text of a line of a code block has no line feed and no null. -/
def SingleCode (line : Nat × String) : Prop := ∀ c ∈ line.2.toList, c ≠ '\n' ∧ c ≠ '\x00'

/-- The texts of a block are on single lines. -/
def BlockContent.Single : BlockContent → Prop
  | heading _ text => '\n' ∉ text.toList
  | list items => ∀ item ∈ items, item.Single
  | code _ lines => ∀ line ∈ lines, SingleCode line
  | _ => True

section

variable {source : List Char} {offset : Nat}

theorem single_bulletText (n : Nat) :
    TrimmedLine (String.ofList (bulletText ((LineTable.ofSource source).textOf n))) := by
  refine ⟨?_, ?_⟩ <;> rw [String.toList_ofList]
  · exact trimmed_trim _
  · exact fun h => textOf_single source n (mem_of_mem_bulletText h)

mutual

theorem single_itemsOf : ∀ blocks : List Markdown.Block,
    ∀ item ∈ itemsOf (LineTable.ofSource source) offset blocks, item.Single
  | [], item, h => by rw [itemsOf] at h; cases h
  | .node kind first last children :: more, item, h => by
    rw [itemsOf] at h
    rcases List.mem_cons.1 h with rfl | h
    · exact .mk (single_bulletText _) (single_nestedItems children)
    · exact single_itemsOf more item h

theorem single_nestedItems : ∀ blocks : List Markdown.Block,
    ∀ item ∈ nestedItems (LineTable.ofSource source) offset blocks, item.Single
  | [], item, h => by rw [nestedItems] at h; cases h
  | .node kind first last children :: more, item, h => by
    have inner := single_itemsOf children
    have rest := single_nestedItems more
    by_cases hk : kind = .list
    · subst hk
      rw [nestedItems_list] at h
      rcases List.mem_append.1 h with h | h
      · exact inner item h
      · exact rest item h
    · rw [nestedItems_other _ _ hk] at h
      exact rest item h

end

/-- The texts of a block of a document are on single lines. -/
theorem single_ofMarkdown {block : Markdown.Block}
    (h : block.Holds fun c => c ≠ '\n' ∧ c ≠ '\x00') :
    (Block.ofMarkdown (LineTable.ofSource source) offset block).content.Single := by
  obtain ⟨kind, first, last, children⟩ := block
  cases kind with
  | heading level =>
    have text : '\n' ∉ (String.ofList (bareHeading
        ((LineTable.ofSource source).textOf (first + offset)))).toList := by
      rw [String.toList_ofList]
      exact fun hm => textOf_single source _ (mem_of_mem_bareHeading hm)
    exact text
  | list => exact single_itemsOf children
  | code fenced info lines =>
    intro line hl
    obtain ⟨⟨text, i⟩, hm, rfl⟩ := List.mem_map.1 hl
    have member : text ∈ lines := by
      obtain ⟨-, -, same⟩ := List.mem_zipIdx hm
      exact same ▸ List.getElem_mem _
    intro c hc
    rw [String.toList_ofList] at hc
    exact h fenced info lines rfl text member c hc
  | _ => trivial

theorem single_bodyLines (text : List Char) :
    ∀ line ∈ Markdown.bodyLines text, ∀ c ∈ line, c ∈ text ∧ c ≠ '\n' := by
  fun_induction Markdown.bodyLines text with
  | case1 => exact fun line hl => (List.not_mem_nil hl).elim
  | case2 rest ih | case3 rest _ ih | case4 rest ih =>
    intro line hl c hc
    rcases List.mem_cons.1 hl with rfl | hl
    · cases hc
    · obtain ⟨member, other⟩ := ih line hl c hc
      exact ⟨by simp [member], other⟩
  | case5 c _ feed =>
    intro line hl d hd
    rw [List.mem_singleton.1 hl, List.mem_singleton] at hd
    subst hd
    exact ⟨List.mem_cons_self, feed⟩
  | case6 c rest _ _ feed none some =>
    intro line hl d hd
    rw [none] at hl
    cases rest with
    | nil => exact (some rfl).elim
    | cons e more =>
      rw [List.mem_singleton.1 hl, List.mem_singleton] at hd
      subst hd
      exact ⟨List.mem_cons_self, feed⟩
  | case7 c rest _ _ feed first lines read some ih =>
    intro line hl d hd
    rw [read] at ih hl
    have whole : line ∈ (c :: first) :: lines := by
      cases rest with
      | nil => exact (some rfl).elim
      | cons e more => exact hl
    rcases List.mem_cons.1 whole with rfl | hl
    · rcases List.mem_cons.1 hd with rfl | hd
      · exact ⟨List.mem_cons_self, feed⟩
      · obtain ⟨member, other⟩ := ih first List.mem_cons_self d hd
        exact ⟨List.mem_cons_of_mem _ member, other⟩
    · obtain ⟨member, other⟩ := ih line (List.mem_cons_of_mem _ hl) d hd
      exact ⟨List.mem_cons_of_mem _ member, other⟩

theorem single_blocksOf (body : List Char) :
    ∀ block ∈ blocksOf (LineTable.ofSource source) offset body, block.content.Single := by
  have clean : ∀ c ∈ Markdown.cleaned body, c ≠ '\x00' := by
    intro c hc
    unfold Markdown.cleaned at hc
    dsimp only at hc
    obtain ⟨d, -, rfl⟩ := List.mem_map.1 hc
    split
    · decide
    · next other => simpa using other
  have lines : ∀ line ∈ Markdown.bodyLines (Markdown.cleaned body),
      Markdown.AllChars (fun c => c ≠ '\n' ∧ c ≠ '\x00') line := by
    intro line hl c hc
    obtain ⟨member, feed⟩ := single_bodyLines _ line hl c hc
    exact ⟨feed, clean c member⟩
  intro block hb
  obtain ⟨inner, hi, rfl⟩ := List.mem_map.1 hb
  exact single_ofMarkdown (Markdown.holds_blocks (by decide) lines inner hi)

end

/-! ## Sections -/

/-- The texts of a section that matter for its attributes and members are on single lines. -/
structure Section.Single (s : Section) : Prop where
  /-- Those of its bullets are. -/
  lists : ∀ items ∈ s.lists, ∀ item ∈ items, item.Single
  /-- Those of its code blocks are. -/
  codeBlocks : ∀ lines ∈ s.codeBlocks, ∀ line ∈ lines, SingleCode line

theorem Section.Single.add {s : Section} (h : s.Single) {block : Block}
    (hb : block.content.Single) : (s.add block).Single := by
  rw [Section.add]
  cases hc : block.content with
  | paragraph text =>
    dsimp only
    split
    · exact ⟨h.lists, h.codeBlocks⟩
    · exact h
  | list items =>
    rw [hc] at hb
    refine ⟨fun other ho => ?_, h.codeBlocks⟩
    rcases List.mem_append.1 ho with ho | ho
    · exact h.lists other ho
    · rw [List.mem_singleton.1 ho]
      exact hb
  | code info lines =>
    rw [hc] at hb
    refine ⟨h.lists, fun other ho => ?_⟩
    rcases List.mem_append.1 ho with ho | ho
    · exact h.codeBlocks other ho
    · rw [List.mem_singleton.1 ho]
      exact hb
  | heading level text => exact h
  | other => exact h

theorem single_sectionsAfter {blocks : List Block} (hb : ∀ block ∈ blocks, block.content.Single)
    {current : Option Section} (hc : ∀ s ∈ current, s.Single) :
    ∀ s ∈ sectionsAfter current blocks, s.Single := by
  induction blocks generalizing current with
  | nil => exact fun s hs => hc s (Option.mem_toList.1 hs)
  | cons block rest ih =>
    have later := @ih fun other ho => hb other (List.mem_cons_of_mem _ ho)
    intro s hs
    rw [sectionsAfter.eq_def] at hs
    dsimp only at hs
    split at hs
    · rcases List.mem_append.1 hs with hs | hs
      · exact hc s (Option.mem_toList.1 hs)
      · exact later (fun _ ho => by cases ho) s hs
    · rcases List.mem_append.1 hs with hs | hs
      · exact hc s (Option.mem_toList.1 hs)
      · refine later (fun opened ho => ?_) s hs
        cases ho
        exact ⟨fun _ hl => (List.not_mem_nil hl).elim, fun _ hl => (List.not_mem_nil hl).elim⟩
    · refine later (fun more hm => ?_) s hs
      obtain ⟨before, hbefore, rfl⟩ := Option.map_eq_some_iff.1 hm
      exact (hc before hbefore).add (hb block List.mem_cons_self)

/-! ## Attributes -/

/-- An attribute as reading leaves it. -/
structure ReadAttribute (a : Attribute) : Prop where
  /-- Its name does not look like that of an identifier if it is none. -/
  unmarked : a.isId = false →
    ¬ ∃ inner ≠ [], a.name.toList = ['_', '_'] ++ inner ++ ['_', '_']
  term : ∀ term, a.term = some term → TrimmedLine term ∧ term ≠ ""
  /-- Its description is on one line. -/
  docstring : TrimmedLine a.docstring
  /-- Its options can be written. -/
  options : ∀ o ∈ a.options, WritableOption o

theorem trimmedLine_trim {text : List Char} (h : '\n' ∉ text) :
    TrimmedLine (String.ofList (trim text)) := by
  refine ⟨?_, ?_⟩ <;> rw [String.toList_ofList]
  · exact trimmed_trim _
  · exact fun hm => h (mem_of_mem_trim hm)

/-- The key and the value of a bullet can be written. -/
theorem writableProperty_of_splitOption {text : String} {key value : String} (h : TrimmedLine text)
    (hs : splitOption text = .ok (key, value)) : WritableProperty (key, value) := by
  rw [splitOption] at hs
  split at hs
  · cases hs
  · next before after cut =>
    obtain ⟨whole, colon⟩ := splitOnce_eq_some_iff.1 cut
    have single := h.single
    rw [whole, List.mem_append, List.mem_cons, not_or, not_or] at single
    dsimp only at hs
    split at hs
    · cases hs
    · next keyed =>
      split at hs
      · cases hs
      · next valued =>
        cases hs
        refine ⟨trimmedLine_trim single.1, by simpa using keyed, ?_, trimmedLine_trim single.2.2,
          by simpa using valued⟩
        rw [String.toList_ofList]
        exact fun hm => colon (mem_of_mem_trim hm)

theorem trimmedLine_extended {docstring value : String} (hd : TrimmedLine docstring)
    (hv : TrimmedLine value) (valued : value ≠ "") : TrimmedLine (extended docstring value) := by
  rw [extended]
  split
  · exact hv
  · next some =>
    have described : docstring ≠ "" := by simpa using some
    have text : (docstring ++ " " ++ value).toList = docstring.toList ++ [' '] ++ value.toList := by
      simp [String.toList_append]
    refine ⟨?_, ?_⟩ <;> rw [text]
    · exact trimmed_append hd.trimmed hv.trimmed (toList_ne_nil described) (toList_ne_nil valued) _
    · simp [hd.single, hv.single]

theorem ReadAttribute.withProperty {a b : Attribute} (h : ReadAttribute a) {key value : String}
    (hp : WritableProperty (key, value)) {position : SourcePosition}
    (hw : withProperty a key value position = .ok b) : ReadAttribute b := by
  rw [Dialect.withProperty] at hw
  split at hw
  · cases hw
    exact ⟨h.unmarked, h.term, h.docstring, h.options⟩
  · cases hw
    refine ⟨h.unmarked, fun term ht => ?_, h.docstring, h.options⟩
    cases ht
    exact ⟨hp.value, hp.valued⟩
  · cases hw
    exact ⟨h.unmarked, h.term, trimmedLine_extended h.docstring hp.value hp.valued, h.options⟩
  · cases hw
    exact ⟨h.unmarked, h.term, h.docstring, h.options⟩
  · split at hw
    · cases hw
      exact ⟨h.unmarked, h.term, h.docstring, h.options⟩
    · cases hw
  · next types term description xml required =>
    cases hw
    refine ⟨h.unmarked, h.term, h.docstring, fun o ho => ?_⟩
    rcases List.mem_append.1 ho with ho | ho
    · exact h.options o ho
    · rw [List.mem_singleton.1 ho]
      refine ⟨hp.key, hp.keyed, hp.colon, fun own => ?_, hp.value, hp.valued⟩
      simp only [ownKeys, List.mem_cons, List.not_mem_nil, or_false] at own
      rcases own with own | own | own | own | own
      · exact types own
      · exact term own
      · exact description own
      · exact xml own
      · exact required own

section

variable {table : LineTable} {definition : String}

theorem ListItem.Single.text {item : ListItem} (h : item.Single) : TrimmedLine item.text := by
  cases h with
  | mk text children => exact text

theorem ReadAttribute.takeOption {a : Attribute} (h : ReadAttribute a) {item : ListItem}
    (hi : item.Single) : ReadAttribute (takeOption table definition a item).1 := by
  rw [Dialect.takeOption]
  cases hs : splitOption item.text with
  | error fault => exact h
  | ok entry =>
    obtain ⟨key, value⟩ := entry
    have property := writableProperty_of_splitOption hi.text hs
    cases hw : Dialect.withProperty a key value (table.positionOf item.line) with
    | error fault =>
      simp only [bind, Except.bind, hw]
      exact h
    | ok changed =>
      simp only [bind, Except.bind, hw]
      exact h.withProperty property hw

theorem ReadAttribute.takeOptions {a : Attribute} (h : ReadAttribute a) {items : List ListItem}
    (hi : ∀ item ∈ items, item.Single) :
    ReadAttribute (takeOptions table definition a items).1 := by
  induction items generalizing a with
  | nil => exact h
  | cons item rest ih =>
    exact ih (h.takeOption (hi item List.mem_cons_self))
      fun x hx => hi x (List.mem_cons_of_mem _ hx)

/-- A name with underscores around it is that of an identifier. -/
theorem unmarked_attributeName {text : List Char} (h : (attributeName text).2 = false) :
    ¬ ∃ inner ≠ [], (attributeName text).1 = ['_', '_'] ++ inner ++ ['_', '_'] := by
  rintro ⟨inner, some, name⟩
  rw [attributeName] at h name
  split at h
  · cases h
  · next other =>
    rw [if_neg other] at name
    dsimp only at name
    have long : 4 < (trim text).length := by
      have count := congrArg List.length name
      have positive := List.length_pos_iff.2 some
      simp only [List.length_append, List.length_cons, List.length_nil] at count
      omega
    have starts : ['_', '_'].isPrefixOf (trim text) = true := by
      rw [name]
      rfl
    have ends : ['_', '_'].isSuffixOf (trim text) = true := by
      rw [name, List.isSuffixOf_iff_suffix]
      exact List.suffix_append _ _
    exact other (by rw [starts, ends]; simpa using long)

theorem read_readAttribute {item : ListItem} (hi : item.Single) :
    ∀ a ∈ (readAttribute table definition item).1, ReadAttribute a := by
  have empty : TrimmedLine "" := ⟨by decide, by decide⟩
  intro a ha
  rw [readAttribute] at ha
  split at ha
  · cases ha
  · cases hi with
    | mk text children =>
      cases ha
      refine ReadAttribute.takeOptions ⟨fun plain => ?_, (fun _ ht => by cases ht), empty,
        fun _ ho => (List.not_mem_nil ho).elim⟩ children
      rw [String.toList_ofList]
      exact unmarked_attributeName plain

theorem read_readAttributes {items : List ListItem} (hi : ∀ item ∈ items, item.Single) :
    ∀ a ∈ (readAttributes table definition items).1, ReadAttribute a := by
  induction items with
  | nil => exact fun a ha => (List.not_mem_nil ha).elim
  | cons item rest ih =>
    intro a ha
    rcases List.mem_append.1 ha with ha | ha
    · exact read_readAttribute (hi item List.mem_cons_self) a (Option.mem_toList.1 ha)
    · exact ih (fun x hx => hi x (List.mem_cons_of_mem _ hx)) a ha

end

/-! ## Members -/

/-- A member as reading leaves it. -/
structure ReadMember (entry : String × String) : Prop where
  writable : WritableMember entry
  /-- Its value is on one line. -/
  single : '\n' ∉ entry.2.toList
  /-- Its value has no null. -/
  clean : '\x00' ∉ entry.2.toList

theorem read_readMemberLine {line : Nat × String} (h : SingleCode line) {key value : String}
    (hr : readMemberLine line.2.toList = .mapping key value) : ReadMember (key, value) := by
  have text := readMemberLine_eq_mapping_iff.1 hr
  exact ⟨exists_memberText_iff.1 ⟨_, text⟩, fun hm => (h _ (text.mem_line _ hm)).1 rfl,
    fun hm => (h _ (text.mem_line _ hm)).2 rfl⟩

section

variable {table : LineTable} {definition : String}

theorem read_readMembers {lines : List (Nat × String)} (hl : ∀ line ∈ lines, SingleCode line)
    {members : Dictionary} (hm : ∀ entry ∈ members.entries, ReadMember entry) :
    ∀ entry ∈ (readMembers table definition members lines).1.entries, ReadMember entry := by
  induction lines generalizing members with
  | nil => exact hm
  | cons line rest ih =>
    have later := @ih fun x hx => hl x (List.mem_cons_of_mem _ hx)
    obtain ⟨number, text⟩ := line
    rw [readMembers]
    cases hr : readMemberLine text.toList with
    | skip => exact later hm
    | malformed => exact later hm
    | mapping key value =>
      dsimp only
      split
      · exact later hm
      · refine later fun entry he => ?_
        rcases mem_insertEntry he with rfl | he
        · exact read_readMemberLine (hl (number, text) List.mem_cons_self) hr
        · exact hm entry he

end

/-! ## Models -/

theorem blocks_ofSource {source : List Char} {document : Document}
    (h : Document.ofSource source = .ok document) :
    ∃ parts, partsOf source = .ok parts ∧
      document.blocks = blocksOf (LineTable.ofSource source) parts.offset parts.body := by
  rw [Document.ofSource] at h
  cases hp : partsOf source with
  | error e =>
    rw [hp] at h
    cases h
  | ok parts =>
    rw [hp] at h
    refine ⟨parts, rfl, ?_⟩
    obtain ⟨front, body, offset⟩ := parts
    cases front with
    | none =>
      cases h
      rfl
    | some front =>
      simp only [bind, Except.bind] at h
      split at h
      · cases h
      · cases h
        rfl

section

variable {source : String} {reading : Reading}

theorem exists_of_parse (h : parse source = .ok reading) :
    ∃ document, reading = Reading.ofDocument (LineTable.ofSource source.toList) document ∧
      ∀ block ∈ document.blocks, block.content.Single := by
  obtain ⟨document, read, rfl⟩ := document_of_parse h
  obtain ⟨parts, -, same⟩ := blocks_ofSource read
  refine ⟨document, rfl, ?_⟩
  rw [same]
  exact single_blocksOf parts.body

theorem title_of_parse (h : parse source = .ok reading) {title : String}
    (ht : reading.model.name = some title) : title ≠ "" ∧ '\n' ∉ title.toList := by
  obtain ⟨document, rfl, single⟩ := exists_of_parse h
  obtain ⟨block, hb, shown⟩ := List.exists_of_findSome?_eq_some ht
  have own := single block hb
  split at shown
  · next text heading =>
    rw [heading] at own
    split at shown
    · cases shown
    · next some =>
      cases shown
      exact ⟨by simpa using some, own⟩
  · cases shown

theorem single_section (h : parse source = .ok reading) :
    ∃ sections : List Section, (∀ s ∈ sections, s.Single) ∧
      (∀ o ∈ reading.model.objects, ∃ s ∈ sections, ∃ names,
        o = markEnumerations names (readObject (LineTable.ofSource source.toList) s).1) ∧
      ∀ e ∈ reading.model.enums, ∃ s ∈ sections,
        (readEnumeration (LineTable.ofSource source.toList) s).1 = e := by
  obtain ⟨document, rfl, single⟩ := exists_of_parse h
  refine ⟨sectionsOf document.blocks,
    single_sectionsAfter single (fun _ hn => by cases hn), fun o ho => ?_, fun e he => ?_⟩
  · obtain ⟨b, hb, rfl⟩ := List.mem_map.1 ho
    obtain ⟨d, hd, kind⟩ := List.mem_filterMap.1 hb
    rw [List.map_map] at hd
    obtain ⟨s, hs, rfl⟩ := List.mem_map.1 hd
    rw [Function.comp_apply, Definition.ofSection] at kind
    split at kind
    · cases kind
    · exact ⟨s, hs, _, by rw [← Option.some.inj kind]⟩
  · obtain ⟨d, hd, kind⟩ := List.mem_filterMap.1 he
    rw [List.map_map] at hd
    obtain ⟨s, hs, rfl⟩ := List.mem_map.1 hd
    refine ⟨s, hs, ?_⟩
    rw [Function.comp_apply, Definition.ofSection] at kind
    split at kind
    · exact Option.some.inj kind
    · cases kind

theorem attributes_of_parse (h : parse source = .ok reading) :
    ∀ o ∈ reading.model.objects, ∀ a ∈ o.attributes, ReadAttribute a := by
  obtain ⟨sections, single, objects, -⟩ := single_section h
  intro o ho a ha
  obtain ⟨s, hs, names, rfl⟩ := objects o ho
  obtain ⟨before, hb, rfl⟩ := List.mem_map.1 ha
  have read : ReadAttribute before := by
    refine read_readAttributes (fun item hi => ?_) before hb
    obtain ⟨items, hl, hm⟩ := List.mem_flatten.1 hi
    exact (single s hs).lists items hl item hm
  exact ⟨read.unmarked, read.term, read.docstring, read.options⟩

theorem members_of_parse (h : parse source = .ok reading) :
    ∀ e ∈ reading.model.enums, ∀ entry ∈ e.mappings.entries, ReadMember entry := by
  obtain ⟨sections, single, -, enums⟩ := single_section h
  intro e he
  obtain ⟨s, hs, rfl⟩ := enums e he
  refine read_readMembers (fun line hl => ?_) fun _ hn => (List.not_mem_nil hn).elim
  obtain ⟨lines, hb, hm⟩ := List.mem_flatten.1 hl
  exact (single s hs).codeBlocks lines hb line hm

end

end Dialect
end DocModel
