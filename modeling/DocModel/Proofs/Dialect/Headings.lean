import DocModel.Dialect.Reading
import Mathlib.Data.List.Forall2
import Mathlib.Data.List.Infix

/-!
# DocModel.Proofs.Dialect.Headings

Headings of level three and definitions correspond one to one, in order, whatever sequence of blocks
is read.

* `headingsOf` finds the headings at their places: each has the blocks that follow it up to the next
  heading of level two or three;
* `sectionsAfter_eq` is the invariant of the reading: the open section holds what stands behind its
  heading so far;
* `DefinesObject` and `DefinesEnumeration` say what a heading gives, from its own blocks alone;
* `Grouped` puts the headings of a sequence of blocks side by side with its definitions.
-/

namespace DocModel
namespace Dialect

open Text

/-! ## Headings and their blocks -/

namespace Block

/-- Whether a block closes the section before it. -/
def closes (block : Block) : Bool :=
  match block.content with
  | .heading level _ => level == 2 || level == 3
  | _ => false

/-- The bullets, if it is a list. -/
def list? (block : Block) : Option (List ListItem) :=
  match block.content with
  | .list items => some items
  | _ => none

/-- The lines, if it is a code block. -/
def code? (block : Block) : Option (List (Nat × String)) :=
  match block.content with
  | .code _ lines => some lines
  | _ => none

/-- The text, if it is a paragraph. -/
def paragraph? (block : Block) : Option String :=
  match block.content with
  | .paragraph text => some text
  | _ => none

/-- Whether paragraphs behind it still describe the definition. -/
def describes (block : Block) : Bool := block.list?.isNone && block.code?.isNone

/-- A block opens a section, closes one only, or belongs to the open one. -/
theorem role (block : Block) : (∃ name, block.content = .heading 3 name) ∨
    (∃ text, block.content = .heading 2 text) ∨ block.closes = false := by
  cases hc : block.content with
  | heading level text =>
    by_cases three : level = 3
    · exact .inl ⟨text, by rw [three]⟩
    by_cases two : level = 2
    · exact .inr (.inl ⟨text, by rw [two]⟩)
    · exact .inr (.inr (by simp [closes, hc, two, three]))
  | _ => exact .inr (.inr (by simp [closes, hc]))

end Block

/-- A heading of level three with the blocks of its section. -/
structure Heading where
  name : String
  line : Nat
  /-- The blocks up to the next heading of level two or three, or up to the end. -/
  body : List Block

namespace Heading

/-- The heading that a sequence of blocks begins with. -/
def first? : List Block → Option Heading
  | [] => none
  | block :: rest =>
    match block.content with
    | .heading 3 name =>
      some { name, line := block.startLine, body := rest.takeWhile (!·.closes) }
    | _ => none

/-- Whether there is a code block and no list. -/
def isEnumeration (h : Heading) : Bool :=
  h.body.any (·.code?.isSome) && !h.body.any (·.list?.isSome)

def items (h : Heading) : List ListItem := (h.body.filterMap (·.list?)).flatten

/-- The lines of its code blocks. -/
def codeLines (h : Heading) : List (Nat × String) := (h.body.filterMap (·.code?)).flatten

/-- The paragraphs before the first list or code block, as one text. -/
def description (h : Heading) : String :=
  onChars trim (String.intercalate "\n\n"
    ((h.body.takeWhile (·.describes)).filterMap (·.paragraph?)))

end Heading

/-- The headings of level three of a sequence of blocks. -/
def headingsOf (blocks : List Block) : List Heading := blocks.tails.filterMap Heading.first?

def objectHeadings (blocks : List Block) : List Heading :=
  (headingsOf blocks).filter (!·.isEnumeration)

def enumerationHeadings (blocks : List Block) : List Heading :=
  (headingsOf blocks).filter (·.isEnumeration)

/-- A heading of level three is one of the blocks, and its section is made of others. -/
theorem blocks_of_heading {blocks : List Block} {h : Heading} (hh : h ∈ headingsOf blocks) :
    (∃ block ∈ blocks, block.startLine = h.line) ∧ ∀ block ∈ h.body, block ∈ blocks := by
  obtain ⟨tail, ht, own⟩ := List.mem_filterMap.1 hh
  have inside := ((List.mem_tails _ _).1 ht).subset
  unfold Heading.first? at own
  split at own
  · cases own
  · next first rest =>
    split at own
    · cases own
      refine ⟨⟨first, inside List.mem_cons_self, rfl⟩, fun block hb => ?_⟩
      exact inside (List.mem_cons_of_mem _ ((List.takeWhile_sublist _).subset hb))
    · cases own

theorem headingsOf_cons (block : Block) (rest : List Block) :
    headingsOf (block :: rest) = (Heading.first? (block :: rest)).toList ++ headingsOf rest := by
  rw [headingsOf, List.tails_cons, List.filterMap_cons]
  cases Heading.first? (block :: rest) <;> rfl

/-! ## What a section holds -/

def Section.addAll (s : Section) (body : List Block) : Section := body.foldl Section.add s

theorem Section.add_heading {s : Section} {block : Block} {level : Nat} {text : String}
    (h : block.content = .heading level text) : s.add block = s := by
  simp only [add, h]

/-- Lists and code blocks are kept in order, paragraphs up to the first of them. -/
theorem Section.addAll_eq (s : Section) (body : List Block) : s.addAll body =
    { s with
      paragraphs := s.paragraphs ++
        if s.isDescribed then (body.takeWhile (·.describes)).filterMap (·.paragraph?) else []
      lists := s.lists ++ body.filterMap (·.list?)
      codeBlocks := s.codeBlocks ++ body.filterMap (·.code?) } := by
  unfold addAll
  induction body generalizing s with
  | nil => simp
  | cons block rest ih =>
    rw [List.foldl_cons, ih]
    cases hc : block.content with
    | paragraph text =>
      have unlisted : block.list? = none := by rw [Block.list?, hc]
      have uncoded : block.code? = none := by rw [Block.code?, hc]
      have said : block.paragraph? = some text := by rw [Block.paragraph?, hc]
      by_cases described : s.isDescribed = true
      · have added : s.add block = { s with paragraphs := s.paragraphs ++ [text] } := by
          simp only [add, hc, described, if_true]
        have still : Section.isDescribed { s with paragraphs := s.paragraphs ++ [text] } = true :=
          described
        simp [added, still, described, Block.describes, unlisted, uncoded, said]
      · have kept : s.add block = s := by
          simp only [add, hc, described, if_false, Bool.false_eq_true]
        simp [kept, described, unlisted, uncoded]
    | _ => simp [add, isDescribed, Block.describes, Block.list?, Block.code?, Block.paragraph?, hc]

def Heading.toSection (h : Heading) : Section :=
  Section.addAll { name := h.name, line := h.line } h.body

namespace Heading

theorem toSection_eq (h : Heading) : h.toSection =
    { name := h.name, line := h.line
      paragraphs := (h.body.takeWhile (·.describes)).filterMap (·.paragraph?)
      lists := h.body.filterMap (·.list?)
      codeBlocks := h.body.filterMap (·.code?) } := by
  rw [toSection, Section.addAll_eq]
  simp [Section.isDescribed]

@[simp]
theorem name_toSection (h : Heading) : h.toSection.name = h.name := by rw [toSection_eq]

@[simp]
theorem line_toSection (h : Heading) : h.toSection.line = h.line := by rw [toSection_eq]

@[simp]
theorem description_toSection (h : Heading) : h.toSection.description = h.description := by
  rw [toSection_eq]
  rfl

@[simp]
theorem items_toSection (h : Heading) : h.toSection.lists.flatten = h.items := by
  rw [toSection_eq]
  rfl

@[simp]
theorem codeLines_toSection (h : Heading) : h.toSection.codeBlocks.flatten = h.codeLines := by
  rw [toSection_eq]
  rfl

theorem isEmpty_filterMap {α β : Type} (f : α → Option β) (items : List α) :
    (items.filterMap f).isEmpty = !items.any (fun item => (f item).isSome) := by
  induction items with
  | nil => rfl
  | cons item rest ih =>
    rw [List.filterMap_cons, List.any_cons]
    cases f item with
    | none => simpa using ih
    | some b => simp

@[simp]
theorem isEnumeration_toSection (h : Heading) : h.toSection.isEnumeration = h.isEnumeration := by
  rw [toSection_eq, Section.isEnumeration, isEnumeration, isEmpty_filterMap, isEmpty_filterMap,
    Bool.not_not, Bool.and_comm]

end Heading

/-! ## Sections and headings -/

section

variable {block : Block} {current : Option Section} {before rest : List Block} {name text : String}

theorem sectionsAfter_three (h : block.content = .heading 3 name) :
    sectionsAfter current (block :: rest) =
      current.toList ++ sectionsAfter (some { name, line := block.startLine }) rest := by
  rw [sectionsAfter, h]
  rfl

theorem sectionsAfter_two (h : block.content = .heading 2 text) :
    sectionsAfter current (block :: rest) = current.toList ++ sectionsAfter none rest := by
  rw [sectionsAfter, h]
  rfl

theorem sectionsAfter_inner (h : block.closes = false) :
    sectionsAfter current (block :: rest) = sectionsAfter (current.map (·.add block)) rest := by
  rw [sectionsAfter]
  split
  · next hc => simp [Block.closes, hc] at h
  · next hc => simp [Block.closes, hc] at h
  · rfl

theorem first?_three (h : block.content = .heading 3 name) : Heading.first? (block :: rest) =
    some { name, line := block.startLine, body := rest.takeWhile (!·.closes) } := by
  rw [Heading.first?, h]
  rfl

theorem first?_two (h : block.content = .heading 2 text) :
    Heading.first? (block :: rest) = none := by
  rw [Heading.first?, h]
  rfl

theorem first?_inner (h : block.closes = false) : Heading.first? (block :: rest) = none := by
  rw [Heading.first?]
  split
  · next hc => simp [Block.closes, hc] at h
  · rfl

/-- The open section goes on to the next closing heading, and every heading opens its own. -/
theorem sectionsAfter_eq (current : Option Section) (blocks : List Block) :
    sectionsAfter current blocks =
      (current.map (·.addAll (blocks.takeWhile (!·.closes)))).toList ++
        (headingsOf blocks).map Heading.toSection := by
  induction blocks generalizing current with
  | nil => cases current <;> rfl
  | cons block rest ih =>
    rw [headingsOf_cons]
    rcases block.role with ⟨name, three⟩ | ⟨text, two⟩ | inner
    · have closing : block.closes = true := by simp [Block.closes, three]
      rw [sectionsAfter_three three, first?_three three, ih]
      cases current <;> simp [closing, Section.addAll, Heading.toSection]
    · have closing : block.closes = true := by simp [Block.closes, two]
      rw [sectionsAfter_two two, first?_two two, ih]
      cases current <;> simp [closing, Section.addAll]
    · rw [sectionsAfter_inner inner, first?_inner inner, ih]
      cases current <;> simp [inner, Section.addAll]

theorem sectionsOf_eq (blocks : List Block) :
    sectionsOf blocks = (headingsOf blocks).map Heading.toSection := by
  rw [sectionsOf, sectionsAfter_eq]
  rfl

/-! ## Blocks that define nothing -/

/-- Without an open section, blocks up to the next heading of level three are passed over. -/
theorem sectionsAfter_outside {outside : List Block}
    (h : ∀ block ∈ outside, ∀ name, block.content ≠ .heading 3 name) :
    sectionsAfter none (outside ++ rest) = sectionsAfter none rest := by
  induction outside with
  | nil => rfl
  | cons block more ih =>
    have passed := ih fun other mem => h other (List.mem_cons_of_mem _ mem)
    rcases block.role with ⟨name, three⟩ | ⟨text, two⟩ | inner
    · exact absurd three (h block List.mem_cons_self name)
    · rw [List.cons_append, sectionsAfter_two two, passed]
      rfl
    · rw [List.cons_append, sectionsAfter_inner inner]
      exact passed

/-- A beginning that leaves the same sections whatever is open can be put before both. -/
theorem sectionsAfter_append {first second : List Block}
    (h : ∀ current, sectionsAfter current first = sectionsAfter current second)
    (before : List Block) (current : Option Section) :
    sectionsAfter current (before ++ first) = sectionsAfter current (before ++ second) := by
  induction before generalizing current with
  | nil => exact h current
  | cons block rest ih =>
    rw [List.cons_append, List.cons_append]
    rcases block.role with ⟨name, three⟩ | ⟨text, two⟩ | inner
    · rw [sectionsAfter_three three, sectionsAfter_three three, ih]
    · rw [sectionsAfter_two two, sectionsAfter_two two, ih]
    · rw [sectionsAfter_inner inner, sectionsAfter_inner inner, ih]

end

/-! ## Attributes -/

section

variable {table : LineTable} {definition : String}

/-- Two attributes of one bullet. -/
structure SameBullet (a b : Attribute) : Prop where
  name : a.name = b.name
  isId : a.isId = b.isId
  position : a.position = b.position

theorem SameBullet.refl (a : Attribute) : SameBullet a a := ⟨rfl, rfl, rfl⟩

theorem SameBullet.trans {a b c : Attribute} (h : SameBullet a b) (more : SameBullet b c) :
    SameBullet a c :=
  ⟨h.name.trans more.name, h.isId.trans more.isId, h.position.trans more.position⟩

theorem sameBullet_withProperty {a b : Attribute} {key value : String} {position : SourcePosition}
    (h : withProperty a key value position = .ok b) : SameBullet b a := by
  unfold withProperty at h
  split at h
  case h_5 =>
    split at h
    · cases h
      exact ⟨rfl, rfl, rfl⟩
    · cases h
  all_goals
    cases h
    exact ⟨rfl, rfl, rfl⟩

theorem sameBullet_takeOption (a : Attribute) (item : ListItem) :
    SameBullet (takeOption table definition a item).1 a := by
  unfold takeOption
  dsimp only
  cases split : splitOption item.text with
  | error fault => exact .refl a
  | ok pair =>
    cases changed : withProperty a pair.1 pair.2 (table.positionOf item.line) with
    | error fault => simpa [bind, Except.bind, changed] using SameBullet.refl a
    | ok b => simpa [bind, Except.bind, changed] using sameBullet_withProperty changed

theorem sameBullet_takeOptions (a : Attribute) (items : List ListItem) :
    SameBullet (takeOptions table definition a items).1 a := by
  induction items generalizing a with
  | nil => exact .refl a
  | cons item rest ih => exact (ih _).trans (sameBullet_takeOption a item)

/-- What is wrong with a bullet without text. -/
def nameless (table : LineTable) (definition : String) (item : ListItem) : Diagnostic :=
  { message := "Attribute bullet has no name", definition, property := none
    position := table.positionOf item.line }

/-- Whether it says that a bullet has no text. -/
def Diagnostic.isNameless (d : Diagnostic) : Bool := d.message == "Attribute bullet has no name"

/-- No other message begins like the one about a bullet without text. -/
theorem isNameless_eq_false {d : Diagnostic} {c : Char} (h : d.message.toList.head? = some c)
    (other : c ≠ 'A') : d.isNameless = false := by
  have first : "Attribute bullet has no name".toList.head? = some 'A' := by decide
  rw [Diagnostic.isNameless, beq_eq_false_iff_ne]
  intro same
  rw [same, first, Option.some.injEq] at h
  exact other h.symm

theorem head?_append {front : String} {c : Char} (text : String)
    (h : front.toList.head? = some c) : (front ++ text).toList.head? = some c := by
  rw [String.toList_append, List.head?_append, h]
  rfl

theorem head?_message (text : String) (fault : OptionFault) :
    ∃ c, (fault.message text).toList.head? = some c ∧ c ≠ 'A' := by
  cases fault with
  | noColon => exact ⟨'M', head?_append _ (head?_append _ (by decide)), by decide⟩
  | noKey =>
    have first : "Option is missing its key".toList.head? = some 'O' := by decide
    exact ⟨'O', first, by decide⟩
  | noValue key => exact ⟨'O', head?_append _ (head?_append _ (by decide)), by decide⟩
  | notBoolean value => exact ⟨'R', head?_append _ (head?_append _ (by decide)), by decide⟩

/-- Nothing that is said about options says that a bullet has no text. -/
theorem named_takeOption (a : Attribute) (item : ListItem) :
    ∀ d ∈ (takeOption table definition a item).2, d.isNameless = false := by
  have nested : ∀ d ∈ item.children.map fun child => ({ message := tooDeep child.text, definition
                                                        property := some a.name
                                                        position := table.positionOf child.line } :
      Diagnostic), d.isNameless = false := by
    intro d hd
    obtain ⟨child, -, rfl⟩ := List.mem_map.1 hd
    exact isNameless_eq_false (head?_append _ (head?_append _ (by decide))) (by decide : 'B' ≠ 'A')
  unfold takeOption
  dsimp only
  split
  · exact nested
  · next fault _ =>
    intro d hd
    rcases List.mem_append.1 hd with hd | hd
    · exact nested d hd
    · rw [List.mem_singleton.1 hd]
      obtain ⟨c, first, other⟩ := head?_message item.text fault
      exact isNameless_eq_false first other

theorem named_takeOptions (a : Attribute) (items : List ListItem) :
    ∀ d ∈ (takeOptions table definition a items).2, d.isNameless = false := by
  induction items generalizing a with
  | nil =>
    intro d hd
    cases hd
  | cons item rest ih =>
    intro d hd
    rcases List.mem_append.1 hd with hd | hd
    · exact named_takeOption a item d hd
    · exact ih _ d hd

/-- The attribute of a bullet before its nested bullets are read. -/
def freshAttribute (table : LineTable) (item : ListItem) : Attribute :=
  let name := String.ofList (attributeName item.text.toList).1
  { name, isId := (attributeName item.text.toList).2, xml := XmlHint.ofElement name
    position := table.positionOf item.line }

theorem readAttribute_empty {item : ListItem} (h : item.text.isEmpty = true) :
    readAttribute table definition item = (none, [nameless table definition item]) := by
  rw [readAttribute, if_pos h]
  rfl

theorem readAttribute_named {item : ListItem} (h : item.text.isEmpty = false) :
    readAttribute table definition item =
      (some (takeOptions table definition (freshAttribute table item) item.children).1,
        (takeOptions table definition (freshAttribute table item) item.children).2) := by
  rw [readAttribute, if_neg (Bool.eq_false_iff.1 h)]
  rfl

/-- What a bullet with a text gives. -/
structure DefinesAttribute (table : LineTable) (definition : String) (item : ListItem)
    (a : Attribute) : Prop where
  name : a.name = String.ofList (attributeName item.text.toList).1
  /-- So are the marks of an identifier. -/
  isId : a.isId = (attributeName item.text.toList).2
  line : a.position.line = item.line
  /-- Only whether a type is an enumeration depends on anything but the bullet. -/
  read : ∃ b, (readAttribute table definition item).1 = some b ∧ a = { b with isEnum := a.isEnum }

theorem definesAttribute_marked {item : ListItem} (h : item.text.isEmpty = false) (isEnum : Bool) :
    DefinesAttribute table definition item
      { (takeOptions table definition (freshAttribute table item) item.children).1 with
        isEnum } := by
  have kept := @sameBullet_takeOptions table definition (freshAttribute table item) item.children
  refine ⟨kept.name, kept.isId, ?_, _, congrArg Prod.fst (readAttribute_named h), rfl⟩
  exact congrArg (·.line) kept.position

variable (enums : List String)

/-- The attributes of an object come from the bullets with a text, in their order. -/
theorem definesAttributes (items : List ListItem) :
    List.Forall₂ (DefinesAttribute table definition) (items.filter (!·.text.isEmpty))
      ((readAttributes table definition items).1.map fun a =>
        { a with isEnum := a.dtypes.any (enums.contains ·) }) := by
  induction items with
  | nil => exact .nil
  | cons item rest ih =>
    rw [readAttributes]
    cases h : item.text.isEmpty with
    | true => simpa [h, readAttribute_empty h] using ih
    | false =>
      rw [List.filter_cons_of_pos (by simp [h]), readAttribute_named h]
      exact .cons (definesAttribute_marked h _) ih

/-- A bullet without text leaves one diagnostic that says so; no other bullet does. -/
theorem nameless_readAttributes (items : List ListItem) :
    (readAttributes table definition items).2.filter (·.isNameless) =
      (items.filter (·.text.isEmpty)).map (nameless table definition) := by
  induction items with
  | nil => rfl
  | cons item rest ih =>
    rw [readAttributes, List.filter_append, ih]
    cases h : item.text.isEmpty with
    | true =>
      have own : (nameless table definition item).isNameless = true := beq_self_eq_true _
      simp [readAttribute_empty h, h, own]
    | false =>
      have none : (readAttribute table definition item).2.filter (·.isNameless) = [] := by
        rw [readAttribute_named h, List.filter_eq_nil_iff]
        intro d hd
        simp [named_takeOptions _ _ d hd]
      rw [none, List.filter_cons_of_neg (by simp [h])]
      rfl

end

/-! ## Definitions -/

section

variable {table : LineTable}

/-- Nothing that is said about members says that a bullet has no text. -/
theorem named_readMembers (definition : String) (members : Dictionary)
    (lines : List (Nat × String)) :
    ∀ d ∈ (readMembers table definition members lines).2, d.isNameless = false := by
  induction lines generalizing members with
  | nil =>
    intro d hd
    cases hd
  | cons entry rest ih =>
    obtain ⟨line, text⟩ := entry
    rw [readMembers]
    dsimp only
    split
    · exact ih members
    · split
      · intro d hd
        rcases List.mem_cons.1 hd with rfl | hd
        · exact isNameless_eq_false (head?_append _ (head?_append _ (by decide)))
            (by decide : 'E' ≠ 'A')
        · exact ih members d hd
      · exact ih _
    · intro d hd
      rcases List.mem_cons.1 hd with rfl | hd
      · exact isNameless_eq_false (head?_append _ (head?_append _ (by decide)))
          (by decide : 'M' ≠ 'A')
      · exact ih members d hd

/-- What a heading of an object gives. -/
structure DefinesObject (table : LineTable) (h : Heading) (o : Object) : Prop where
  name : o.name = h.name
  line : o.position.line = h.line
  /-- All of the line is its place. -/
  position : o.position = table.positionOf h.line
  docstring : o.docstring = h.description
  /-- Its attributes are in order the bullets with a text in its lists. -/
  attributes : List.Forall₂ (DefinesAttribute table h.name) (h.items.filter (!·.text.isEmpty))
    o.attributes

/-- What a heading of an enumeration gives. -/
structure DefinesEnumeration (table : LineTable) (h : Heading) (e : Enumeration) : Prop where
  name : e.name = h.name
  line : e.position.line = h.line
  /-- All of the line is its place. -/
  position : e.position = table.positionOf h.line
  docstring : e.docstring = h.description
  /-- Its members are on the lines of its code blocks. -/
  mappings : e.mappings = (readMembers table h.name .empty h.codeLines).1

theorem definesObject (h : Heading) (enums : List String) :
    DefinesObject table h (markEnumerations enums (readObject table h.toSection).1) := by
  refine ⟨h.name_toSection, h.line_toSection, ?_, h.description_toSection, ?_⟩
  · exact congrArg table.positionOf h.line_toSection
  · simp only [markEnumerations, readObject, h.items_toSection, h.name_toSection]
    exact definesAttributes enums h.items

theorem definesEnumeration (h : Heading) :
    DefinesEnumeration table h (readEnumeration table h.toSection).1 := by
  refine ⟨h.name_toSection, h.line_toSection, ?_, h.description_toSection, ?_⟩
  · exact congrArg table.positionOf h.line_toSection
  · simp only [readEnumeration, h.codeLines_toSection, h.name_toSection]

/-! ## Documents -/

/-- The definitions of a reading beside the headings of the blocks it is from. -/
structure Grouped (table : LineTable) (blocks : List Block) (reading : Reading) : Prop where
  objects : List.Forall₂ (DefinesObject table) (objectHeadings blocks) reading.model.objects
  enums : List.Forall₂ (DefinesEnumeration table) (enumerationHeadings blocks) reading.model.enums
  /-- A bullet without text in a list of an object leaves one diagnostic in its place. -/
  nameless : reading.diagnostics.filter (·.isNameless) = (objectHeadings blocks).flatMap fun h =>
    (h.items.filter (·.text.isEmpty)).map (nameless table h.name)

/-- Two readings define the same. -/
structure Reading.SameDefinitions (first second : Reading) : Prop where
  objects : first.model.objects = second.model.objects
  enums : first.model.enums = second.model.enums
  diagnostics : first.diagnostics = second.diagnostics

theorem objects_ofSections (headings : List Heading) :
    (((headings.map Heading.toSection).map (Definition.ofSection table)).map
      (·.1)).filterMap (·.object?) =
      (headings.filter (!·.isEnumeration)).map fun h => (readObject table h.toSection).1 := by
  induction headings with
  | nil => rfl
  | cons h rest ih =>
    rw [List.map_cons, List.map_cons, List.map_cons, Definition.ofSection,
      h.isEnumeration_toSection]
    cases kind : h.isEnumeration with
    | true => simpa [kind, Definition.object?] using ih
    | false => simpa [kind, Definition.object?] using ih

theorem enumerations_ofSections (headings : List Heading) :
    (((headings.map Heading.toSection).map (Definition.ofSection table)).map
      (·.1)).filterMap (·.enumeration?) =
      (headings.filter (·.isEnumeration)).map fun h => (readEnumeration table h.toSection).1 := by
  induction headings with
  | nil => rfl
  | cons h rest ih =>
    rw [List.map_cons, List.map_cons, List.map_cons, Definition.ofSection,
      h.isEnumeration_toSection]
    cases kind : h.isEnumeration with
    | true => simpa [kind, Definition.enumeration?] using ih
    | false => simpa [kind, Definition.enumeration?] using ih

theorem nameless_ofSections (headings : List Heading) :
    (((headings.map Heading.toSection).map (Definition.ofSection table)).flatMap
      (·.2)).filter (·.isNameless) =
      (headings.filter (!·.isEnumeration)).flatMap fun h =>
        (h.items.filter (·.text.isEmpty)).map (nameless table h.name) := by
  induction headings with
  | nil => rfl
  | cons h rest ih =>
    rw [List.map_cons, List.map_cons, List.flatMap_cons, List.filter_append, ih,
      Definition.ofSection, h.isEnumeration_toSection]
    cases kind : h.isEnumeration with
    | true =>
      have none : (readEnumeration table h.toSection).2.filter (·.isNameless) = [] := by
        rw [List.filter_eq_nil_iff]
        intro d hd
        simp [named_readMembers _ _ _ d hd]
      simp [kind, none]
    | false =>
      have own := @nameless_readAttributes table h.name h.items
      rw [List.filter_cons_of_pos (by simp [kind]), List.flatMap_cons, ← own]
      simp only [readObject, h.items_toSection, h.name_toSection]
      rfl

theorem grouped_ofDocument (document : Document) :
    Grouped table document.blocks (Reading.ofDocument table document) := by
  have sections := sectionsOf_eq document.blocks
  refine ⟨?objects, ?enums, ?nameless⟩
  case objects =>
    simp only [Reading.ofDocument, sections]
    rw [objects_ofSections, List.map_map]
    refine List.forall₂_map_right_iff.2 (List.forall₂_same.2 ?_)
    intro h _
    exact definesObject h _
  case enums =>
    simp only [Reading.ofDocument, sections, enumerations_ofSections]
    refine List.forall₂_map_right_iff.2 (List.forall₂_same.2 ?_)
    intro h _
    exact definesEnumeration h
  case nameless =>
    simp only [Reading.ofDocument, sections]
    exact nameless_ofSections _

theorem sameDefinitions_of_sections {first second : Document}
    (h : sectionsOf first.blocks = sectionsOf second.blocks) :
    (Reading.ofDocument table first).SameDefinitions (Reading.ofDocument table second) := by
  refine ⟨?_, ?_, ?_⟩ <;> simp only [Reading.ofDocument, h]

/-- Definitions and headings of level three correspond one to one. Blocks before the first such
heading, or behind a heading of level two, may be left out without a change, and so may headings of
other levels wherever they stand. -/
theorem definitions_of_headings (table : LineTable) (document : Document) :
    Grouped table document.blocks (Reading.ofDocument table document) ∧
    (∀ before outside after, document.blocks = before ++ outside ++ after →
      (before = [] ∨ ∃ front two text, before = front ++ [two] ∧ two.content = .heading 2 text) →
      (∀ block ∈ outside, ∀ name, block.content ≠ .heading 3 name) →
      (Reading.ofDocument table document).SameDefinitions
        (Reading.ofDocument table { document with blocks := before ++ after })) ∧
    (∀ before block after level text, document.blocks = before ++ block :: after →
      block.content = .heading level text → level ≠ 2 → level ≠ 3 →
      (Reading.ofDocument table document).SameDefinitions
        (Reading.ofDocument table { document with blocks := before ++ after })) := by
  refine ⟨grouped_ofDocument document, ?outside, ?inner⟩
  case outside =>
    intro before outside after cut place bare
    apply sameDefinitions_of_sections
    have passed : sectionsAfter none (outside ++ after) = sectionsAfter none after :=
      sectionsAfter_outside bare
    rcases place with rfl | ⟨front, two, text, rfl, closing⟩
    · rw [cut]
      exact passed
    · have skipped : ∀ current, sectionsAfter current (two :: (outside ++ after)) =
          sectionsAfter current (two :: after) := by
        intro current
        rw [sectionsAfter_two closing, sectionsAfter_two closing, passed]
      rw [cut]
      simpa [sectionsOf] using sectionsAfter_append skipped front none
  case inner =>
    intro before block after level text cut heading two three
    apply sameDefinitions_of_sections
    have inner : block.closes = false := by simp [Block.closes, heading, two, three]
    have skipped : ∀ current, sectionsAfter current (block :: after) =
        sectionsAfter current after := by
      intro current
      rw [sectionsAfter_inner inner]
      cases current with
      | none => rfl
      | some s => rw [Option.map_some, Section.add_heading heading]
    rw [cut]
    exact sectionsAfter_append skipped before none

end
end Dialect
end DocModel
