import DocModel.Dialect.Reading
import DocModel.Proofs.Dialect.TypeValue

/-!
# DocModel.Proofs.Dialect.AttributeLines

An attribute in the normal form is read back. `WritableAttribute` says what its texts have to be
for that, `itemOfLines` is the bullet that its lines make, and `readAttribute_attributeLines` is
the round trip: every field comes back and no line is left over as a diagnostic. Places are no part
of what is written (`Attribute.unplaced`).

The properties of an attribute are written one after the other. `Takes` says what a run of them
does to an attribute; `Takes.append` chains runs, and there is one lemma for each key.
-/

namespace DocModel

open Text Validation

/-- The attribute without its places, and without what follows from the other definitions. -/
def Attribute.unplaced (a : Attribute) : Attribute :=
  { a with isEnum := false, position := {}, typePosition := none, termPosition := none }

namespace Dialect

open Target.Markdown

/-- A text on one line with no white space at its ends. -/
structure TrimmedLine (text : String) : Prop where
  /-- No white space stands at its ends. -/
  trimmed : Trimmed text.toList
  /-- It is on one line. -/
  single : '\n' ∉ text.toList

/-- The keys of properties that have a meaning of their own. -/
def ownKeys : List String := ["type", "term", "description", "xml", "required"]

/-- An option that can be written as a property. -/
structure WritableOption (o : AttributeOption) : Prop where
  key : TrimmedLine o.key
  keyed : o.key ≠ ""
  /-- The key ends before the first colon. -/
  colon : ':' ∉ o.key.toList
  /-- The key has no meaning of its own. -/
  free : asciiLowercase o.key ∉ ownKeys
  value : TrimmedLine o.value
  valued : o.value ≠ ""

/-- A type that can be written: the name of a definition, or a spelling of a primitive type. -/
def WritableType (m : DataModel) (dtype : String) : Prop :=
  (dtype ∈ m.typeNames ∧ DefinitionName dtype.toList) ∨
    ∃ p : Primitive, ∃ word ∈ p.spellings, equalsIgnoringCase dtype word = true

/-- An attribute that can be written. -/
structure WritableAttribute (m : DataModel) (a : Attribute) : Prop where
  named : AttributeName a.name.toList
  /-- Its name does not look like that of an identifier if it is none. -/
  unmarked : a.isId = false →
    ¬ ∃ inner ≠ [], a.name.toList = ['_', '_'] ++ inner ++ ['_', '_']
  /-- Its types can be written. -/
  typed : ∀ dtype ∈ a.dtypes, WritableType m dtype
  term : ∀ term, a.term = some term → TrimmedLine term ∧ term ≠ ""
  /-- Its description is on one line. -/
  docstring : TrimmedLine a.docstring
  /-- It is an element of its own name in XML, or has a proper name there. -/
  xml : a.xml = XmlHint.ofElement a.name ∨ XmlName a.xml.name.toList
  /-- Its options can be written. -/
  options : ∀ o ∈ a.options, WritableOption o

/-- The bullet that the lines of an attribute make: its name, and under it the other lines. The
line `i` of them has the number `number i` in the document. -/
def itemOfLines (number : Nat → Nat) : List (List Char) → Option ListItem
  | [] => none
  | first :: rest =>
    some (.mk (String.ofList (bulletText first)) (number 0)
      (rest.zipIdx.map fun (line, i) => .mk (String.ofList (bulletText line)) (number (i + 1)) []))

/-! ## Types that can be written -/

theorem letter_of_toLower {c : Char} (h : Letter c.toLower) : Letter c := by
  by_cases capital : 'A' ≤ c ∧ c ≤ 'Z'
  · exact .inl capital
  · have same : c.toLower = c := dif_neg capital
    rwa [same] at h

theorem WritableType.written {m : DataModel} {dtype : String} (h : WritableType m dtype) :
    WrittenType dtype := by
  rcases h with ⟨-, h⟩ | ⟨p, word, hw, he⟩
  · exact h
  · have spelled : ∀ q : Primitive, ∀ w ∈ q.spellings,
        asciiLowercase w = w ∧ w.toList ≠ [] ∧ w.toList.all Char.isAlpha = true := by
      intro q
      cases q <;> decide
    obtain ⟨small, nonempty, letters⟩ := spelled p word hw
    have lower : dtype.toList.map Char.toLower = word.toList := by
      have := congrArg String.toList (show asciiLowercase dtype = asciiLowercase word by
        simpa [equalsIgnoringCase] using he)
      rw [small] at this
      simpa [asciiLowercase, onChars] using this
    have letter : ∀ c ∈ dtype.toList, Letter c := by
      intro c hc
      refine letter_of_toLower (isAlpha_iff.1 (List.all_eq_true.1 letters _ ?_))
      rw [← lower]
      exact List.mem_map_of_mem hc
    unfold WrittenType DefinitionName
    cases hd : dtype.toList with
    | nil =>
      rw [hd] at lower
      exact absurd lower.symm nonempty
    | cons c rest =>
      rw [hd] at letter
      exact .mk (letter c List.mem_cons_self)
        fun d hm => .inl (letter d (List.mem_cons_of_mem c hm))

/-! ## Bullets -/

/-- The text of a bullet, with spaces before it or not, is what follows the hyphen. -/
theorem bulletText_hyphen {indent text : List Char} (hi : ∀ c ∈ indent, c = ' ')
    (ht : Trimmed text) : bulletText (indent ++ '-' :: ' ' :: text) = text := by
  have start : trimStart (indent ++ '-' :: ' ' :: text) = '-' :: ' ' :: text := by
    rw [trimStart, List.dropWhile_append_of_pos]
    · rfl
    · intro c hc
      rw [hi c hc]
      rfl
  have marker : afterListMarker? ('-' :: ' ' :: text) = some (' ' :: text) := rfl
  rw [bulletText, start, marker, Option.getD_some, trim_cons rfl]
  exact ht

/-- The text of the bullet of a property. -/
def propertyText (p : String × String) : String := p.1 ++ ": " ++ p.2

theorem toList_propertyText (p : String × String) :
    (propertyText p).toList = p.1.toList ++ ':' :: ' ' :: p.2.toList := by
  simp [propertyText, String.toList_append]

/-- A key and a value that can stand on the line of a bullet. -/
structure WritableProperty (p : String × String) : Prop where
  key : TrimmedLine p.1
  keyed : p.1 ≠ ""
  /-- The key ends before the first colon. -/
  colon : ':' ∉ p.1.toList
  value : TrimmedLine p.2
  valued : p.2 ≠ ""

theorem WritableOption.property {o : AttributeOption} (h : WritableOption o) :
    WritableProperty (o.key, o.value) :=
  ⟨h.key, h.keyed, h.colon, h.value, h.valued⟩

theorem toList_ne_nil {s : String} (h : s ≠ "") : s.toList ≠ [] := by
  intro hn
  exact h (String.toList_eq_nil_iff.1 hn)

theorem WritableProperty.text_trimmed {p : String × String} (h : WritableProperty p) :
    Trimmed (propertyText p).toList := by
  have ends := trimmed_append h.key.trimmed h.value.trimmed (toList_ne_nil h.keyed)
    (toList_ne_nil h.valued) [':', ' ']
  rw [toList_propertyText]
  simpa using ends

/-- The text of a property is cut at its first colon. -/
theorem WritableProperty.splitOption {p : String × String} (h : WritableProperty p) :
    splitOption (propertyText p) = .ok p := by
  have key : trim p.1.toList = p.1.toList := h.key.trimmed
  have value : trim p.2.toList = p.2.toList := h.value.trimmed
  simp only [Dialect.splitOption, toList_propertyText, splitOnce_append h.colon,
    trim_cons (c := ' ') rfl, key, value, String.ofList_toList, String.isEmpty_iff, h.keyed,
    h.valued, if_false]

/-! ## Properties one by one -/

section

variable {table : LineTable} {definition : String}

/-- Whatever its bullets look like, a run of properties turns an attribute `a` into `b` and leaves
no diagnostic, up to places. -/
def Takes (table : LineTable) (definition : String) (properties : List (String × String))
    (a b : Attribute) : Prop :=
  ∀ (start : Attribute) (items : List ListItem), start.unplaced = a →
    items.map ListItem.text = properties.map propertyText →
    (∀ item ∈ items, item.children = []) →
    ∃ result, takeOptions table definition start items = (result, []) ∧ result.unplaced = b

theorem Takes.nil (a : Attribute) : Takes table definition [] a a := by
  intro start items hs ht _
  have hn : items = [] := by simpa using ht
  subst hn
  exact ⟨start, rfl, hs⟩

theorem takeOptions_append {a b c : Attribute} {first second : List ListItem}
    (hf : takeOptions table definition a first = (b, []))
    (hs : takeOptions table definition b second = (c, [])) :
    takeOptions table definition a (first ++ second) = (c, []) := by
  induction first generalizing a with
  | nil =>
    cases hf
    exact hs
  | cons item rest ih =>
    simp only [takeOptions, Prod.mk.injEq, List.append_eq_nil_iff] at hf
    obtain ⟨hr, hd, hm⟩ := hf
    have later := ih (Prod.ext hr hm)
    simp only [List.cons_append, takeOptions, later, hd, List.nil_append]

theorem Takes.append {first second : List (String × String)} {a b c : Attribute}
    (hf : Takes table definition first a b) (hs : Takes table definition second b c) :
    Takes table definition (first ++ second) a c := by
  intro start items ha ht hc
  rw [List.map_append] at ht
  obtain ⟨before, after, rfl, hb, hm⟩ := List.map_eq_append_iff.1 ht
  obtain ⟨middle, run, hu⟩ := hf start before ha hb
    fun item hi => hc item (List.mem_append_left after hi)
  obtain ⟨result, more, hr⟩ := hs middle after hu hm
    fun item hi => hc item (List.mem_append_right before hi)
  exact ⟨result, takeOptions_append run more, hr⟩

/-- One property, if it can be written and its value is accepted. -/
theorem Takes.single {p : String × String} (hp : WritableProperty p) {a b : Attribute}
    (h : ∀ (start : Attribute) (position : SourcePosition), start.unplaced = a →
      ∃ result, withProperty start p.1 p.2 position = .ok result ∧ result.unplaced = b) :
    Takes table definition [p] a b := by
  intro start items ha ht hc
  obtain ⟨item, rfl, hi⟩ := List.map_eq_singleton_iff.1 ht
  obtain ⟨result, hw, hr⟩ := h start (table.positionOf item.line) ha
  have bare : item.children = [] := hc item (List.mem_singleton_self item)
  refine ⟨result, ?_, hr⟩
  have taken : takeOption table definition start item = (result, []) := by
    simp only [takeOption, bare, List.map_nil, hi, hp.splitOption, bind, Except.bind, hw]
  simp [takeOptions, taken]

/-! ## What each key does -/

theorem withProperty_type (a : Attribute) (value : String) (position : SourcePosition) :
    withProperty a "Type" value position =
      .ok { a with dtypes := a.dtypes ++ (typeValue value.toList).1,
                   multiple := a.multiple || (typeValue value.toList).2,
                   typePosition := a.typePosition.or (some position) } := rfl

theorem withProperty_term (a : Attribute) (value : String) (position : SourcePosition) :
    withProperty a "Term" value position =
      .ok { a with term := some value, termPosition := some position } := rfl

theorem withProperty_description (a : Attribute) (value : String) (position : SourcePosition) :
    withProperty a "Description" value position =
      .ok { a with docstring := extended a.docstring value } := rfl

theorem withProperty_required (a : Attribute) (position : SourcePosition) :
    withProperty a "Required" "true" position = .ok { a with required := true } := rfl

theorem withProperty_xml (a : Attribute) (value : String) (position : SourcePosition) :
    withProperty a "XML" value position = .ok { a with xml := XmlHint.read value } := rfl

theorem withProperty_other {key : String} (h : asciiLowercase key ∉ ownKeys) (a : Attribute)
    (value : String) (position : SourcePosition) :
    withProperty a key value position =
      .ok { a with options := a.options ++ [{ key, value }] } := by
  simp only [ownKeys, List.mem_cons, List.not_mem_nil, or_false, not_or] at h
  simp only [withProperty]
  split
  all_goals simp_all

/-! ## The properties of an attribute -/

/-- The keys that are written for the fields of an attribute. -/
def writtenKeys : List String := ["Type", "Term", "Description", "Required", "XML"]

theorem writableProperty_of_key {key value : String} (hk : key ∈ writtenKeys)
    (line : TrimmedLine value) (valued : value ≠ "") : WritableProperty (key, value) := by
  have keys : ∀ k ∈ writtenKeys, Trimmed k.toList ∧ '\n' ∉ k.toList ∧ k ≠ "" ∧ ':' ∉ k.toList := by
    decide
  obtain ⟨trimmed, single, keyed, colon⟩ := keys key hk
  exact ⟨⟨trimmed, single⟩, keyed, colon, line, valued⟩

theorem takes_types {m : DataModel} {a b : Attribute} (h : ∀ dtype ∈ a.dtypes, WrittenType dtype)
    (hd : b.dtypes = []) (hm : b.multiple = false) :
    Takes table definition ((typeText? m a).toList.map fun value => ("Type", value)) b
      { b with dtypes := a.dtypes, multiple := a.multiple } := by
  cases ht : typeText? m a with
  | none =>
    have nothing : a.dtypes = [] ∧ a.multiple = false := by
      simpa [typeText?] using ht
    have same : { b with dtypes := a.dtypes, multiple := a.multiple } = b := by
      rw [nothing.1, nothing.2, ← hd, ← hm]
    rw [same]
    exact Takes.nil b
  | some text =>
    have line : TrimmedLine text :=
      ⟨typeText_trimmed h ht, fun hn => typeText_single h ht _ hn rfl⟩
    refine Takes.single (writableProperty_of_key (by decide) line (typeText_ne_empty h ht))
      fun start position hs => ⟨_, withProperty_type start text position, ?_⟩
    subst hs
    have noTypes : start.dtypes = [] := hd
    have notMany : start.multiple = false := hm
    simp [Attribute.unplaced, typeValue_typeText h ht, noTypes, notMany]

theorem takes_term {a b : Attribute}
    (h : ∀ term, a.term = some term → TrimmedLine term ∧ term ≠ "") (hb : b.term = none) :
    Takes table definition (a.term.toList.map fun value => ("Term", value)) b
      { b with term := a.term } := by
  cases ht : a.term with
  | none =>
    have same : { b with term := none } = b := by rw [← hb]
    rw [same]
    exact Takes.nil b
  | some term =>
    obtain ⟨line, some⟩ := h term ht
    refine Takes.single (writableProperty_of_key (by decide) line some)
      fun start position hs => ⟨_, withProperty_term start term position, ?_⟩
    subst hs
    rfl

theorem takes_docstring {a b : Attribute} (h : TrimmedLine a.docstring) (hb : b.docstring = "") :
    Takes table definition
      (if a.docstring.isEmpty then [] else [("Description", a.docstring)]) b
      { b with docstring := a.docstring } := by
  by_cases hd : a.docstring = ""
  · have same : { b with docstring := "" } = b := by rw [← hb]
    rw [hd, same]
    exact Takes.nil b
  · rw [if_neg (by simpa using hd)]
    refine Takes.single (writableProperty_of_key (by decide) h hd)
      fun start position hs => ⟨_, withProperty_description start a.docstring position, ?_⟩
    subst hs
    have empty : start.docstring = "" := hb
    simp [Attribute.unplaced, extended, empty]

theorem takes_required {a b : Attribute} (hb : b.required = false) :
    Takes table definition (if a.required then [("Required", "true")] else []) b
      { b with required := a.required } := by
  cases hr : a.required with
  | false =>
    have same : { b with required := false } = b := by rw [← hb]
    rw [same]
    exact Takes.nil b
  | true =>
    have line : TrimmedLine "true" := ⟨by decide, by decide⟩
    refine Takes.single (writableProperty_of_key (by decide) line (by decide))
      fun start position hs => ⟨_, withProperty_required start position, ?_⟩
    subst hs
    rfl

/-! ## XML names -/

theorem prefixChar_not_white {c : Char} (h : PrefixChar c) : Unicode.isWhiteSpace c = false := by
  rcases h with h | rfl | rfl
  · exact wordChar_not_white h
  · decide
  · decide

/-- What holds of the characters of prefixes and of a colon holds of those of an XML name. -/
theorem forall_mem_xmlName {p : Char → Prop} (hw : ∀ c, PrefixChar c → p c) (hc : p ':')
    {name : List Char} (h : XmlName name) : ∀ c ∈ name, p c := by
  have part {text : List Char} (ht : PrefixName text) : ∀ c ∈ text, p c := fun c hm =>
    hw c (ht.forall_mem (fun _ => WordStart.prefixChar) c hm)
  rcases h with h | ⟨space, rest, rfl, hs, hr⟩
  · exact part h
  · intro c hm
    rcases List.mem_append.1 hm with hm | hm
    · exact part hs c hm
    · rcases List.mem_cons.1 hm with rfl | hm
      · exact hc
      · exact part hr c hm

theorem xmlName_ne_nil {name : List Char} (h : XmlName name) : name ≠ [] := by
  rcases h with h | ⟨space, rest, rfl, -, -⟩
  · exact h.ne_nil
  · simp

/-- A hint with a proper name is read from its text. -/
theorem read_toText {hint : XmlHint} (h : XmlName hint.name.toList) :
    XmlHint.read hint.toText = hint := by
  have solid : ∀ c ∈ hint.name.toList, Unicode.isWhiteSpace c = false :=
    forall_mem_xmlName (fun _ => prefixChar_not_white) (by decide) h
  have name_trimmed : trim hint.name.toList = hint.name.toList := trimmed_of_forall solid
  obtain ⟨isAttribute, name⟩ := hint
  cases isAttribute with
  | true =>
    have text_trimmed : trim ('@' :: name.toList) = '@' :: name.toList := by
      refine trimmed_of_forall fun c hc => ?_
      rcases List.mem_cons.1 hc with rfl | hc
      · decide
      · exact solid c hc
    have text : (XmlHint.toText { isAttribute := true, name }).toList = '@' :: name.toList := by
      simp [XmlHint.toText, String.toList_append]
    simp only [XmlHint.read, text, text_trimmed, name_trimmed, XmlHint.ofAttribute,
      String.ofList_toList]
  | false =>
    have noSign : ∀ c ∈ name.toList, c ≠ '@' := by
      refine forall_mem_xmlName (fun c hc => ?_) (by decide) h
      rintro rfl
      exact absurd (isPrefixChar_iff.2 hc) (by decide)
    simp only [XmlHint.read, XmlHint.toText, Bool.false_eq_true, if_false, name_trimmed]
    split
    · next rest he =>
      exact absurd rfl (noSign '@' (by rw [he]; exact List.mem_cons_self))
    · simp [XmlHint.ofElement]

theorem toText_line {hint : XmlHint} (h : XmlName hint.name.toList) :
    TrimmedLine hint.toText ∧ hint.toText ≠ "" := by
  have solid : ∀ c ∈ hint.toText.toList, Unicode.isWhiteSpace c = false := by
    have name := forall_mem_xmlName (fun _ => prefixChar_not_white) (by decide) h
    intro c hc
    rw [XmlHint.toText] at hc
    split at hc
    · rw [String.toList_append] at hc
      rcases List.mem_append.1 hc with hc | hc
      · rw [List.mem_singleton.1 hc]; decide
      · exact name c hc
    · exact name c hc
  refine ⟨⟨trimmed_of_forall solid, fun hn => absurd (solid _ hn) (by decide)⟩, ?_⟩
  intro he
  have hn := xmlName_ne_nil h
  rw [XmlHint.toText] at he
  split at he
  · have := congrArg String.toList he
    simp [String.toList_append] at this
  · simp [he] at hn

theorem takes_xml {a b : Attribute}
    (h : a.xml = XmlHint.ofElement a.name ∨ XmlName a.xml.name.toList)
    (hb : b.xml = XmlHint.ofElement a.name) :
    Takes table definition
      (if a.xml = XmlHint.ofElement a.name then [] else [("XML", a.xml.toText)]) b
      { b with xml := a.xml } := by
  by_cases hx : a.xml = XmlHint.ofElement a.name
  · have same : { b with xml := a.xml } = b := by rw [hx, ← hb]
    rw [if_pos hx, same]
    exact Takes.nil b
  · have proper := h.resolve_left hx
    obtain ⟨line, some⟩ := toText_line proper
    rw [if_neg hx]
    refine Takes.single (writableProperty_of_key (by decide) line some)
      fun start position hs => ⟨_, withProperty_xml start _ position, ?_⟩
    subst hs
    rw [read_toText proper]
    rfl

theorem takes_options {options : List AttributeOption} (h : ∀ o ∈ options, WritableOption o)
    (b : Attribute) :
    Takes table definition (options.map fun o => (o.key, o.value)) b
      { b with options := b.options ++ options } := by
  induction options generalizing b with
  | nil =>
    rw [List.append_nil]
    exact Takes.nil b
  | cons o rest ih =>
    have ho := h o List.mem_cons_self
    have first : Takes table definition [(o.key, o.value)] b
        { b with options := b.options ++ [o] } := by
      refine Takes.single ho.property
        fun start position hs => ⟨_, withProperty_other ho.free start o.value position, ?_⟩
      subst hs
      rfl
    have later := ih (fun x hx => h x (List.mem_cons_of_mem o hx))
      { b with options := b.options ++ [o] }
    simpa using first.append later

/-- The properties of an attribute, read one after the other, give the attribute. -/
theorem takes_properties {m : DataModel} {a : Attribute} (h : WritableAttribute m a) :
    Takes table definition (properties m a)
      { name := a.name, isId := a.isId, xml := XmlHint.ofElement a.name } a.unplaced := by
  have written : ∀ dtype ∈ a.dtypes, WrittenType dtype := fun dtype hd => (h.typed dtype hd).written
  let named : Attribute := { name := a.name, isId := a.isId, xml := XmlHint.ofElement a.name }
  let typed : Attribute := { named with dtypes := a.dtypes, multiple := a.multiple }
  let termed : Attribute := { typed with term := a.term }
  let described : Attribute := { termed with docstring := a.docstring }
  let demanded : Attribute := { described with required := a.required }
  let hinted : Attribute := { demanded with xml := a.xml }
  have types : Takes table definition _ named typed := takes_types (m := m) written rfl rfl
  have term : Takes table definition _ typed termed := takes_term h.term rfl
  have docstring : Takes table definition _ termed described := takes_docstring h.docstring rfl
  have required : Takes table definition _ described demanded := takes_required rfl
  have xml : Takes table definition _ demanded hinted := takes_xml h.xml rfl
  have options : Takes table definition _ hinted { hinted with options := [] ++ a.options } :=
    takes_options h.options hinted
  exact ((((types.append term).append docstring).append required).append xml).append options

end

/-! ## The lines of an attribute -/

theorem mem_toList_map {α β : Type} {o : Option α} {f : α → β} {b : β}
    (h : b ∈ o.toList.map f) : ∃ a, o = some a ∧ b = f a := by
  obtain ⟨a, ha, rfl⟩ := List.mem_map.1 h
  exact ⟨a, by simpa using ha, rfl⟩

/-- Every property of an attribute can stand on the line of a bullet. -/
theorem properties_writable {m : DataModel} {a : Attribute} (h : WritableAttribute m a)
    {p : String × String} (hp : p ∈ properties m a) : WritableProperty p := by
  have written : ∀ dtype ∈ a.dtypes, WrittenType dtype := fun dtype hd => (h.typed dtype hd).written
  simp only [properties, List.mem_append] at hp
  rcases hp with ((((hp | hp) | hp) | hp) | hp) | hp
  · obtain ⟨text, ht, rfl⟩ := mem_toList_map hp
    have line : TrimmedLine text :=
      ⟨typeText_trimmed written ht, fun hn => typeText_single written ht _ hn rfl⟩
    exact writableProperty_of_key (by decide) line (typeText_ne_empty written ht)
  · obtain ⟨term, ht, rfl⟩ := mem_toList_map hp
    obtain ⟨line, some⟩ := h.term term ht
    exact writableProperty_of_key (by decide) line some
  · split at hp
    · cases hp
    · next some =>
      rw [List.mem_singleton.1 hp]
      exact writableProperty_of_key (by decide) h.docstring (by simpa using some)
  · split at hp
    · rw [List.mem_singleton.1 hp]
      exact writableProperty_of_key (by decide) ⟨by decide, by decide⟩ (by decide)
    · cases hp
  · split at hp
    · cases hp
    · next given =>
      obtain ⟨line, some⟩ := toText_line (h.xml.resolve_left given)
      rw [List.mem_singleton.1 hp]
      exact writableProperty_of_key (by decide) line some
  · obtain ⟨o, ho, rfl⟩ := List.mem_map.1 hp
    exact (h.options o ho).property

theorem toList_nameText (a : Attribute) : (nameText a).toList =
    if a.isId then ['_', '_'] ++ a.name.toList ++ ['_', '_'] else a.name.toList := by
  rw [nameText]
  split
  · simp [String.toList_append]
  · rfl

theorem nameText_wordChar {m : DataModel} {a : Attribute} (h : WritableAttribute m a) :
    ∀ c ∈ (nameText a).toList, WordChar c := by
  have underscores : ∀ c ∈ ['_', '_'], WordChar c := by
    intro c hc
    rw [← isWordChar_iff]
    exact forall_mem_of_all (p := fun d => isWordChar d = true) (by decide) c hc
  rw [toList_nameText]
  split
  · intro c hc
    rcases List.mem_append.1 hc with hc | hc
    · rcases List.mem_append.1 hc with hc | hc
      · exact underscores c hc
      · exact attributeName_wordChar h.named c hc
    · exact underscores c hc
  · exact attributeName_wordChar h.named

/-- The name of an attribute, between underscores if it is an identifier, is read back. -/
theorem attributeName_nameText {m : DataModel} {a : Attribute} (h : WritableAttribute m a) :
    attributeName (nameText a).toList = (a.name.toList, a.isId) := by
  have bare : trim (nameText a).toList = (nameText a).toList :=
    trimmed_of_forall fun c hc => wordChar_not_white (nameText_wordChar h c hc)
  have name_trimmed : trim a.name.toList = a.name.toList :=
    trimmed_of_forall fun c hc => wordChar_not_white (attributeName_wordChar h.named c hc)
  have some : 0 < a.name.toList.length := List.length_pos_iff.2 h.named.ne_nil
  rw [attributeName, bare]
  cases hi : a.isId with
  | true =>
    have text : (nameText a).toList = ['_', '_'] ++ a.name.toList ++ ['_', '_'] := by
      rw [toList_nameText, hi, if_pos rfl]
    have long : 4 < (nameText a).toList.length := by
      simp only [text, List.length_append, List.length_cons, List.length_nil]
      omega
    have starts : ['_', '_'].isPrefixOf (nameText a).toList = true := by
      rw [text]; rfl
    have ends : ['_', '_'].isSuffixOf (nameText a).toList = true := by
      rw [text, List.isSuffixOf_iff_suffix]
      exact List.suffix_append _ _
    have inner : ((nameText a).toList.drop 2).take ((nameText a).toList.length - 4) =
        a.name.toList := by
      simp [text]
    simp only [long, decide_true, starts, ends, Bool.and_self, if_true, inner, name_trimmed]
  | false =>
    have text : (nameText a).toList = a.name.toList := by
      rw [toList_nameText, hi]; rfl
    have unmarked : ¬ (4 < a.name.toList.length ∧ ['_', '_'] <+: a.name.toList ∧
        ['_', '_'] <:+ a.name.toList) := by
      rintro ⟨long, ⟨tail, starts⟩, ⟨front, ends⟩⟩
      refine h.unmarked hi ⟨tail.take (tail.length - 2), ?_, ?_⟩
      · rw [← starts] at long
        simp only [List.length_append, List.length_cons, List.length_nil] at long
        intro hn
        have := congrArg List.length hn
        simp at this
        omega
      · have last : ['_', '_'] <:+ a.name.toList := ⟨front, ends⟩
        have rest : tail <:+ a.name.toList := ⟨['_', '_'], starts⟩
        have fits : ['_', '_'].length ≤ tail.length := by
          rw [← starts] at long
          simp only [List.length_append, List.length_cons, List.length_nil] at long ⊢
          omega
        obtain ⟨inner, rfl⟩ := List.suffix_of_suffix_length_le last rest fits
        simp [← starts]
    rw [text, if_neg]
    simpa [List.isPrefixOf_iff_prefix, List.isSuffixOf_iff_suffix, and_assoc] using unmarked

/-- The line of a property under the bullet of an attribute. -/
theorem bulletText_property {p : String × String} (h : WritableProperty p) :
    bulletText ("  - " ++ p.1 ++ ": " ++ p.2).toList = (propertyText p).toList := by
  have line : ("  - " ++ p.1 ++ ": " ++ p.2).toList =
      [' ', ' '] ++ '-' :: ' ' :: (propertyText p).toList := by
    simp [propertyText, String.toList_append]
  rw [line]
  exact bulletText_hyphen (forall_mem_of_all (by decide)) h.text_trimmed

theorem bulletText_name {m : DataModel} {a : Attribute} (h : WritableAttribute m a) :
    bulletText ("- " ++ nameText a).toList = (nameText a).toList := by
  have bare : Trimmed (nameText a).toList :=
    trimmed_of_forall fun c hc => wordChar_not_white (nameText_wordChar h c hc)
  rw [String.toList_append]
  have none : ∀ c ∈ ([] : List Char), c = ' ' := by simp
  exact bulletText_hyphen none bare

/-- A text that ends in a trimmed text that is not empty does not end in a carriage return. -/
theorem getLast?_append_ne_return {front text : List Char} (ht : Trimmed text) (hn : text ≠ []) :
    (front ++ text).getLast? ≠ some '\r' := by
  rw [List.getLast?_append_of_ne_nil _ hn]
  intro hr
  exact absurd ((trimmed_iff.1 ht).2 '\r' hr) (by decide)

theorem lines_attributeLines {m : DataModel} {a : Attribute} (h : WritableAttribute m a) :
    lines (unlines (attributeLines m a)).toList = (attributeLines m a).map String.toList := by
  have name : ∀ c ∈ ("- " ++ nameText a).toList, c ≠ '\n' := by
    intro c hc
    rw [String.toList_append] at hc
    rcases List.mem_append.1 hc with hc | hc
    · have marker : ∀ d ∈ "- ".toList, d ≠ '\n' := forall_mem_of_all (by decide)
      exact marker c hc
    · rintro rfl
      exact absurd (isWordChar_iff.2 (nameText_wordChar h _ hc)) (by decide)
  refine lines_unlines (fun line hl => ?_) fun line hl => ?_
  · rcases List.mem_cons.1 hl with rfl | hl
    · exact fun hn => name _ hn rfl
    · obtain ⟨p, hp, rfl⟩ := List.mem_map.1 hl
      have ok := properties_writable h hp
      simp [String.toList_append, ok.key.single, ok.value.single]
  · rcases List.mem_cons.1 hl with rfl | hl
    · have bare : Trimmed (nameText a).toList :=
        trimmed_of_forall fun c hc => wordChar_not_white (nameText_wordChar h c hc)
      have some : (nameText a).toList ≠ [] := by
        rw [toList_nameText]
        split
        · simp
        · exact h.named.ne_nil
      rw [String.toList_append]
      exact getLast?_append_ne_return bare some
    · obtain ⟨p, hp, rfl⟩ := List.mem_map.1 hl
      have ok := properties_writable h hp
      rw [String.toList_append]
      exact getLast?_append_ne_return ok.value.trimmed (toList_ne_nil ok.valued)

theorem nameText_ne_empty {m : DataModel} {a : Attribute} (h : WritableAttribute m a) :
    nameText a ≠ "" := by
  intro empty
  have text := toList_nameText a
  rw [empty] at text
  split at text
  · simp at text
  · exact h.named.ne_nil text.symm

/-- A bullet with the texts of an attribute gives the attribute. -/
theorem readAttribute_written (table : LineTable) (definition : String) {m : DataModel}
    {a : Attribute} (h : WritableAttribute m a) {item : ListItem} (text : item.text = nameText a)
    (texts : item.children.map ListItem.text = (properties m a).map propertyText)
    (bare : ∀ child ∈ item.children, child.children = []) :
    ∃ b, readAttribute table definition item = (some b, []) ∧ b.unplaced = a.unplaced := by
  let start : Attribute :=
    { name := a.name, isId := a.isId, xml := XmlHint.ofElement a.name,
      position := table.positionOf item.line }
  have takes : Takes table definition (properties m a) start.unplaced a.unplaced :=
    takes_properties h
  obtain ⟨b, run, same⟩ := takes start item.children rfl texts bare
  have named : (nameText a).isEmpty = false := by
    simpa using nameText_ne_empty h
  refine ⟨b, ?_, same⟩
  simp only [readAttribute, text, named, Bool.false_eq_true, if_false, attributeName_nameText h,
    String.ofList_toList]
  rw [show takeOptions table definition _ item.children = _ from run]

/-- An attribute in the normal form is read back: the bullet that its lines make gives an attribute
that differs in places only, and no diagnostic. -/
theorem readAttribute_attributeLines (table : LineTable) (definition : String)
    (number : Nat → Nat) {m : DataModel} {a : Attribute} (h : WritableAttribute m a) :
    ∃ item b, itemOfLines number (lines (unlines (attributeLines m a)).toList) = some item ∧
      readAttribute table definition item = (some b, []) ∧ b.unplaced = a.unplaced := by
  let children := ((properties m a).map fun p => ("  - " ++ p.1 ++ ": " ++ p.2).toList).zipIdx.map
    fun (line, i) => ListItem.mk (String.ofList (bulletText line)) (number (i + 1)) []
  have texts : children.map ListItem.text = (properties m a).map propertyText := by
    refine List.ext_getElem (by simp [children]) fun i h1 h2 => ?_
    have inside : i < (properties m a).length := by simpa using h2
    have ok := properties_writable h (List.getElem_mem inside)
    simp only [children, List.getElem_map, List.getElem_zipIdx, ListItem.text,
      bulletText_property ok, String.ofList_toList]
  have bare : ∀ item ∈ children, item.children = [] := by
    intro item hi
    obtain ⟨⟨line, i⟩, -, rfl⟩ := List.mem_map.1 hi
    rfl
  let item : ListItem := .mk (nameText a) (number 0) children
  obtain ⟨b, read, same⟩ : ∃ b, readAttribute table definition item = (some b, []) ∧
      b.unplaced = a.unplaced := readAttribute_written table definition h rfl texts bare
  refine ⟨item, b, ?_, read, same⟩
  rw [lines_attributeLines h, attributeLines, List.map_cons, List.map_map, itemOfLines,
    bulletText_name h, String.ofList_toList]
  rfl

def authorModel : DataModel := { objects := [{ name := "Author" }] }

/-- An attribute of which every field is given, with colons in its texts. -/
def authorsAttribute : Attribute :=
  { name := "authors", multiple := true, dtypes := ["Author", "STR"],
    docstring := "Who: all of them", term := some "schema:author", required := true,
    xml := XmlHint.ofAttribute "ns:author",
    options := [{ key := "Default value", value := "a: [b]" }] }

theorem authorsAttribute_read_back :
    WritableAttribute authorModel authorsAttribute ∧
      ∃ item b, itemOfLines (· + 1)
          (lines (unlines (attributeLines authorModel authorsAttribute)).toList) = some item ∧
        readAttribute (LineTable.ofSource []) "Book" item = (some b, []) ∧
        b.unplaced = authorsAttribute.unplaced := by
  have writable : WritableAttribute authorModel authorsAttribute :=
    { named := isAttributeName_iff.1 (by decide)
      unmarked := by
        rintro - ⟨inner, -, he⟩
        simp [authorsAttribute] at he
      typed := by
        intro dtype hd
        simp only [authorsAttribute, List.mem_cons, List.not_mem_nil, or_false] at hd
        rcases hd with rfl | rfl
        · exact .inl ⟨by decide, isDefinitionName_iff.1 (by decide)⟩
        · exact .inr ⟨.string, "str", by decide, by decide⟩
      term := by
        intro term ht
        cases ht
        exact ⟨⟨by decide, by decide⟩, by decide⟩
      docstring := ⟨by decide, by decide⟩
      xml := .inr (isXmlName_iff.1 (by decide))
      options := by
        intro o ho
        rw [List.mem_singleton.1 ho]
        exact ⟨⟨by decide, by decide⟩, by decide, by decide, by decide, ⟨by decide, by decide⟩,
          by decide⟩ }
  exact ⟨writable, readAttribute_attributeLines _ _ _ writable⟩

end Dialect
end DocModel
