import DocModel.Proofs.Dialect.Headings
import DocModel.Validation.Report

/-!
# DocModel.Proofs.Validation.TypeFindings

What a finding about a type is about: it names an attribute, and its place is the line of the bullet
of this attribute or of a bullet nested in it.

* `PlacedIn`: each rule finds things of one kind, in places that the model keeps;
* `mem_typeRule`: no other rule finds anything of this kind;
* `typePosition_takeOptions`: the place of a type is a nested bullet;
* `bullet_of_finding` leads from a finding to the bullet.
-/

namespace DocModel

open Text

/-! ## Places of attributes -/

namespace Dialect

variable {table : LineTable} {definition : String}

theorem typePosition_withProperty {a b : Attribute} {key value : String}
    {position : SourcePosition} (h : withProperty a key value position = .ok b) :
    b.typePosition = a.typePosition ∨ b.typePosition = some position := by
  unfold withProperty at h
  split at h
  case h_1 =>
    cases h
    dsimp only
    cases a.typePosition with
    | none => exact .inr rfl
    | some first => exact .inl rfl
  case h_5 =>
    split at h
    · cases h
      exact .inl rfl
    · cases h
  all_goals
    cases h
    exact .inl rfl

theorem typePosition_takeOption (a : Attribute) (item : ListItem) :
    (takeOption table definition a item).1.typePosition = a.typePosition ∨
      (takeOption table definition a item).1.typePosition = some (table.positionOf item.line) := by
  unfold takeOption
  dsimp only
  cases split : splitOption item.text with
  | error fault => exact .inl rfl
  | ok pair =>
    cases changed : withProperty a pair.1 pair.2 (table.positionOf item.line) with
    | error fault => simp [bind, Except.bind, changed]
    | ok b => simpa [bind, Except.bind, changed] using typePosition_withProperty changed

/-- The place of a type is the line of one of the nested bullets. -/
theorem typePosition_takeOptions (a : Attribute) (items : List ListItem) :
    (takeOptions table definition a items).1.typePosition = a.typePosition ∨
      ∃ child ∈ items, (takeOptions table definition a items).1.typePosition =
        some (table.positionOf child.line) := by
  induction items generalizing a with
  | nil => exact .inl rfl
  | cons item rest ih =>
    rw [takeOptions]
    rcases ih (takeOption table definition a item).1 with same | ⟨child, hc, place⟩
    · rcases @typePosition_takeOption table definition a item with kept | own
      · exact .inl (same.trans kept)
      · exact .inr ⟨item, List.mem_cons_self, same.trans own⟩
    · exact .inr ⟨child, List.mem_cons_of_mem _ hc, place⟩

/-- The places of an attribute are lines of its bullet and of those nested in it. -/
theorem DefinesAttribute.places {item : ListItem} {a : Attribute}
    (h : DefinesAttribute table definition item a) :
    a.position = table.positionOf item.line ∧
      (a.typePosition = none ∨
        ∃ child ∈ item.children, a.typePosition = some (table.positionOf child.line)) := by
  obtain ⟨b, read, marked⟩ := h.read
  cases named : item.text.isEmpty with
  | true =>
    rw [readAttribute_empty named] at read
    cases read
  | false =>
    rw [readAttribute_named named] at read
    cases read
    rw [marked]
    exact ⟨(sameBullet_takeOptions _ item.children).position, typePosition_takeOptions _ _⟩

theorem exists_of_forall₂ {α β : Type} {r : α → β → Prop} {first : List α} {second : List β}
    (h : List.Forall₂ r first second) {b : β} (hb : b ∈ second) : ∃ a ∈ first, r a b := by
  induction h with
  | nil => cases hb
  | cons own _ ih =>
    rcases List.mem_cons.1 hb with rfl | hb
    · exact ⟨_, List.mem_cons_self, own⟩
    · obtain ⟨a, ha, related⟩ := ih hb
      exact ⟨a, List.mem_cons_of_mem _ ha, related⟩

/-- The bullets behind a heading are those of lists of the document. -/
theorem list_of_heading {blocks : List Block} {h : Heading} (hh : h ∈ headingsOf blocks)
    {item : ListItem} (hi : item ∈ h.items) :
    ∃ block ∈ blocks, ∃ items, block.content = .list items ∧ item ∈ items := by
  obtain ⟨items, hl, mem⟩ := List.mem_flatten.1 hi
  obtain ⟨block, hb, listed⟩ := List.mem_filterMap.1 hl
  refine ⟨block, (blocks_of_heading hh).2 block hb, items, ?_, mem⟩
  unfold Block.list? at listed
  split at listed
  · next found =>
    cases listed
    exact found
  · cases listed

end Dialect

/-! ## Places of a model -/

/-- The positions that an attribute keeps. -/
def Attribute.positions (a : Attribute) : List SourcePosition :=
  a.position :: (a.typePosition.toList ++ a.termPosition.toList)

theorem Attribute.position_mem (a : Attribute) : a.position ∈ a.positions := List.mem_cons_self

/-- The place of a type is the attribute's own if none is given. -/
theorem Attribute.typePosition_mem (a : Attribute) :
    a.typePosition.getD a.position ∈ a.positions := by
  cases h : a.typePosition with
  | none => exact a.position_mem
  | some p => simp [positions, h]

theorem Attribute.termPosition_mem (a : Attribute) :
    a.termPosition.getD a.position ∈ a.positions := by
  cases h : a.termPosition with
  | none => exact a.position_mem
  | some p => simp [positions, h]

/-- The positions that a model keeps. -/
def DataModel.positions (m : DataModel) : List SourcePosition :=
  (m.objects.flatMap fun o => o.position :: o.attributes.flatMap (·.positions)) ++
    m.enums.map (·.position)

section

variable {m : DataModel}

theorem object_mem_positions {o : Object} (h : o ∈ m.objects) : o.position ∈ m.positions :=
  List.mem_append_left _ (List.mem_flatMap.2 ⟨o, h, List.mem_cons_self⟩)

theorem attribute_mem_positions {o : Object} {a : Attribute} (ho : o ∈ m.objects)
    (ha : a ∈ o.attributes) {p : SourcePosition} (hp : p ∈ a.positions) : p ∈ m.positions :=
  List.mem_append_left _
    (List.mem_flatMap.2 ⟨o, ho, List.mem_cons_of_mem _ (List.mem_flatMap.2 ⟨a, ha, hp⟩)⟩)

theorem enumeration_mem_positions {e : Enumeration} (h : e ∈ m.enums) :
    e.position ∈ m.positions :=
  List.mem_append_right _ (List.mem_map_of_mem h)

end

/-! ## Findings -/

namespace Validation

variable {m : DataModel} {f : Finding}

/-- A finding of a kind, about one place. -/
structure Placed (kind : FindingKind) (f : Finding) : Prop where
  kind : f.kind = kind
  place : ∃ position, f.positions = [position]

/-- A finding of a kind, about one of some places. -/
structure PlacedIn (positions : List SourcePosition) (kind : FindingKind) (f : Finding) : Prop
    extends Placed kind f where
  among : ∀ p ∈ f.positions, p ∈ positions

section

variable {positions : List SourcePosition} {kind : FindingKind}

theorem placedIn_findingAt {message definition : String} {property : Option String}
    {position : SourcePosition} (h : position ∈ positions) :
    PlacedIn positions kind (findingAt kind message definition property position) := by
  refine ⟨⟨rfl, position, rfl⟩, fun p hp => ?_⟩
  rw [List.mem_singleton.1 hp]
  exact h

theorem placedIn_definitionNameFinding {thing name : String} {position : SourcePosition}
    (hp : position ∈ positions) (h : f ∈ definitionNameFinding thing name position) :
    PlacedIn positions .nameError f := by
  unfold definitionNameFinding at h
  split at h
  · cases h
  · rw [List.mem_singleton.1 h]
    exact placedIn_findingAt hp

end

theorem placedIn_diagnosticRule {diagnostics : List Dialect.Diagnostic}
    (h : f ∈ diagnosticRule diagnostics) :
    PlacedIn (diagnostics.map (·.position)) .parseError f := by
  obtain ⟨d, hd, rfl⟩ := List.mem_map.1 h
  exact placedIn_findingAt (List.mem_map_of_mem hd)

theorem repeatedAfter_sublist {α : Type} {name : α → String} {seen : List String} {items : List α} :
    (repeatedAfter name seen items).Sublist items := by
  induction items generalizing seen with
  | nil => exact .refl []
  | cons item rest ih =>
    rw [repeatedAfter]
    split
    · exact ih.cons_cons item
    · exact ih.cons item

theorem repeated_sublist {α : Type} {name : α → String} {items : List α} :
    (repeated name items).Sublist items := repeatedAfter_sublist

theorem placedIn_duplicateRule (h : f ∈ duplicateRule m) :
    PlacedIn m.positions .duplicateError f := by
  rcases List.mem_append.1 h with h | h
  · obtain ⟨heading, hh, rfl⟩ := List.mem_map.1 h
    refine placedIn_findingAt ?_
    rcases List.mem_append.1 (List.mem_mergeSort.1 (repeated_sublist.mem hh)) with own | own
    · obtain ⟨o, ho, rfl⟩ := List.mem_map.1 own
      exact object_mem_positions ho
    · obtain ⟨e, he, rfl⟩ := List.mem_map.1 own
      exact enumeration_mem_positions he
  · obtain ⟨o, ho, h⟩ := List.mem_flatMap.1 h
    obtain ⟨a, ha, rfl⟩ := List.mem_map.1 h
    exact placedIn_findingAt
      (attribute_mem_positions ho (repeated_sublist.mem ha) a.position_mem)

theorem placedIn_nameRule (h : f ∈ nameRule m) : PlacedIn m.positions .nameError f := by
  rcases List.mem_append.1 h with h | h
  · obtain ⟨o, ho, h⟩ := List.mem_flatMap.1 h
    rcases List.mem_append.1 h with h | h
    · exact placedIn_definitionNameFinding (object_mem_positions ho) h
    · obtain ⟨a, ha, h⟩ := List.mem_flatMap.1 h
      unfold attributeNameFinding at h
      split at h
      · cases h
      · rw [List.mem_singleton.1 h]
        exact placedIn_findingAt (attribute_mem_positions ho ha a.position_mem)
  · obtain ⟨e, he, h⟩ := List.mem_flatMap.1 h
    exact placedIn_definitionNameFinding (enumeration_mem_positions he) h

theorem mem_forAttributes {rule : Object → Attribute → List Finding}
    (h : f ∈ forAttributes m rule) : ∃ o ∈ m.objects, ∃ a ∈ o.attributes, f ∈ rule o a := by
  obtain ⟨o, ho, h⟩ := List.mem_flatMap.1 h
  obtain ⟨a, ha, h⟩ := List.mem_flatMap.1 h
  exact ⟨o, ho, a, ha, h⟩

theorem placedIn_typeRule (h : f ∈ typeRule m) : PlacedIn m.positions .typeError f := by
  obtain ⟨o, ho, a, ha, h⟩ := mem_forAttributes h
  have place : ∀ p ∈ a.positions, p ∈ m.positions := fun p => attribute_mem_positions ho ha
  simp only [typeFindings, List.mem_append] at h
  rcases h with (h | h) | h
  · split at h
    · rw [List.mem_singleton.1 h]
      exact placedIn_findingAt (place _ a.position_mem)
    · cases h
  · obtain ⟨dtype, -, rfl⟩ := List.mem_map.1 h
    exact placedIn_findingAt (place _ a.typePosition_mem)
  · split at h
    · rw [List.mem_singleton.1 h]
      exact placedIn_findingAt (place _ a.typePosition_mem)
    · cases h

theorem placedIn_termRule (h : f ∈ termRule m) : PlacedIn m.positions .termError f := by
  obtain ⟨o, ho, a, ha, h⟩ := mem_forAttributes h
  unfold termFindings at h
  split at h
  · rw [List.mem_singleton.1 h]
    exact placedIn_findingAt (attribute_mem_positions ho ha a.termPosition_mem)
  · cases h

theorem placedIn_xmlRule (h : f ∈ xmlRule m) : PlacedIn m.positions .xmlError f := by
  obtain ⟨o, ho, a, ha, h⟩ := mem_forAttributes h
  unfold xmlFindings at h
  split at h
  · cases h
  · rw [List.mem_singleton.1 h]
    exact placedIn_findingAt (attribute_mem_positions ho ha a.position_mem)

theorem placedIn_enumerationRule (h : f ∈ enumerationRule m) :
    PlacedIn m.positions .globalError f := by
  obtain ⟨e, he, rfl⟩ := List.mem_map.1 h
  exact placedIn_findingAt (enumeration_mem_positions (List.mem_of_mem_filter he))

theorem mem_validate {source : String} (h : f ∈ (validate source).findings) :
    (∃ error, Dialect.parse source = .error error ∧ f = parseFinding source error) ∨
      ∃ reading, Dialect.parse source = .ok reading ∧
        (reading.model.isEmpty = true ∧ f = .emptyDocument ∨ f ∈ allFindings reading) := by
  unfold validate at h
  cases read : Dialect.parse source with
  | error error =>
    rw [read] at h
    have own : f ∈ [parseFinding source error] := List.mem_mergeSort.1 h
    exact .inl ⟨error, rfl, List.mem_singleton.1 own⟩
  | ok reading =>
    rw [read] at h
    refine .inr ⟨reading, rfl, ?_⟩
    dsimp only [reportOf] at h
    split at h
    · next empty =>
      have own : f ∈ [Finding.emptyDocument] := List.mem_mergeSort.1 h
      exact .inl ⟨(Bool.and_eq_true_iff.1 empty).1, List.mem_singleton.1 own⟩
    · exact .inr (List.mem_mergeSort.1 h)

theorem mem_typeRule {source : String} (h : f ∈ (validate source).findings)
    (kind : f.kind = .typeError) :
    ∃ reading, Dialect.parse source = .ok reading ∧ f ∈ typeRule reading.model := by
  rcases mem_validate h with ⟨error, -, rfl⟩ | ⟨reading, read, ⟨-, rfl⟩ | all⟩
  · cases kind
  · cases kind
  · refine ⟨reading, read, ?_⟩
    simp only [allFindings, List.mem_append] at all
    rcases all with (((((h | h) | h) | h) | h) | h) | h
    · cases (placedIn_diagnosticRule h).kind.symm.trans kind
    · cases (placedIn_duplicateRule h).kind.symm.trans kind
    · cases (placedIn_nameRule h).kind.symm.trans kind
    · exact h
    · cases (placedIn_termRule h).kind.symm.trans kind
    · cases (placedIn_xmlRule h).kind.symm.trans kind
    · cases (placedIn_enumerationRule h).kind.symm.trans kind

/-- A finding about the types of an attribute names it and has one place. -/
structure AboutType (o : Object) (a : Attribute) (f : Finding) : Prop where
  definition : f.definition = some o.name
  property : f.property = some a.name
  place : f.positions = [a.position] ∨ f.positions = [a.typePosition.getD a.position]

theorem aboutType_of_mem {o : Object} {a : Attribute} (h : f ∈ typeFindings m o a) :
    AboutType o a f := by
  simp only [typeFindings, List.mem_append] at h
  rcases h with (h | h) | h
  · split at h
    · rw [List.mem_singleton.1 h]
      exact ⟨rfl, rfl, .inl rfl⟩
    · cases h
  · obtain ⟨dtype, -, rfl⟩ := List.mem_map.1 h
    exact ⟨rfl, rfl, .inr rfl⟩
  · split at h
    · rw [List.mem_singleton.1 h]
      exact ⟨rfl, rfl, .inr rfl⟩
    · cases h

open Dialect in
/-- The bullet that a finding about a type is about, in a document. -/
structure AboutBullet (source : String) (document : Document) (item : ListItem) (line : Nat)
    (f : Finding) : Prop where
  /-- It is an outer bullet behind the heading of an object. -/
  bullet : ∃ h ∈ objectHeadings document.blocks, f.definition = some h.name ∧ item ∈ h.items
  named : f.property = some (String.ofList (attributeName item.text.toList).1)
  /-- The place is its line or the one of a bullet nested in it. -/
  within : line = item.line ∨ ∃ child ∈ item.children, line = child.line
  place : f.positions = [(LineTable.ofSource source.toList).positionOf line]

open Dialect in
theorem bullet_of_finding {source : String} (h : f ∈ (validate source).findings)
    (kind : f.kind = .typeError) :
    ∃ document item line, Document.ofSource source.toList = .ok document ∧
      AboutBullet source document item line f := by
  obtain ⟨reading, read, found⟩ := mem_typeRule h kind
  obtain ⟨o, ho, a, ha, found⟩ := mem_forAttributes found
  have about := aboutType_of_mem found
  obtain ⟨document, lexed, rfl⟩ := document_of_parse read
  have grouped := @grouped_ofDocument (LineTable.ofSource source.toList) document
  obtain ⟨heading, hh, defines⟩ := exists_of_forall₂ grouped.objects ho
  obtain ⟨item, hi, own⟩ := exists_of_forall₂ defines.attributes ha
  obtain ⟨bulletPlace, typePlace⟩ := own.places
  have bullet : ∃ h ∈ objectHeadings document.blocks,
      f.definition = some h.name ∧ item ∈ h.items :=
    ⟨heading, hh, about.definition.trans (congrArg some defines.name), List.mem_of_mem_filter hi⟩
  have named : f.property = some (String.ofList (attributeName item.text.toList).1) :=
    about.property.trans (congrArg some own.name)
  have onBullet : f.positions = [a.position] →
      AboutBullet source document item item.line f := fun place =>
    ⟨bullet, named, .inl rfl, place.trans (congrArg (List.cons · []) bulletPlace)⟩
  rcases about.place with place | place
  · exact ⟨document, item, _, lexed, onBullet place⟩
  · rcases typePlace with none | ⟨child, hc, given⟩
    · rw [none] at place
      exact ⟨document, item, _, lexed, onBullet place⟩
    · rw [given] at place
      exact ⟨document, item, child.line, lexed, bullet, named, .inr ⟨child, hc, rfl⟩, place⟩

end Validation
end DocModel
