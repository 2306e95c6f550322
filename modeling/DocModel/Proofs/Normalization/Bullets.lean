import DocModel.Proofs.Dialect.MemberLines
import DocModel.Proofs.Normalization.Rendering

/-!
# DocModel.Proofs.Normalization.Bullets

The bullets of the attributes of an object are read back.

* `plain_writtenBullet`: the block structure sees the bullets as they are written;
* `readAttributes_bulletsFrom`: they give the attributes again.
-/

namespace DocModel

open Dialect Markdown Target.Markdown Text Validation

/-! ## What the block structure sees -/

/-- The text of an option opens neither a list nor a quotation. -/
structure OpensNothing (o : AttributeOption) : Prop where
  quote : o.key.toList.head? ≠ some '>'
  list : listMarker? false (cleanLine (propertyText (o.key, o.value)).toList) = none

instance (o : AttributeOption) : Decidable (OpensNothing o) :=
  decidable_of_iff (o.key.toList.head? ≠ some '>' ∧
      listMarker? false (cleanLine (propertyText (o.key, o.value)).toList) = none)
    ⟨fun h => ⟨h.1, h.2⟩, fun h => ⟨h.quote, h.list⟩⟩

theorem cleanChar_of_wordChar {c : Char} (h : WordChar c) : cleanChar c = c := by
  have other : c ≠ '\x00' := by
    rintro rfl
    exact absurd (isWordChar_iff.2 h) (by decide)
  rw [cleanChar, if_neg (by simpa using other)]

/-- A text that begins with a letter or an underscore stays a text. -/
theorem plainText_of_start {c : Char} (h : WordStart c) (rest : List Char) :
    PlainText (c :: rest) := by
  have word : isLetterOrUnderscore c = true := isLetterOrUnderscore_iff.2 h
  have other : ∀ d, isLetterOrUnderscore d = false → c ≠ d := by
    intro d hd e
    rw [e, hd] at word
    cases word
  have digit : c.isDigit = false := by
    cases hd : c.isDigit with
    | false => rfl
    | true =>
      have bounds := isDigit_iff.1 hd
      rcases h with (h | h) | h
      · simp only [Digit, Char.le_def] at bounds h
        exact absurd (UInt32.le_trans h.1 bounds.2) (by decide)
      · simp only [Digit, Char.le_def] at bounds h
        exact absurd (UInt32.le_trans h.1 bounds.2) (by decide)
      · rw [h] at hd
        cases hd
  refine ⟨⟨c, rest, rfl, ?_⟩, ?_, ?_⟩
  · simp [isSpaceOrTab, other ' ' (by decide), other '\t' (by decide)]
  · simpa using other '>' (by decide)
  · simp [listMarker?, digit, other '*' (by decide), other '-' (by decide), other '+' (by decide)]

theorem wordStart_ne_hyphen {c : Char} (h : WordStart c) : c ≠ '-' ∧ isSpaceOrTab c = false := by
  obtain ⟨⟨d, rest, same, visible⟩, -, list⟩ := plainText_of_start h []
  obtain ⟨rfl, -⟩ := List.cons.inj same
  refine ⟨?_, visible⟩
  rintro rfl
  cases list

theorem mayBeVerbatim_of_start {c : Char} (h : WordStart c) (rest : List Char) :
    mayBeVerbatim (c :: rest) = false := by
  have word : isLetterOrUnderscore c = true := isLetterOrUnderscore_iff.2 h
  have other : ∀ d, isLetterOrUnderscore d = false → c ≠ d := by
    intro d hd e
    rw [e, hd] at word
    cases word
  simp [mayBeVerbatim, other '<' (by decide), other '\x60' (by decide), other '~' (by decide)]

section

variable {m : DataModel} {a : Attribute}

/-- The text of the bullet of an attribute begins with a letter or an underscore. -/
theorem nameText_start (h : WritableAttribute m a) :
    ∃ c rest, (nameText a).toList = c :: rest ∧ WordStart c := by
  rw [toList_nameText]
  have named := h.named
  split
  · exact ⟨'_', _, rfl, .inr rfl⟩
  · cases name : a.name.toList with
    | nil => rw [name] at named; cases named
    | cons c rest =>
      rw [name] at named
      obtain ⟨start, -⟩ := named
      exact ⟨c, rest, rfl, start⟩

theorem cleanLine_nameText (h : WritableAttribute m a) :
    cleanLine (nameText a).toList = (nameText a).toList :=
  (List.map_congr_left fun c hc => cleanChar_of_wordChar (nameText_wordChar h c hc)).trans
    (List.map_id _)

/-- A property has a key of its own or is an option. -/
theorem key_of_mem_properties {p : String × String} (hp : p ∈ properties m a) :
    p.1 ∈ writtenKeys ∨ ∃ o ∈ a.options, p = (o.key, o.value) := by
  have types : "Type" ∈ writtenKeys := by decide
  have term : "Term" ∈ writtenKeys := by decide
  have description : "Description" ∈ writtenKeys := by decide
  have required : "Required" ∈ writtenKeys := by decide
  have xml : "XML" ∈ writtenKeys := by decide
  simp only [properties, List.mem_append] at hp
  rcases hp with ((((hp | hp) | hp) | hp) | hp) | hp
  · obtain ⟨text, -, rfl⟩ := mem_toList_map hp
    exact .inl types
  · obtain ⟨text, -, rfl⟩ := mem_toList_map hp
    exact .inl term
  · split at hp
    · cases hp
    · rw [List.mem_singleton.1 hp]
      exact .inl description
  · split at hp
    · rw [List.mem_singleton.1 hp]
      exact .inl required
    · cases hp
  · split at hp
    · cases hp
    · rw [List.mem_singleton.1 hp]
      exact .inl xml
  · obtain ⟨o, ho, rfl⟩ := List.mem_map.1 hp
    exact .inr ⟨o, ho, rfl⟩

theorem writtenKey_start {key : String} (h : key ∈ writtenKeys) :
    ∃ c rest, key.toList = c :: rest ∧ WordStart c := by
  simp only [writtenKeys, List.mem_cons, List.not_mem_nil, or_false] at h
  rcases h with rfl | rfl | rfl | rfl | rfl <;>
    exact ⟨_, _, rfl, isLetterOrUnderscore_iff.1 (by decide)⟩

theorem plainText_property (h : WritableAttribute m a) (free : ∀ o ∈ a.options, OpensNothing o)
    {p : String × String} (hp : p ∈ properties m a) :
    PlainText (cleanLine (propertyText p).toList) := by
  rcases key_of_mem_properties hp with own | ⟨o, ho, rfl⟩
  · obtain ⟨c, rest, key, start⟩ := writtenKey_start own
    have word : WordChar c := wordChar_of_start start
    rw [toList_propertyText, key, List.cons_append, cleanLine, List.map_cons,
      cleanChar_of_wordChar word]
    exact plainText_of_start start _
  · have opens := free o ho
    have writable := h.options o ho
    have key := toList_ne_nil writable.keyed
    cases hk : o.key.toList with
    | nil => exact absurd hk key
    | cons c rest =>
      have text : (propertyText (o.key, o.value)).toList =
          c :: (rest ++ ':' :: ' ' :: o.value.toList) := by
        rw [toList_propertyText]
        dsimp only
        rw [hk, List.cons_append]
      have shown : Unicode.isWhiteSpace c = false := by
        refine (trimmed_iff.1 writable.key.trimmed).1 c ?_
        rw [hk, List.head?_cons, Option.mem_some_iff]
      refine ⟨⟨cleanChar c, _, by rw [text, cleanLine, List.map_cons], ?_⟩, ?_, opens.list⟩
      · have other : ∀ d, isSpaceOrTab d = true → cleanChar c ≠ d := by
          intro d hd e
          have white : Unicode.isWhiteSpace d = true := by
            rw [isSpaceOrTab, Bool.or_eq_true, beq_iff_eq, beq_iff_eq] at hd
            rcases hd with rfl | rfl <;> decide
          have clean : d ≠ '\uFFFD' := by
            rintro rfl
            cases hd
          rw [cleanChar_eq clean e, white] at shown
          cases shown
        cases hs : isSpaceOrTab (cleanChar c) with
        | false => rfl
        | true => exact absurd rfl (other _ hs)
      · rw [text, cleanLine, List.map_cons, List.head?_cons]
        intro e
        have quote := opens.quote
        rw [hk, cleanChar_eq (by decide) (Option.some.inj e)] at quote
        exact quote rfl

theorem breaksRule_property (p : String × String) :
    BreaksRule (cleanLine (propertyText p).toList) := by
  refine ⟨':', ?_, by decide, by decide⟩
  rw [toList_propertyText, cleanLine, List.map_append, List.map_cons]
  exact List.mem_append_right _ List.mem_cons_self

/-- The bullet of an attribute is seen as it is written. -/
theorem plain_writtenBullet (h : WritableAttribute m a)
    (free : ∀ o ∈ a.options, OpensNothing o) : PlainBullet (cleanBullet (writtenBullet m a)) := by
  obtain ⟨c, rest, name, start⟩ := nameText_start h
  have text : (cleanBullet (writtenBullet m a)).1 = c :: rest := by
    rw [← name, ← cleanLine_nameText h]
    rfl
  obtain ⟨hyphen, visible⟩ := wordStart_ne_hyphen start
  refine ⟨?_, ?_, ?_, fun line hl => ?_⟩
  · rw [text]
    exact plainText_of_start start rest
  · rw [text]
    exact ⟨c, List.mem_cons_self, hyphen, visible⟩
  · rw [text]
    exact mayBeVerbatim_of_start start rest
  · obtain ⟨raw, hr, rfl⟩ := List.mem_map.1 hl
    obtain ⟨p, hp, rfl⟩ := List.mem_map.1 hr
    exact ⟨plainText_property h free hp, breaksRule_property p⟩

/-! ## What the dialect reads -/

variable {table : LineTable} {offset n : Nat}

theorem text_bulletAt {text : List Char} {children : List ListItem} (ht : Trimmed text)
    {indent : List Char} (hi : ∀ c ∈ indent, c = ' ')
    (hs : table.textOf (n + offset) = indent ++ hyphenLine text) :
    (bulletAt table offset n children).text = String.ofList text := by
  rw [bulletAt, hs, hyphenLine, bulletText_hyphen hi ht]
  rfl

/-- The nested bullets of an attribute have the texts of its properties. -/
theorem texts_nestedFrom {properties : List (String × String)}
    (h : ∀ p ∈ properties, WritableProperty p)
    (hs : Stands table (n + offset) (properties.map fun p => nestedLine (propertyText p).toList)) :
    (nestedFrom table offset n properties.length).map ListItem.text =
      properties.map propertyText := by
  induction properties generalizing n with
  | nil => rfl
  | cons p more ih =>
    have line : table.textOf (n + offset) = [' ', ' '] ++ hyphenLine (propertyText p).toList :=
      hs.head
    have tail := hs.tail
    rw [Nat.add_right_comm] at tail
    have first : (bulletAt table offset n []).text = propertyText p := by
      have trimmed := (h p List.mem_cons_self).text_trimmed
      rw [text_bulletAt trimmed (forall_mem_of_all (by decide)) line, String.ofList_toList]
    have rest := ih (fun x hx => h x (List.mem_cons_of_mem _ hx)) tail
    have items : nestedFrom table offset n (p :: more).length =
        bulletAt table offset n [] :: nestedFrom table offset (n + 1) more.length := rfl
    rw [items, List.map_cons, first, rest, List.map_cons]

theorem readAttribute_bulletAt (definition : String) (h : WritableAttribute m a)
    (hs : Stands table (n + offset) (bulletLines (writtenBullet m a))) :
    ∃ b, readAttribute table definition (bulletAt table offset n
        (nestedFrom table offset (n + 1) (writtenBullet m a).2.length)) = (some b, []) ∧
      b.unplaced = a.unplaced := by
  have name : Trimmed (nameText a).toList :=
    trimmed_of_forall fun c hc => wordChar_not_white (nameText_wordChar h c hc)
  have line : table.textOf (n + offset) = [] ++ hyphenLine (nameText a).toList := hs.head
  have tail := hs.tail
  rw [Nat.add_right_comm] at tail
  have below : Stands table (n + 1 + offset)
      ((properties m a).map fun p => nestedLine (propertyText p).toList) := by
    have lines : (bulletLines (writtenBullet m a)).tail =
        (properties m a).map fun p => nestedLine (propertyText p).toList := by
      rw [bulletLines, List.tail_cons, writtenBullet, List.map_map]
      rfl
    rwa [lines] at tail
  have count : (writtenBullet m a).2.length = (properties m a).length := by
    rw [writtenBullet, List.length_map]
  rw [count]
  refine readAttribute_written table definition h ?_ ?_ fun child hc => ?_
  · rw [text_bulletAt name (fun c hc => by cases hc) line, String.ofList_toList]
  · exact texts_nestedFrom (fun p hp => properties_writable h hp) below
  · obtain ⟨line, -, rfl⟩ := List.mem_map.1 hc
    rfl

theorem readAttributes_bulletsFrom (definition : String) {attributes : List Attribute}
    (h : ∀ a ∈ attributes, WritableAttribute m a)
    (hs : Stands table (n + offset) ((attributes.map (writtenBullet m)).flatMap bulletLines)) :
    ∃ read, readAttributes table definition
        (bulletsFrom table offset n (attributes.map (writtenBullet m))) = (read, []) ∧
      read.map Attribute.unplaced = attributes.map Attribute.unplaced := by
  induction attributes generalizing n with
  | nil => exact ⟨[], rfl, rfl⟩
  | cons a more ih =>
    rw [List.map_cons, List.flatMap_cons] at hs
    obtain ⟨own, later⟩ := hs.append
    have next : Stands table (n + 1 + (writtenBullet m a).2.length + offset)
        ((more.map (writtenBullet m)).flatMap bulletLines) := by
      have place : n + offset + (bulletLines (writtenBullet m a)).length =
          n + 1 + (writtenBullet m a).2.length + offset := by
        rw [bulletLines, List.length_cons, List.length_map]
        omega
      rwa [place] at later
    obtain ⟨b, first, same⟩ := readAttribute_bulletAt definition (h a List.mem_cons_self) own
    obtain ⟨rest, read, alike⟩ := ih (fun x hx => h x (List.mem_cons_of_mem _ hx)) next
    refine ⟨b :: rest, ?_, by rw [List.map_cons, List.map_cons, same, alike]⟩
    rw [List.map_cons, bulletsFrom, readAttributes, first, read]
    rfl

end

end DocModel
