import DocModel.Proofs.Model.Kinds
import DocModel.Proofs.Splitting
import DocModel.Proofs.Validation.Forms
import DocModel.Target.Markdown
import Mathlib.Data.List.Chain

/-!
# DocModel.Proofs.Dialect.TypeValue

Types in the normal form are read back: `typeValue_typeText` says that the text of the types of an
attribute gives exactly these types and whether there is a list of them. The types only have to be
written in letters, digits and underscores (`WrittenType`); names of definitions and spellings of
primitive types are.

The mark of a list, a pair of brackets, occurs nowhere else in the text: a link has a label between
its brackets (`Unpaired`).
-/

namespace DocModel
namespace Dialect

open Text Validation Target.Markdown

/-! ## Pairs of brackets -/

/-- A text without a pair of brackets. -/
def Unpaired : List Char → Prop := List.IsChain fun x y => ¬ (x = '[' ∧ y = ']')

theorem unpaired_of_forall {cs : List Char} (h : ∀ c ∈ cs, c ≠ '[') : Unpaired cs := by
  induction cs with
  | nil => exact List.IsChain.nil
  | cons c rest ih =>
    have hr : Unpaired rest := ih fun d hd => h d (List.mem_cons_of_mem c hd)
    refine hr.cons fun y _ hxy => ?_
    exact h c List.mem_cons_self hxy.1

theorem Unpaired.append {before after : List Char} (hb : Unpaired before) (ha : Unpaired after)
    (h : before.getLast? ≠ some '[' ∨ after.head? ≠ some ']') : Unpaired (before ++ after) := by
  refine List.IsChain.append hb ha fun x hx y hy hxy => ?_
  obtain ⟨rfl, rfl⟩ := hxy
  rcases h with h | h
  · exact h hx
  · exact h hy

theorem contains_pair_of_unpaired {cs : List Char} (h : Unpaired cs) :
    contains ['[', ']'] cs = false := by
  induction cs with
  | nil => rfl
  | cons c rest ih =>
    have hr : contains ['[', ']'] rest = false := ih h.tail
    cases rest with
    | nil => simp [contains, List.isPrefixOf]
    | cons d more =>
      have hcd : ¬ (c = '[' ∧ d = ']') := h.rel_head? rfl
      by_cases hc : c = '['
      · have hd : ¬ ']' = d := fun e => hcd ⟨hc, e.symm⟩
        simp [contains, List.isPrefixOf, hc, hd] at hr ⊢
        exact hr
      · have hc' : ¬ '[' = c := fun e => hc e.symm
        simp [contains, List.isPrefixOf, hc'] at hr ⊢
        exact hr

theorem contains_append_pair (cs : List Char) : contains ['[', ']'] (cs ++ ['[', ']']) = true := by
  induction cs with
  | nil => decide
  | cons c rest ih => simp [contains, ih]

theorem removePairs_of_unpaired {cs : List Char} (h : Unpaired cs) :
    removePairs '[' ']' cs = cs := by
  induction cs with
  | nil => rfl
  | cons c rest ih =>
    have hr : removePairs '[' ']' rest = rest := ih h.tail
    cases rest with
    | nil => rfl
    | cons d more =>
      have hcd : ¬ (c = '[' ∧ d = ']') := h.rel_head? rfl
      simp [removePairs, hcd, hr]

theorem removePairs_append_pair {cs : List Char} (h : Unpaired cs) :
    removePairs '[' ']' (cs ++ ['[', ']']) = cs := by
  induction cs with
  | nil => rfl
  | cons c rest ih =>
    cases rest with
    | nil => simp [removePairs]
    | cons d more =>
      have hcd : ¬ (c = '[' ∧ d = ']') := h.rel_head? rfl
      have hr := ih h.tail
      rw [List.cons_append] at hr
      simp [removePairs, hcd, hr]

/-! ## One type -/

/-- A type written in letters, digits and underscores, the first of which is a letter. -/
abbrev WrittenType (dtype : String) : Prop := DefinitionName dtype.toList

theorem wordChar_toLower {c : Char} (h : WordChar c) : WordChar c.toLower :=
  isWordChar_iff.1 (h.of_ascii (p := fun c => isWordChar c.toLower = true) (by decide))

theorem WrittenType.wordChar {dtype : String} (h : WrittenType dtype) :
    ∀ c ∈ dtype.toList, WordChar c :=
  definitionName_wordChar h

/-- What is no character of a word does not occur in a type. -/
theorem WrittenType.ne_of_not_wordChar {dtype : String} (h : WrittenType dtype) {c d : Char}
    (hd : isWordChar d = false) (hc : c ∈ dtype.toList) : c ≠ d := by
  rintro rfl
  have := isWordChar_iff.2 (h.wordChar c hc)
  rw [hd] at this
  cases this

theorem WrittenType.trimmed {dtype : String} (h : WrittenType dtype) : Trimmed dtype.toList :=
  trimmed_of_forall fun c hc => wordChar_not_white (h.wordChar c hc)

theorem lowercaseAfter_wordChar (before : List Char) {cs : List Char}
    (h : ∀ c ∈ cs, WordChar c) : ∀ c ∈ Unicode.lowercaseAfter before cs, WordChar c := by
  induction cs generalizing before with
  | nil => intro c hc; cases hc
  | cons d rest ih =>
    intro c hc
    have hd : WordChar d := h d List.mem_cons_self
    have high := (wordChar_bounds hd).2
    have sigma : (d == 'Σ') = false := by
      rw [beq_eq_false_iff_ne]
      rintro rfl
      exact absurd high (by decide)
    simp only [Unicode.lowercaseAfter, sigma, Unicode.toLower, high, if_true, if_false,
      Bool.false_eq_true, List.mem_append, List.mem_singleton] at hc
    rcases hc with rfl | hc
    · exact wordChar_toLower hd
    · exact ih _ (fun x hx => h x (List.mem_cons_of_mem d hx)) c hc

/-- The anchor of a type is a hash and characters of words. -/
theorem toList_headingAnchor {dtype : String} (h : WrittenType dtype) :
    ∃ fragment, (headingAnchor dtype).toList = '#' :: fragment ∧ ∀ c ∈ fragment, WordChar c := by
  refine ⟨Unicode.lowercase dtype.toList, ?_, lowercaseAfter_wordChar [] h.wordChar⟩
  simp [headingAnchor, onChars]

/-- A type in the normal form is its name, or a link with its name as label. -/
theorem toList_typeLink (m : DataModel) {dtype : String} (h : WrittenType dtype) :
    (typeLink m dtype).toList = dtype.toList ∨ ∃ fragment, (∀ c ∈ fragment, WordChar c) ∧
      (typeLink m dtype).toList =
        '[' :: (dtype.toList ++ ']' :: '(' :: '#' :: (fragment ++ [')'])) := by
  obtain ⟨fragment, ha, hf⟩ := toList_headingAnchor h
  have link : ("[" ++ dtype ++ "](" ++ headingAnchor dtype ++ ")").toList =
      '[' :: (dtype.toList ++ ']' :: '(' :: '#' :: (fragment ++ [')'])) := by
    simp [String.toList_append, ha]
  rw [typeLink]
  obtain ⟨-, -, kind⟩ | ⟨-, -, -, kind⟩ | ⟨-, -, ⟨_, kind⟩ | kind⟩ := m.classify_cases dtype <;>
    rw [kind]
  · exact .inr ⟨fragment, hf, link⟩
  · exact .inr ⟨fragment, hf, link⟩
  · exact .inl rfl
  · exact .inl rfl

theorem linkLabel?_link {label target : List Char} (hne : label ≠ [])
    (hl : ∀ c ∈ label, c ≠ ']') (ht : ∀ c ∈ target, c ≠ ')') :
    linkLabel? ('[' :: (label ++ ']' :: '(' :: (target ++ [')']))) = some label := by
  have taken : (label ++ ']' :: '(' :: (target ++ [')'])).takeWhile (· != ']') = label := by
    rw [List.takeWhile_append_of_pos (by simpa using hl)]
    simp
  have dropped : (target ++ [')']).dropWhile (· != ')') = [')'] := by
    rw [List.dropWhile_append_of_pos (by simpa using ht)]
    simp
  simp [linkLabel?, taken, dropped, hne]

theorem linkLabel?_eq_none {text : List Char} (h : ∀ c ∈ text, c ≠ '[') :
    linkLabel? text = none := by
  cases text with
  | nil => rfl
  | cons c rest =>
    have hc : c ≠ '[' := h c List.mem_cons_self
    simp [linkLabel?, hc]

theorem typeName_typeLink (m : DataModel) {dtype : String} (h : WrittenType dtype) :
    typeName (typeLink m dtype).toList = dtype.toList := by
  rcases toList_typeLink m h with he | ⟨fragment, hf, he⟩
  · have none : linkLabel? dtype.toList = none :=
      linkLabel?_eq_none fun c hc => h.ne_of_not_wordChar (by decide) hc
    have bare : Bare (· == '\x60') dtype.toList :=
      ⟨fun c hc => by simpa using h.ne_of_not_wordChar (by decide) (List.mem_of_mem_head? hc),
        fun c hc => by simpa using h.ne_of_not_wordChar (by decide) (List.mem_of_mem_getLast? hc)⟩
    rw [he, typeName, none]
    exact bare.trimWhere
  · have target : ∀ c ∈ '#' :: fragment, c ≠ ')' := by
      intro c hc
      rcases List.mem_cons.1 hc with rfl | hc
      · decide
      · rintro rfl
        exact absurd (isWordChar_iff.2 (hf _ hc)) (by decide)
    have label := linkLabel?_link h.ne_nil
      (fun c hc => h.ne_of_not_wordChar (d := ']') (by decide) hc) target
    rw [List.cons_append] at label
    rw [he, typeName, label]
    exact h.trimmed

/-- What holds of the characters of words and of the marks of a link holds of every character of
a type in the normal form. -/
theorem forall_mem_typeLink (m : DataModel) {dtype : String} (h : WrittenType dtype)
    {p : Char → Prop} (hw : ∀ c, WordChar c → p c) (hm : ∀ c ∈ ['[', ']', '(', '#', ')'], p c) :
    ∀ c ∈ (typeLink m dtype).toList, p c := by
  intro c hc
  rcases toList_typeLink m h with he | ⟨fragment, hf, he⟩
  · rw [he] at hc
    exact hw c (h.wordChar c hc)
  · rw [he] at hc
    simp only [List.mem_cons, List.mem_append, List.not_mem_nil, or_false] at hc
    rcases hc with rfl | hc | rfl | rfl | rfl | hc | rfl
    · exact hm _ (by decide)
    · exact hw c (h.wordChar c hc)
    · exact hm _ (by decide)
    · exact hm _ (by decide)
    · exact hm _ (by decide)
    · exact hw c (hf c hc)
    · exact hm _ (by decide)

theorem typeLink_ne_nil (m : DataModel) {dtype : String} (h : WrittenType dtype) :
    (typeLink m dtype).toList ≠ [] := by
  rcases toList_typeLink m h with he | ⟨fragment, -, he⟩
  · rw [he]; exact h.ne_nil
  · rw [he]; exact List.cons_ne_nil _ _

theorem typeLink_trimmed (m : DataModel) {dtype : String} (h : WrittenType dtype) :
    Trimmed (typeLink m dtype).toList :=
  trimmed_of_forall
    (forall_mem_typeLink m h (fun _ => wordChar_not_white) (forall_mem_of_all (by decide)))

theorem typeLink_unpaired (m : DataModel) {dtype : String} (h : WrittenType dtype) :
    Unpaired (typeLink m dtype).toList := by
  rcases toList_typeLink m h with he | ⟨fragment, hf, he⟩
  · rw [he]
    exact unpaired_of_forall fun c hc => h.ne_of_not_wordChar (by decide) hc
  · have inner : Unpaired (dtype.toList ++ ']' :: '(' :: '#' :: (fragment ++ [')'])) := by
      refine unpaired_of_forall fun c hc => ?_
      have word : WordChar c → c ≠ '[' := by
        rintro hw rfl
        exact absurd (isWordChar_iff.2 hw) (by decide)
      simp only [List.mem_cons, List.mem_append, List.not_mem_nil, or_false] at hc
      rcases hc with hc | rfl | rfl | rfl | hc | rfl
      · exact word (h.wordChar c hc)
      · decide
      · decide
      · decide
      · exact word (hf c hc)
      · decide
    rw [he]
    refine inner.cons fun y hy hxy => ?_
    -- the label is not empty, so its bracket does not close at once
    obtain ⟨c, rest, hc⟩ := List.exists_cons_of_ne_nil h.ne_nil
    rw [hc] at hy
    cases hy
    exact h.ne_of_not_wordChar (d := ']') (by decide) (by rw [hc]; exact List.mem_cons_self) hxy.2

/-! ## All types of an attribute -/

theorem unpaired_intercalate {pieces : List (List Char)} (hp : ∀ piece ∈ pieces, Unpaired piece) :
    Unpaired ([' ', '|', ' '].intercalate pieces) := by
  induction pieces with
  | nil => exact List.IsChain.nil
  | cons piece rest ih =>
    have hr := ih fun x hx => hp x (List.mem_cons_of_mem piece hx)
    cases rest with
    | nil =>
      rw [List.intercalate_singleton]
      exact hp piece List.mem_cons_self
    | cons next more =>
      rw [List.intercalate_cons_cons, List.append_assoc]
      have bar : Unpaired [' ', '|', ' '] := unpaired_of_forall (forall_mem_of_all (by decide))
      exact (hp piece List.mem_cons_self).append (bar.append hr (.inl (by decide)))
        (.inr (by simp))

/-- The types of an attribute in the normal form. -/
def typePieces (m : DataModel) (dtypes : List String) : List (List Char) :=
  dtypes.map fun dtype => (typeLink m dtype).toList

theorem exists_of_mem_typePieces {m : DataModel} {dtypes : List String}
    (h : ∀ dtype ∈ dtypes, WrittenType dtype) {piece : List Char}
    (hp : piece ∈ typePieces m dtypes) :
    ∃ dtype, WrittenType dtype ∧ (typeLink m dtype).toList = piece := by
  obtain ⟨dtype, hd, rfl⟩ := List.mem_map.1 hp
  exact ⟨dtype, h dtype hd, rfl⟩

/-- The types of an attribute stand between bars, with the mark of a list after them. -/
theorem toList_typeText {m : DataModel} {a : Attribute} {text : String}
    (h : typeText? m a = some text) :
    text.toList = [' ', '|', ' '].intercalate (typePieces m a.dtypes)
      ++ (if a.multiple then ['[', ']'] else []) := by
  have joined : (String.intercalate " | " (a.dtypes.map (typeLink m))).toList =
      [' ', '|', ' '].intercalate (typePieces m a.dtypes) := by
    simp [typePieces, String.toList_intercalate, Function.comp_def]
  rw [typeText?] at h
  split at h
  · cases h
  · cases h
    rw [String.toList_append, joined]
    cases a.multiple <;> rfl

/-- The types of an attribute, with bars between them, are read back one by one. -/
theorem typeNames_intercalate (m : DataModel) {dtypes : List String}
    (h : ∀ dtype ∈ dtypes, WrittenType dtype) :
    ((((splitWhere (fun c => c == '|' || c == ',')
      ([' ', '|', ' '].intercalate (typePieces m dtypes))).map trim).filter
        (!·.isEmpty)).map fun name => String.ofList (typeName name)) = dtypes := by
  cases dtypes with
  | nil => rfl
  | cons first more =>
    rw [map_trim_splitWhere_intercalate (by decide) (by decide) (by simp [typePieces])]
    · rw [List.filter_eq_self.2, typePieces, List.map_map]
      · refine (List.map_congr_left fun dtype hd => ?_).trans (List.map_id _)
        simp [typeName_typeLink m (h dtype hd)]
      · intro piece hp
        obtain ⟨dtype, hd, rfl⟩ := exists_of_mem_typePieces h hp
        simpa using typeLink_ne_nil m hd
    · intro piece hp
      obtain ⟨dtype, hd, rfl⟩ := exists_of_mem_typePieces h hp
      refine forall_mem_typeLink m hd (fun c hw => ?_) (forall_mem_of_all (by decide))
      rw [Bool.or_eq_false_iff, beq_eq_false_iff_ne, beq_eq_false_iff_ne]
      constructor
      · rintro rfl
        exact absurd (isWordChar_iff.2 hw) (by decide)
      · rintro rfl
        exact absurd (isWordChar_iff.2 hw) (by decide)
    · intro piece hp
      obtain ⟨dtype, hd, rfl⟩ := exists_of_mem_typePieces h hp
      exact typeLink_trimmed m hd

/-- The text of the types of an attribute gives these types, and whether it is a list. -/
theorem typeValue_typeText {m : DataModel} {a : Attribute} {text : String}
    (h : ∀ dtype ∈ a.dtypes, WrittenType dtype) (ht : typeText? m a = some text) :
    typeValue text.toList = (a.dtypes, a.multiple) := by
  have unpaired : Unpaired ([' ', '|', ' '].intercalate (typePieces m a.dtypes)) := by
    refine unpaired_intercalate fun piece hp => ?_
    obtain ⟨dtype, hd, rfl⟩ := exists_of_mem_typePieces h hp
    exact typeLink_unpaired m hd
  rw [toList_typeText ht]
  cases a.multiple with
  | true =>
    simp only [if_true, typeValue, removePairs_append_pair unpaired, contains_append_pair,
      typeNames_intercalate m h]
  | false =>
    simp only [Bool.false_eq_true, if_false, List.append_nil, typeValue,
      removePairs_of_unpaired unpaired, contains_pair_of_unpaired unpaired,
      typeNames_intercalate m h]

theorem typeText_trimmed {m : DataModel} {a : Attribute} {text : String}
    (h : ∀ dtype ∈ a.dtypes, WrittenType dtype) (ht : typeText? m a = some text) :
    Trimmed text.toList := by
  have joined : Trimmed ([' ', '|', ' '].intercalate (typePieces m a.dtypes)) := by
    refine trimmed_intercalate (fun piece hp => ?_) fun piece hp => ?_
    · obtain ⟨dtype, hd, rfl⟩ := exists_of_mem_typePieces h hp
      exact typeLink_trimmed m hd
    · obtain ⟨dtype, hd, rfl⟩ := exists_of_mem_typePieces h hp
      exact typeLink_ne_nil m hd
  rw [toList_typeText ht]
  cases a.multiple with
  | false => simpa using joined
  | true =>
    by_cases hn : [' ', '|', ' '].intercalate (typePieces m a.dtypes) = []
    · rw [hn]; decide
    · have pair : Trimmed ['[', ']'] := by decide
      simpa using trimmed_append joined pair hn (by decide) []

/-- The text of the types of an attribute is on one line. -/
theorem typeText_single {m : DataModel} {a : Attribute} {text : String}
    (h : ∀ dtype ∈ a.dtypes, WrittenType dtype) (ht : typeText? m a = some text) :
    ∀ c ∈ text.toList, c ≠ '\n' := by
  rw [toList_typeText ht]
  intro c hc
  rcases List.mem_append.1 hc with hc | hc
  · refine forall_mem_intercalate (p := (· ≠ '\n')) (forall_mem_of_all (by decide))
      (fun piece hp => ?_) c hc
    obtain ⟨dtype, hd, rfl⟩ := exists_of_mem_typePieces h hp
    refine forall_mem_typeLink m hd (fun d hw => ?_) (forall_mem_of_all (by decide))
    rintro rfl
    exact absurd (isWordChar_iff.2 hw) (by decide)
  · split at hc
    · simp only [List.mem_cons, List.not_mem_nil, or_false] at hc
      rcases hc with rfl | rfl
      · decide
      · decide
    · cases hc

/-- The text of the types of an attribute is not empty. -/
theorem typeText_ne_empty {m : DataModel} {a : Attribute} {text : String}
    (h : ∀ dtype ∈ a.dtypes, WrittenType dtype) (ht : typeText? m a = some text) :
    text ≠ "" := by
  rintro rfl
  have empty := toList_typeText ht
  rw [String.toList_empty, eq_comm, List.append_eq_nil_iff] at empty
  obtain ⟨joined, mark⟩ := empty
  have single : a.multiple = false := by
    cases hm : a.multiple with
    | false => rfl
    | true => simp [hm] at mark
  cases hd : a.dtypes with
  | nil => simp [typeText?, hd, single] at ht
  | cons dtype more =>
    have hne := typeLink_ne_nil m (h dtype (by simp [hd]))
    simp only [typePieces, hd, List.map_cons] at joined
    cases more with
    | nil => exact absurd joined (by simpa using hne)
    | cons _ _ => simp [List.intercalate_cons_cons] at joined

end Dialect
end DocModel
