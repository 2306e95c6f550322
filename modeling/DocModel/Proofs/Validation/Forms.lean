import DocModel.Proofs.Splitting
import DocModel.Validation.Name

/-!
# DocModel.Proofs.Validation.Forms

The forms of names and terms as grammars, and that the tests of the validator decide them.

* `NameOf` is a character of one class followed by characters of another;
* `DefinitionName`, `AttributeName`, `XmlName` are the names of a model;
* `Uri` and `Curie` are the two forms of a term.
-/

namespace DocModel
namespace Validation

open Text Unicode

def Letter (c : Char) : Prop := ('A' ≤ c ∧ c ≤ 'Z') ∨ ('a' ≤ c ∧ c ≤ 'z')

def Digit (c : Char) : Prop := '0' ≤ c ∧ c ≤ '9'

def WordStart (c : Char) : Prop := Letter c ∨ c = '_'

/-- A letter, a digit or an underscore. -/
def WordChar (c : Char) : Prop := Letter c ∨ Digit c ∨ c = '_'

/-- A character inside a prefix or an XML name. -/
def PrefixChar (c : Char) : Prop := WordChar c ∨ c = '.' ∨ c = '-'

/-- A character inside the scheme of a URI. -/
def SchemeChar (c : Char) : Prop := Letter c ∨ Digit c ∨ c = '+' ∨ c = '.' ∨ c = '-'

/-- A character of one class, then characters of another. -/
inductive NameOf (first later : Char → Prop) : List Char → Prop where
  | mk {c : Char} {rest : List Char} :
      first c → (∀ d ∈ rest, later d) → NameOf first later (c :: rest)

def DefinitionName : List Char → Prop := NameOf Letter WordChar

def AttributeName : List Char → Prop := NameOf WordStart WordChar

/-- A prefix, or a part of an XML name. -/
def PrefixName : List Char → Prop := NameOf WordStart PrefixChar

/-- A text that is not empty and has no white space. -/
def Solid (text : List Char) : Prop := text ≠ [] ∧ ∀ c ∈ text, isWhiteSpace c = false

/-- A scheme, a colon, two slashes and a rest. -/
def Uri (term : List Char) : Prop :=
  ∃ scheme rest, term = scheme ++ ':' :: '/' :: '/' :: rest ∧ NameOf Letter SchemeChar scheme
    ∧ Solid rest

/-- A prefix, a colon and a rest. -/
def Curie (name term : List Char) : Prop :=
  ∃ rest, term = name ++ ':' :: rest ∧ PrefixName name ∧ Solid rest

/-- A name, or two names with a colon between them. -/
def XmlName (text : List Char) : Prop :=
  PrefixName text ∨ ∃ space name, text = space ++ ':' :: name ∧ PrefixName space ∧ PrefixName name

/-! ## Classes of characters -/

theorem isAlpha_iff {c : Char} : c.isAlpha = true ↔ Letter c := by
  have classes : c.isAlpha =
      (decide (c.val ≥ 'A'.val ∧ c.val ≤ 'Z'.val) ||
        (decide (c.val ≥ 'a'.val) && decide (c.val ≤ 'z'.val))) := rfl
  rw [classes]
  simp only [Letter, Char.le_def, Bool.or_eq_true, Bool.and_eq_true, decide_eq_true_eq, ge_iff_le]

theorem isDigit_iff {c : Char} : c.isDigit = true ↔ Digit c := by
  simp only [Char.isDigit, Digit, Char.le_def, Bool.and_eq_true, decide_eq_true_eq, ge_iff_le]

theorem isWordChar_iff {c : Char} : isWordChar c = true ↔ WordChar c := by
  simp [isWordChar, WordChar, Char.isAlphanum, isAlpha_iff, isDigit_iff, or_assoc]

theorem isLetterOrUnderscore_iff {c : Char} : isLetterOrUnderscore c = true ↔ WordStart c := by
  simp [isLetterOrUnderscore, WordStart, isAlpha_iff]

theorem isPrefixChar_iff {c : Char} : isPrefixChar c = true ↔ PrefixChar c := by
  simp [isPrefixChar, PrefixChar, isWordChar_iff, or_assoc]

theorem isSchemeChar_iff {c : Char} : isSchemeChar c = true ↔ SchemeChar c := by
  simp [isSchemeChar, SchemeChar, Char.isAlphanum, isAlpha_iff, isDigit_iff, or_assoc]

theorem not_prefixChar_colon : ¬ PrefixChar ':' := by
  rw [← isPrefixChar_iff]; decide

theorem not_schemeChar_colon : ¬ SchemeChar ':' := by
  rw [← isSchemeChar_iff]; decide

theorem WordStart.prefixChar {c : Char} (h : WordStart c) : PrefixChar c := by
  rcases h with h | h
  · exact .inl (.inl h)
  · exact .inl (.inr (.inr h))

theorem Letter.schemeChar {c : Char} (h : Letter c) : SchemeChar c := .inl h

theorem wordChar_bounds {c : Char} (h : WordChar c) : 0x30 ≤ c.toNat ∧ c.toNat < 0x80 := by
  rcases h with (⟨h1, h2⟩ | ⟨h1, h2⟩) | ⟨h1, h2⟩ | h
  · exact ⟨Nat.le_trans (by decide) h1, Nat.lt_of_le_of_lt h2 (by decide)⟩
  · exact ⟨Nat.le_trans (by decide) h1, Nat.lt_of_le_of_lt h2 (by decide)⟩
  · exact ⟨h1, Nat.lt_of_le_of_lt h2 (by decide)⟩
  · subst h; decide

theorem wordChar_not_white {c : Char} (h : WordChar c) : Unicode.isWhiteSpace c = false := by
  obtain ⟨low, high⟩ := wordChar_bounds h
  simp only [Unicode.isWhiteSpace, high, if_true, Bool.or_eq_false_iff, beq_eq_false_iff_ne,
    Bool.and_eq_false_iff, decide_eq_false_iff_not]
  omega

/-- What is tested of the characters of ASCII holds of letters, digits and underscores. -/
theorem WordChar.of_ascii {p : Char → Prop}
    (ascii : ∀ n < 0x80, isWordChar (Char.ofNat n) = true → p (Char.ofNat n)) {c : Char}
    (h : WordChar c) : p c := by
  have hc := ascii c.toNat (wordChar_bounds h).2
  rw [Char.ofNat_toNat] at hc
  exact hc (isWordChar_iff.2 h)

/-! ## Names -/

theorem isNameOf_iff {first later : Char → Bool} {First Later : Char → Prop}
    (hf : ∀ c, first c = true ↔ First c) (hl : ∀ c, later c = true ↔ Later c)
    {text : List Char} : isNameOf first later text = true ↔ NameOf First Later text := by
  cases text with
  | nil =>
    constructor
    · intro h; simp [isNameOf] at h
    · intro h; cases h
  | cons c rest =>
    simp only [isNameOf, Bool.and_eq_true, List.all_eq_true, hf, hl]
    constructor
    · rintro ⟨hc, hr⟩
      exact .mk hc hr
    · intro h
      cases h with
      | mk hc hr => exact ⟨hc, hr⟩

theorem NameOf.forall_mem {first later : Char → Prop} (hle : ∀ c, first c → later c)
    {text : List Char} (h : NameOf first later text) : ∀ c ∈ text, later c := by
  cases h with
  | mk hc hr =>
    intro d hd
    rcases List.mem_cons.1 hd with rfl | hd
    · exact hle d hc
    · exact hr d hd

theorem NameOf.exists_head? {first later : Char → Prop} {text : List Char}
    (h : NameOf first later text) : ∃ c ∈ text.head?, first c := by
  cases h with
  | mk hc _ => exact ⟨_, rfl, hc⟩

theorem NameOf.of_head? {first later : Char → Prop} {text : List Char} {c : Char}
    (begun : c ∈ text.head?) (hc : first c) (hl : ∀ d ∈ text, later d) :
    NameOf first later text := by
  obtain ⟨rest, rfl⟩ := List.head?_eq_some_iff.1 begun
  exact .mk hc fun d hd => hl d (List.mem_cons_of_mem c hd)

theorem NameOf.ne_nil {first later : Char → Prop} {text : List Char}
    (h : NameOf first later text) : text ≠ [] := by
  cases h; simp

theorem isDefinitionName_iff {text : List Char} :
    isDefinitionName text = true ↔ DefinitionName text :=
  isNameOf_iff (fun _ => isAlpha_iff) (fun _ => isWordChar_iff)

theorem isAttributeName_iff {text : List Char} :
    isAttributeName text = true ↔ AttributeName text :=
  isNameOf_iff (fun _ => isLetterOrUnderscore_iff) (fun _ => isWordChar_iff)

theorem definitionName_wordChar {name : List Char} (h : DefinitionName name) :
    ∀ c ∈ name, WordChar c :=
  h.forall_mem fun _ => .inl

theorem attributeName_wordChar {name : List Char} (h : AttributeName name) :
    ∀ c ∈ name, WordChar c :=
  h.forall_mem fun _ hc => hc.elim .inl fun hu => .inr (.inr hu)

theorem isPrefixName_iff {text : List Char} : isPrefixName text = true ↔ PrefixName text :=
  isNameOf_iff (fun _ => isLetterOrUnderscore_iff) (fun _ => isPrefixChar_iff)

theorem PrefixName.colon_not_mem {text : List Char} (h : PrefixName text) : ':' ∉ text :=
  fun hm => not_prefixChar_colon (h.forall_mem (fun _ => WordStart.prefixChar) _ hm)

theorem isSolid_iff {text : List Char} : isSolid text = true ↔ Solid text := by
  simp [isSolid, Solid]

theorem isXmlName_iff {text : List Char} : isXmlName text = true ↔ XmlName text := by
  rw [isXmlName, XmlName]
  cases h : splitOnce ':' text with
  | none =>
    have hno : ':' ∉ text := splitOnce_eq_none_iff.1 h
    rw [isPrefixName_iff]
    refine ⟨.inl, ?_⟩
    rintro (hp | ⟨space, name, rfl, -⟩)
    · exact hp
    · simp at hno
  | some parts =>
    obtain ⟨space, name⟩ := parts
    obtain ⟨rfl, hno⟩ := splitOnce_eq_some_iff.1 h
    simp only [Bool.and_eq_true, isPrefixName_iff]
    constructor
    · rintro ⟨hs, hn⟩
      exact .inr ⟨space, name, rfl, hs, hn⟩
    · rintro (hp | ⟨space', name', he, hs, hn⟩)
      · exact absurd (by simp) hp.colon_not_mem
      · have hsplit := splitOnce_append hs.colon_not_mem name'
        rw [← he, h] at hsplit
        cases hsplit
        exact ⟨hs, hn⟩

/-! ## Terms -/

theorem isUri_iff {term : List Char} : isUri term = true ↔ Uri term := by
  have scheme_iff {scheme : List Char} :
      isNameOf Char.isAlpha isSchemeChar scheme = true ↔ NameOf Letter SchemeChar scheme :=
    isNameOf_iff (fun _ => isAlpha_iff) (fun _ => isSchemeChar_iff)
  constructor
  · intro h
    simp only [isUri] at h
    split at h
    · next scheme rest hs =>
      obtain ⟨rfl, -⟩ := splitOnce_eq_some_iff.1 hs
      simp only [Bool.and_eq_true, scheme_iff, isSolid_iff] at h
      exact ⟨scheme, rest, rfl, h.1, h.2⟩
    · cases h
  · rintro ⟨scheme, rest, rfl, hs, hr⟩
    have hno : ':' ∉ scheme := fun hm =>
      not_schemeChar_colon (hs.forall_mem (fun _ => Letter.schemeChar) _ hm)
    simp [isUri, splitOnce_append hno, scheme_iff.2 hs, isSolid_iff.2 hr]

theorem curiePrefix?_eq_some_iff {term name : List Char} :
    curiePrefix? term = some name ↔ Curie name term := by
  constructor
  · intro h
    simp only [curiePrefix?] at h
    split at h
    · next name' rest hs =>
      obtain ⟨rfl, -⟩ := splitOnce_eq_some_iff.1 hs
      split at h
      · next hb =>
        cases h
        simp only [Bool.and_eq_true, isPrefixName_iff, isSolid_iff] at hb
        exact ⟨rest, rfl, hb.1, hb.2⟩
      · cases h
    · cases h
  · rintro ⟨rest, rfl, hn, hr⟩
    simp [curiePrefix?, splitOnce_append hn.colon_not_mem, isPrefixName_iff.2 hn,
      isSolid_iff.2 hr]

end Validation
end DocModel
