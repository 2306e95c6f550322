import DocModel.Proofs.Julia.Literals
import DocModel.Proofs.Rust.MemberValues
import DocModel.Target.Python

/-!
# DocModel.Proofs.Python.StringLiterals

Texts as string literals of Python.

* `literalFrom` reads a literal between two quotes with all escapes of the language. A backslash in
  front of a character that is no escape stands for itself;
* values are codes, as an escape may stand for a code that belongs to no character;
* what is written for a text is read back as its codes (`literalFrom_textLiteral`). Only a null
  character spoils it, which no program of the language may contain.
-/

namespace DocModel
namespace Target.Python

open Text

/-! ## Escapes of the language -/

def codes (text : List Char) : List Nat := text.map Char.toNat

/-- The character that one character behind a backslash stands for. -/
def escapedChar? : Char → Option Char
  | '\\' => some '\\'
  | '\'' => some '\''
  | '"' => some '"'
  | 'a' => some '\x07'
  | 'b' => some '\x08'
  | 'f' => some '\x0c'
  | 'n' => some '\n'
  | 'r' => some '\r'
  | 't' => some '\t'
  | 'v' => some '\x0b'
  | _ => none

/-- Whether a character may stand in the name of a character. -/
def isNameChar (c : Char) : Bool := c.isAlphanum || c == ' ' || c == '-'

section

-- the codes of the characters that have a name
variable (named : List Char → Option Nat)

/-- The code of so many hexadecimal digits, and what follows them. -/
def hexCode? (count : Nat) (text : List Char) : Option (List Nat × List Char) :=
  match Toml.hexNumber? count 0 text with
  | some (n, rest) => if n < 0x110000 then some ([n], rest) else none
  | none => none

/-- The code of the character with the name between braces, and what follows them. -/
def namedCode? : List Char → Option (List Nat × List Char)
  | '\x7b' :: text =>
    match splitOnce '\x7d' text with
    | some (name, rest) =>
      if name.all isNameChar then (named name).map fun n => ([n], rest) else none
    | none => none
  | _ => none

/-- The codes that a backslash and the text behind it stand for, and what comes next. -/
def escape? : List Char → Option (List Nat × List Char)
  | [] => none
  | '\r' :: '\n' :: rest => some ([], rest)
  | '\x00' :: _ => none
  | 'x' :: rest => hexCode? 2 rest
  | 'u' :: rest => hexCode? 4 rest
  | 'U' :: rest => hexCode? 8 rest
  | 'N' :: rest => namedCode? named rest
  | c :: rest =>
    if c == '\n' || c == '\r' then some ([], rest)
    else
      match Julia.number? 8 2 (c :: rest) with
      | some (n, after) => some ([n], after)
      | none =>
        match escapedChar? c with
        | some d => some ([d.toNat], rest)
        | none => some (codes ['\\', c], rest)

variable {named}

theorem suffix_of_hexCode? {count : Nat} {text after : List Char} {value : List Nat}
    (h : hexCode? count text = some (value, after)) : after <:+ text := by
  rw [hexCode?] at h
  split at h
  · next n rest found =>
    split at h
    · cases h
      exact Rust.suffix_of_hexNumber? found
    · cases h
  · cases h

theorem suffix_of_namedCode? {text after : List Char} {value : List Nat}
    (h : namedCode? named text = some (value, after)) : after <:+ text := by
  rw [namedCode?.eq_def] at h
  split at h
  · split at h
    · next name rest found =>
      split at h
      · obtain ⟨_, -, same⟩ := Option.map_eq_some_iff.1 h
        cases same
        exact (suffix_of_splitOnce found).trans (List.suffix_cons _ _)
      · cases h
    · cases h
  · cases h

theorem suffix_of_escape? {text after : List Char} {value : List Nat}
    (h : escape? named text = some (value, after)) : after <:+ text := by
  rw [escape?.eq_def] at h
  split at h
  · cases h
  · cases h
    exact ⟨['\r', '\n'], rfl⟩
  · cases h
  · exact (suffix_of_hexCode? h).trans (List.suffix_cons _ _)
  · exact (suffix_of_hexCode? h).trans (List.suffix_cons _ _)
  · exact (suffix_of_hexCode? h).trans (List.suffix_cons _ _)
  · exact (suffix_of_namedCode? h).trans (List.suffix_cons _ _)
  · split at h
    · cases h
      exact List.suffix_cons _ _
    · split at h
      · next n rest found =>
        cases h
        obtain ⟨d, digits, same, -⟩ := Julia.digits_of_number? found
        exact ⟨d :: digits, same.symm⟩
      · split at h <;> cases h <;> exact List.suffix_cons _ _

/-! ## Literals -/

variable (named)

/-- The value of a literal from behind its opening quote to its closing one, and what follows. -/
def stringFrom : List Char → Option (List Nat × List Char)
  | [] => none
  | '"' :: rest => some ([], rest)
  | '\\' :: rest =>
    match _h : escape? named rest with
    | some (front, after) =>
      (stringFrom after).map fun (value, more) => (front ++ value, more)
    | none => none
  | c :: rest =>
    if c == '\n' || c == '\r' || c == '\x00' then none
    else (stringFrom rest).map fun (value, more) => (c.toNat :: value, more)
termination_by text => text.length
decreasing_by
  · have shorter := (suffix_of_escape? ‹escape? named rest = some (front, after)›).length_le
    rw [List.length_cons]
    omega
  · exact Nat.lt_succ_self _

/-- The value of a literal between two quotes, and what follows it. Three quotes begin a literal on
several lines. -/
def literalFrom : List Char → Option (List Nat × List Char)
  | '"' :: '"' :: '"' :: _ => none
  | '"' :: rest => stringFrom named rest
  | _ => none

/-! ## What is written for a text -/

/-- A character that stands for itself, or an escape of one character. -/
theorem literalImage_cases (c : Char) :
    (∃ d, literalImage c = ['\\', d] ∧
      ∀ rest, escape? named (d :: rest) = some ([c.toNat], rest)) ∨
      literalImage c = [c] ∧ c ≠ '\\' ∧ c ≠ '"' ∧ c ≠ '\n' ∧ c ≠ '\r' := by
  rw [literalImage.eq_def]
  split
  · exact .inl ⟨'\\', rfl, fun _ => rfl⟩
  · exact .inl ⟨'"', rfl, fun _ => rfl⟩
  · exact .inl ⟨'n', rfl, fun _ => rfl⟩
  · exact .inl ⟨'r', rfl, fun _ => rfl⟩
  · exact .inl ⟨'t', rfl, fun _ => rfl⟩
  · next slash quote feed carriage _ => exact .inr ⟨rfl, slash, quote, feed, carriage⟩

variable {named}

/-- An escaped text in front of a quote is read up to this quote. -/
theorem stringFrom_escaped (text more : List Char) :
    stringFrom named (Julia.escaped text ++ '"' :: more) =
      if '\x00' ∈ text then none else some (codes text, more) := by
  induction text with
  | nil =>
    rw [if_neg List.not_mem_nil, Julia.escaped, List.flatMap_nil, List.nil_append, stringFrom]
    rfl
  | cons c rest ih =>
    rw [Julia.escaped_cons, List.append_assoc]
    rcases literalImage_cases named c with
      ⟨d, image, read⟩ | ⟨image, slash, quote, feed, carriage⟩ <;> rw [image]
    · have other : '\x00' ≠ c := by
        rintro rfl
        cases image
      rw [List.cons_append, List.singleton_append, stringFrom, read]
      simp only [ih, List.mem_cons, other, false_or]
      split <;> rfl
    · rw [List.singleton_append, stringFrom]
      · by_cases null : c = '\x00'
        · subst null
          simp
        · simp only [ih, List.mem_cons, Ne.symm null, false_or, feed, carriage, null, beq_iff_eq,
            Bool.or_eq_true, if_false]
          split <;> rfl
      · exact quote
      · exact slash

/-- What is written for a text is one literal with the codes of the text, whatever follows, unless
another quote does or there is a null character in the text. -/
theorem literalFrom_textLiteral (text : String) {more : List Char} (next : more.head? ≠ some '"') :
    literalFrom named ((textLiteral text).toList ++ more) =
      if '\x00' ∈ text.toList then none else some (codes text.toList, more) := by
  have shown : (textLiteral text).toList ++ more =
      '"' :: (Julia.escaped text.toList ++ '"' :: more) := by
    have quote : "\"".toList = ['"'] := rfl
    rw [textLiteral, escapeString, onChars, String.toList_append, String.toList_append, quote,
      String.toList_ofList, List.append_assoc, List.append_assoc]
    rfl
  -- only an empty text has two quotes in front, and then a third one does not follow
  have single : ∀ rest, Julia.escaped text.toList ++ '"' :: more ≠ '"' :: '"' :: rest := by
    cases text.toList with
    | nil =>
      rintro rest same
      exact next (congrArg List.head? (List.cons.inj same).2)
    | cons c later =>
      intro rest same
      rw [Julia.escaped_cons] at same
      rcases literalImage_cases named c with ⟨d, image, -⟩ | ⟨image, -, quote, -⟩ <;>
        rw [image] at same
      · exact absurd (List.cons.inj same).1 (by decide)
      · exact quote (List.cons.inj same).1
  rw [shown, literalFrom]
  · exact stringFrom_escaped _ _
  · exact single

end

end Target.Python
end DocModel
