import DocModel.Number.Decimal
import DocModel.Proofs.Julia.Literals
import DocModel.Proofs.Validation.Forms

/-!
# DocModel.Proofs.Python.Numbers

The numbers of Python, and those that the reader of decimal numbers takes.

* `NumberLiteral` is the grammar of the language: integers in four bases, decimal fractions with an
  exponent or without, and imaginary numbers;
* what is read as a number is one of the language in most cases (`signed_iff_of_read?`): it is none
  if it is an infinity or no number, and a zero in front is refused in an integer, but not in a
  fraction.
-/

namespace DocModel
namespace Target.Python

open Number Validation

/-! ## Numbers of the language -/

/-- Digits, and an underscore between two of them at most. -/
inductive Digits (digit : Char → Prop) : List Char → Prop where
  | one {c : Char} : digit c → Digits digit [c]
  | next {c : Char} {rest : List Char} : digit c → Digits digit rest → Digits digit (c :: rest)
  | group {c : Char} {rest : List Char} :
    digit c → Digits digit rest → Digits digit (c :: '_' :: rest)

def DecimalDigits : List Char → Prop := Digits (·.isDigit)

/-- The marks of bases other than ten. -/
def bases : List (Char × Nat) := [('b', 2), ('B', 2), ('o', 8), ('O', 8), ('x', 16), ('X', 16)]

/-- An integer: a decimal one without a zero in front, zeros only, or one in another base. -/
inductive IntegerLiteral : List Char → Prop where
  | decimal {text : List Char} : DecimalDigits text → text.head? ≠ some '0' → IntegerLiteral text
  | zeros {text : List Char} : Digits (· = '0') text → IntegerLiteral text
  | based {mark : Char} {base : Nat} {group digits : List Char} : (mark, base) ∈ bases →
    group = [] ∨ group = ['_'] → Digits (fun c => (Julia.digit? base c).isSome) digits →
    IntegerLiteral ('0' :: mark :: (group ++ digits))

/-- Digits with a point, in front of them or behind. -/
inductive PointLiteral : List Char → Prop where
  | part {part : List Char} : DecimalDigits part → PointLiteral ('.' :: part)
  | both {whole part : List Char} : DecimalDigits whole → DecimalDigits part →
    PointLiteral (whole ++ '.' :: part)
  | whole {whole : List Char} : DecimalDigits whole → PointLiteral (whole ++ ['.'])

/-- A power of ten. -/
inductive Exponent : List Char → Prop where
  | intro {mark : Char} {sign digits : List Char} : mark = 'e' ∨ mark = 'E' →
    sign = [] ∨ sign = ['+'] ∨ sign = ['-'] → DecimalDigits digits →
    Exponent (mark :: (sign ++ digits))

/-- A decimal fraction has a point or an exponent. -/
inductive FloatLiteral : List Char → Prop where
  | point {text : List Char} : PointLiteral text → FloatLiteral text
  | exponent {text power : List Char} : DecimalDigits text ∨ PointLiteral text → Exponent power →
    FloatLiteral (text ++ power)

/-- A number without a sign. -/
inductive NumberLiteral : List Char → Prop where
  | integer {text : List Char} : IntegerLiteral text → NumberLiteral text
  | float {text : List Char} : FloatLiteral text → NumberLiteral text
  | imaginary {text : List Char} {mark : Char} : DecimalDigits text ∨ FloatLiteral text →
    mark = 'j' ∨ mark = 'J' → NumberLiteral (text ++ [mark])

/-- A text without the sign in front of it. -/
def unsigned : List Char → List Char
  | '-' :: rest => rest
  | '+' :: rest => rest
  | text => text

/-- A number, with a sign in front or without. -/
def Signed (text : List Char) : Prop := NumberLiteral (unsigned text)

/-! ## Digits -/

section

variable {digit : Char → Prop} {text : List Char}

theorem Digits.exists_head (h : Digits digit text) : ∃ c rest, text = c :: rest ∧ digit c := by
  cases h with
  | one d => exact ⟨_, _, rfl, d⟩
  | next d _ => exact ⟨_, _, rfl, d⟩
  | group d _ => exact ⟨_, _, rfl, d⟩

theorem Digits.mem (h : Digits digit text) : ∀ c ∈ text, digit c ∨ c = '_' := by
  induction h with
  | one d => exact List.forall_mem_singleton.2 (.inl d)
  | next d _ ih => exact List.forall_mem_cons.2 ⟨.inl d, ih⟩
  | group d _ ih => exact List.forall_mem_cons.2 ⟨.inl d, List.forall_mem_cons.2 ⟨.inr rfl, ih⟩⟩

theorem digits_of_forall (filled : text ≠ []) (all : ∀ c ∈ text, digit c) : Digits digit text := by
  induction text with
  | nil => exact absurd rfl filled
  | cons c rest ih =>
    obtain ⟨first, later⟩ := List.forall_mem_cons.1 all
    cases rest with
    | nil => exact .one first
    | cons d more => exact .next first (ih (List.cons_ne_nil d more) later)

theorem mark_of_pointLiteral (h : PointLiteral text) : '.' ∈ text := by
  cases h <;> simp

theorem mark_of_exponent (h : Exponent text) : ∃ c ∈ text, c = 'e' ∨ c = 'E' := by
  cases h with
  | intro mark _ _ => exact ⟨_, List.mem_cons_self, mark⟩

theorem mark_of_floatLiteral (h : FloatLiteral text) : ∃ c ∈ text, c.isDigit = false := by
  cases h with
  | point point => exact ⟨'.', mark_of_pointLiteral point, rfl⟩
  | exponent _ power =>
    obtain ⟨c, mem, mark⟩ := mark_of_exponent power
    refine ⟨c, List.mem_append_right _ mem, ?_⟩
    rcases mark with rfl | rfl <;> rfl

/-- Without any other sign a number is an integer: without a zero in front, or zeros only. -/
theorem numberLiteral_digits_iff (all : ∀ c ∈ text, c.isDigit = true) :
    NumberLiteral text ↔ text ≠ [] ∧ (text.head? ≠ some '0' ∨ ∀ c ∈ text, c = '0') := by
  have plain {P : Prop} {c : Char} (mem : c ∈ text) (other : c.isDigit = false) : P :=
    absurd (all c mem) (Bool.eq_false_iff.1 other)
  constructor
  · intro h
    cases h with
    | integer h =>
      cases h with
      | decimal digits head =>
        obtain ⟨_, _, rfl, -⟩ := digits.exists_head
        exact ⟨List.cons_ne_nil _ _, .inl head⟩
      | zeros digits =>
        obtain ⟨_, _, rfl, -⟩ := digits.exists_head
        refine ⟨List.cons_ne_nil _ _, .inr fun c mem => ?_⟩
        rcases digits.mem c mem with zero | rfl
        · exact zero
        · exact plain mem rfl
      | based base _ _ =>
        have letters : ∀ b ∈ bases, b.1.isDigit = false := by decide
        exact plain (List.mem_cons_of_mem _ List.mem_cons_self) (letters _ base)
    | float h =>
      obtain ⟨c, mem, other⟩ := mark_of_floatLiteral h
      exact plain mem other
    | imaginary _ mark =>
      refine plain (List.mem_append_right _ List.mem_cons_self) ?_
      rcases mark with rfl | rfl <;> rfl
  · rintro ⟨filled, head | zeros⟩
    · exact .integer (.decimal (digits_of_forall filled all) head)
    · exact .integer (.zeros (digits_of_forall filled zeros))

/-- A text begins with a digit or a point. -/
def NumberStart (text : List Char) : Prop := ∃ c ∈ text.head?, c.isDigit = true ∨ c = '.'

theorem NumberStart.append (h : NumberStart text) (more : List Char) :
    NumberStart (text ++ more) := by
  obtain ⟨c, begun, start⟩ := h
  exact ⟨c, List.mem_head?_append_of_mem_head? begun, start⟩

theorem start_of_digits (h : DecimalDigits text) : NumberStart text := by
  obtain ⟨c, rest, rfl, digit⟩ := h.exists_head
  exact ⟨c, rfl, .inl digit⟩

theorem start_of_pointLiteral (h : PointLiteral text) : NumberStart text := by
  cases h with
  | part _ => exact ⟨'.', rfl, .inr rfl⟩
  | both whole _ => exact (start_of_digits whole).append _
  | whole whole => exact (start_of_digits whole).append _

theorem start_of_floatLiteral (h : FloatLiteral text) : NumberStart text := by
  cases h with
  | point h => exact start_of_pointLiteral h
  | exponent h _ => exact (h.elim start_of_digits start_of_pointLiteral).append _

theorem start_of_numberLiteral (h : NumberLiteral text) : NumberStart text := by
  cases h with
  | integer h =>
    cases h with
    | decimal h _ => exact start_of_digits h
    | zeros h =>
      obtain ⟨c, rest, rfl, rfl⟩ := h.exists_head
      exact ⟨'0', rfl, .inl rfl⟩
    | based _ _ _ => exact ⟨'0', rfl, .inl rfl⟩
  | float h => exact start_of_floatLiteral h
  | imaginary h _ => exact (h.elim start_of_digits start_of_floatLiteral).append _

/-! ## Numbers that are read -/

theorem digits_of_isDigits (h : isDigits text = true) : DecimalDigits text := by
  obtain ⟨filled, all⟩ := Bool.and_eq_true_iff.1 h
  refine digits_of_forall ?_ (List.all_eq_true.1 all)
  rintro rfl
  cases filled

/-- An integer that is read is made of digits, behind a sign or not. -/
theorem digits_of_signedDigits? {n : Int} (h : signedDigits? text = some n) :
    ∃ sign digits, text = sign ++ digits ∧ (sign = [] ∨ sign = ['+'] ∨ sign = ['-']) ∧
      DecimalDigits digits := by
  rw [signedDigits?.eq_def] at h
  split at h <;> split at h
  · next digits found => exact ⟨['-'], digits, rfl, .inr (.inr rfl), digits_of_isDigits found⟩
  · cases h
  · next digits found => exact ⟨['+'], digits, rfl, .inr (.inl rfl), digits_of_isDigits found⟩
  · cases h
  · next found => exact ⟨[], _, rfl, .inl rfl, digits_of_isDigits found⟩
  · cases h

theorem power_of_exponent? {n : Int} (h : exponent? text = some n) :
    text = [] ∨ Exponent text := by
  rw [exponent?.eq_def] at h
  split at h
  · exact .inl rfl
  · split at h
    · next mark =>
      obtain ⟨sign, digits, rfl, signs, decimal⟩ := digits_of_signedDigits? h
      exact .inr (.intro (by simpa using mark) signs decimal)
    · cases h

theorem pointLiteral_of_digits {whole part : List Char}
    (wholeDigits : ∀ c ∈ whole, c.isDigit = true) (partDigits : ∀ c ∈ part, c.isDigit = true)
    (filled : ¬ (whole = [] ∧ part = [])) : PointLiteral (whole ++ '.' :: part) := by
  by_cases none : whole = []
  · subst none
    exact .part (digits_of_forall (fun empty => filled ⟨rfl, empty⟩) partDigits)
  · have front : DecimalDigits whole := digits_of_forall none wholeDigits
    by_cases empty : part = []
    · subst empty
      exact .whole front
    · exact .both front (digits_of_forall empty partDigits)

/-- A fraction that is read: digits with a point or without, and a power of ten or none. -/
theorem parts_of_fraction? {negative : Bool} {d : Number.Decimal}
    (h : fraction? negative text = some d) :
    ∃ front power, text = front ++ power ∧ (power = [] ∨ Exponent power) ∧
      ((front ≠ [] ∧ ∀ c ∈ front, c.isDigit = true) ∨ PointLiteral front) := by
  have cut : text.takeWhile Char.isDigit ++ text.drop (text.takeWhile Char.isDigit).length =
    text := List.prefix_iff_eq_append.1 (List.takeWhile_prefix _)
  have digits (l : List Char) : ∀ c ∈ l.takeWhile Char.isDigit, c.isDigit = true :=
    fun _ => List.mem_takeWhile_imp
  rw [fraction?] at h
  dsimp only at h
  split at h
  -- with a point it takes digits on one side of it, and without one digits in front
  · next after point =>
    dsimp only at h
    split at h
    · cases h
    · next filled =>
      obtain ⟨e, power, -⟩ := Option.map_eq_some_iff.1 h
      rw [Bool.and_eq_true_iff, List.isEmpty_iff, List.isEmpty_iff] at filled
      refine ⟨_, _, ?_, power_of_exponent? power,
        .inr (pointLiteral_of_digits (digits text) (digits after) filled)⟩
      rw [List.append_assoc, List.cons_append, List.takeWhile_append_dropWhile, ← point, cut]
  · dsimp only at h
    split at h
    · cases h
    · next filled =>
      obtain ⟨e, power, -⟩ := Option.map_eq_some_iff.1 h
      rw [List.isEmpty_nil, Bool.and_true, List.isEmpty_iff] at filled
      exact ⟨_, _, cut.symm, power_of_exponent? power, .inl ⟨filled, digits text⟩⟩

/-- A zero stands in front of an integer that is not zero. -/
def ZeroInFront (text : List Char) : Prop :=
  text.head? = some '0' ∧ (∀ c ∈ text, c.isDigit = true) ∧ ∃ c ∈ text, c ≠ '0'

/-- A fraction is a number of the language, but an integer with a zero in front is not. -/
theorem numberLiteral_iff_of_fraction? {negative : Bool} {d : Number.Decimal}
    (h : fraction? negative text = some d) : NumberLiteral text ↔ ¬ ZeroInFront text := by
  by_cases all : ∀ c ∈ text, c.isDigit = true
  · have filled : text ≠ [] := by
      rintro rfl
      cases h
    rw [numberLiteral_digits_iff all, ZeroInFront, and_iff_right filled, and_iff_right all,
      not_and_or]
    simp only [not_exists, not_and, not_not, ne_eq]
  · refine iff_of_true ?_ fun zero => all zero.2.1
    obtain ⟨front, power, rfl, none | some, digits | point⟩ := parts_of_fraction? h
    · rw [none, List.append_nil] at all
      exact absurd digits.2 all
    · rw [none, List.append_nil]
      exact .float (.point point)
    · exact .float (.exponent (.inl (digits_of_forall digits.1 digits.2)) some)
    · exact .float (.exponent (.inr point) some)

theorem not_isDigit_of_isAlpha {c : Char} (h : c.isAlpha = true) : c.isDigit = false := by
  have word : WordChar c := .inl (isAlpha_iff.1 h)
  exact word.of_ascii (p := fun c => c.isAlpha = true → c.isDigit = false) (by decide) h

theorem not_numberLiteral_of_letter (h : ∃ c ∈ text.head?, c.isAlpha = true) :
    ¬ NumberLiteral text := by
  intro number
  obtain ⟨c, begun, alpha⟩ := h
  obtain ⟨d, first, start⟩ := start_of_numberLiteral number
  obtain rfl := Option.mem_unique first begun
  rcases start with digit | rfl
  · rw [not_isDigit_of_isAlpha alpha] at digit
    cases digit
  · exact absurd alpha (by decide)

/-- A character whose small form is a letter is one. -/
theorem isAlpha_of_toLower {c : Char} (h : c.toLower.isAlpha = true) : c.isAlpha = true := by
  by_cases upper : c.isUpper = true
  · exact Bool.or_eq_true_iff.2 (.inl upper)
  · have same : c.toLower = c := dif_neg fun range => upper (decide_eq_true range)
    rwa [same] at h

/-- What has the small letters of a word begins with a letter. -/
theorem letter_of_word {word : String}
    (h : (String.ofList (text.map Char.toLower) == word) = true)
    (letter : ∃ c ∈ word.toList.head?, c.isAlpha = true) : ∃ c ∈ text.head?, c.isAlpha = true := by
  obtain ⟨c, begun, alpha⟩ := letter
  rw [← beq_iff_eq.1 h, String.toList_ofList, List.head?_map] at begun
  obtain ⟨d, first, rfl⟩ := Option.map_eq_some_iff.1 begun
  exact ⟨d, first, isAlpha_of_toLower alpha⟩

/-- What is read is a fraction, or else a word: an infinity or no number. -/
theorem cases_of_read? {n : Numeral} (h : Numeral.read? text = some n) :
    (∃ negative d, n = .finite d ∧ fraction? negative (unsigned text) = some d) ∨
      (∀ d, n ≠ .finite d) ∧ ∃ c ∈ (unsigned text).head?, c.isAlpha = true := by
  have cases {negative : Bool} {body : List Char}
      (h : (let word := String.ofList (body.map Char.toLower)
        if word == "inf" || word == "infinity" then some (.infinite negative)
        else if word == "nan" then some .nan
        else (fraction? negative body).map .finite) = some n) :
      (∃ negative d, n = .finite d ∧ fraction? negative body = some d) ∨
        (∀ d, n ≠ .finite d) ∧ ∃ c ∈ body.head?, c.isAlpha = true := by
    dsimp only at h
    split at h
    · next word =>
      cases h
      refine .inr ⟨nofun, ?_⟩
      rcases Bool.or_eq_true_iff.1 word with same | same
      · exact letter_of_word same ⟨'i', rfl, rfl⟩
      · exact letter_of_word same ⟨'i', rfl, rfl⟩
    · split at h
      · next word =>
        cases h
        exact .inr ⟨nofun, letter_of_word word ⟨'n', rfl, rfl⟩⟩
      · obtain ⟨d, found, rfl⟩ := Option.map_eq_some_iff.1 h
        exact .inl ⟨negative, d, rfl, found⟩
  rw [Numeral.read?.eq_def] at h
  split at h
  next part negative body sign =>
  split at sign
  · cases sign
    exact cases h
  · cases sign
    exact cases h
  · next minus plus =>
    cases sign
    rw [unsigned]
    · exact cases h
    · exact minus
    · exact plus

/-- What is read as a number is one of the language, unless it is an infinity, no number, or an
integer with a zero in front. -/
theorem signed_iff_of_read? {n : Numeral} (h : Numeral.read? text = some n) :
    Signed text ↔ (∃ d, n = .finite d) ∧ ¬ ZeroInFront (unsigned text) := by
  rw [Signed]
  rcases cases_of_read? h with ⟨negative, d, rfl, found⟩ | ⟨other, letter⟩
  · rw [numberLiteral_iff_of_fraction? found]
    exact (and_iff_right ⟨d, rfl⟩).symm
  · exact iff_of_false (not_numberLiteral_of_letter letter) fun finite => finite.1.elim other

/-- Nothing with a quote in front is a number, and nothing such is read as one. -/
theorem no_number_of_quote (rest : List Char) :
    ¬ Signed ('"' :: rest) ∧ Numeral.read? ('"' :: rest) = none := by
  have other : ¬ NumberStart ('"' :: rest) := by
    rintro ⟨c, begun, start⟩
    cases begun
    exact absurd start (by decide)
  refine ⟨fun number => other (start_of_numberLiteral number), ?_⟩
  cases read : Numeral.read? ('"' :: rest) with
  | none => rfl
  | some n =>
    rcases cases_of_read? read with ⟨negative, d, -, found⟩ | ⟨-, c, begun, alpha⟩
    · cases found
    · cases begun
      cases alpha

end

end Target.Python
end DocModel
