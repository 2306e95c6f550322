import DocModel.Dialect.Reading
import DocModel.Proofs.Passages
import DocModel.Target.Julia
import DocModel.Toml.Text
import DocModel.Validation.Report
import Mathlib.Algebra.Group.Nat.Defs

/-!
# DocModel.Proofs.Julia.Literals

Values of enumerations and docstrings as string literals of Julia.

* `literalFrom` reads a literal: what its escapes stand for, and the text between three quotes
  without the indentation of its lines. What is interpolated is computed by the program, so that a
  literal with a dollar sign has no value of its own;
* values are bytes, as an escape may stand for one byte of a character;
* an escape stands for fewer bytes than it takes (`mark_of_escape?`), so that no text with an escape
  has the value of the text itself;
* `literals_denote_iff` says which values and docstrings of a model are read back.
-/

namespace DocModel
namespace Target.Julia

open Text

/-! ## Bytes -/

def bytes (text : List Char) : List UInt8 := text.flatMap String.utf8EncodeChar

theorem bytes_injective : Function.Injective bytes := by
  intro first second same
  refine String.ofList_injective (String.toByteArray_inj.1 ?_)
  rw [String.toByteArray_ofList, String.toByteArray_ofList]
  exact congrArg List.toByteArray same

theorem bytes_cons (c : Char) (rest : List Char) :
    bytes (c :: rest) = String.utf8EncodeChar c ++ bytes rest := rfl

theorem length_bytes_cons (c : Char) (rest : List Char) :
    (bytes (c :: rest)).length = c.utf8Size + (bytes rest).length := by
  rw [bytes_cons, List.length_append, String.length_utf8EncodeChar]

theorem length_bytes_append (first second : List Char) :
    (bytes (first ++ second)).length = (bytes first).length + (bytes second).length := by
  rw [bytes, List.flatMap_append, List.length_append]
  rfl

theorem length_le_bytes (text : List Char) : text.length ≤ (bytes text).length := by
  induction text with
  | nil => exact Nat.le_refl 0
  | cons c rest ih =>
    have positive := c.utf8Size_pos
    rw [List.length_cons, length_bytes_cons]
    omega

/-- The bytes of a code, which need not be the code of a character. -/
def codeBytes (n : Nat) : List UInt8 :=
  if n < 0x80 then [n.toUInt8]
  else if n < 0x800 then [(0xC0 + n / 64).toUInt8, (0x80 + n % 64).toUInt8]
  else if n < 0x10000 then
    [(0xE0 + n / 4096).toUInt8, (0x80 + n / 64 % 64).toUInt8, (0x80 + n % 64).toUInt8]
  else
    [(0xF0 + n / 262144).toUInt8, (0x80 + n / 4096 % 64).toUInt8, (0x80 + n / 64 % 64).toUInt8,
      (0x80 + n % 64).toUInt8]

/-! ## Escapes of the language -/

/-- White space inside of a line. -/
def isBlank (c : Char) : Bool := c == ' ' || c == '\t'

def digit? (base : Nat) (c : Char) : Option Nat := (Toml.hexValue? c).filter (· < base)

/-- The number that goes on with at most so many digits, and what follows them. -/
def numberFrom (base : Nat) : Nat → Nat → List Char → Nat × List Char
  | limit + 1, sofar, c :: rest =>
    match digit? base c with
    | some v => numberFrom base limit (base * sofar + v) rest
    | none => (sofar, c :: rest)
  | _, sofar, rest => (sofar, rest)

/-- The number of one digit and at most so many more, and what follows them. -/
def number? (base more : Nat) : List Char → Option (Nat × List Char)
  | [] => none
  | c :: rest => (digit? base c).map fun v => numberFrom base more v rest

/-- The bytes of the character of a code in hexadecimal digits, and what follows. -/
def codeCharacter? (more : Nat) (text : List Char) : Option (List UInt8 × List Char) :=
  match number? 16 more text with
  | some (n, rest) => if n < 0x110000 then some (codeBytes n, rest) else none
  | none => none

/-- The character that one character behind a backslash stands for. -/
def escapedChar? : Char → Option Char
  | 'n' => some '\n'
  | 't' => some '\t'
  | 'r' => some '\r'
  | 'e' => some '\x1b'
  | 'b' => some '\x08'
  | 'f' => some '\x0c'
  | 'v' => some '\x0b'
  | 'a' => some '\x07'
  | '\\' => some '\\'
  | '\'' => some '\''
  | '"' => some '"'
  | '$' => some '$'
  | '\x60' => some '\x60'
  | _ => none

/-- The bytes that a backslash and the text behind it stand for, and what comes next. A line that
ends with a backslash goes on behind the white space of the next one. -/
def escape? : List Char → Option (List UInt8 × List Char)
  | [] => none
  | '\n' :: rest => some ([], rest.dropWhile isBlank)
  | 'x' :: rest => (number? 16 1 rest).map fun (n, after) => ([n.toUInt8], after)
  | 'u' :: rest => codeCharacter? 3 rest
  | 'U' :: rest => codeCharacter? 7 rest
  | c :: rest =>
    match number? 8 2 (c :: rest) with
    | some (n, after) => if n < 256 then some ([n.toUInt8], after) else none
    | none => (escapedChar? c).map fun d => (String.utf8EncodeChar d, rest)

theorem digits_of_numberFrom {base limit sofar n : Nat} {text rest : List Char}
    (h : numberFrom base limit sofar text = (n, rest)) :
    ∃ digits, text = digits ++ rest ∧ n < (sofar + 1) * base ^ digits.length := by
  induction limit generalizing sofar text with
  | zero =>
    cases h
    exact ⟨[], rfl, by simp⟩
  | succ limit ih =>
    cases text with
    | nil =>
      cases h
      exact ⟨[], rfl, by simp⟩
    | cons c more =>
      rw [numberFrom] at h
      split at h
      · next v digit =>
        obtain ⟨digits, rfl, below⟩ := ih h
        have small : v < base := by simpa using (Option.filter_eq_some_iff.1 digit).2
        refine ⟨c :: digits, rfl, below.trans_le ?_⟩
        rw [List.length_cons, Nat.pow_succ', ← Nat.mul_assoc]
        refine Nat.mul_le_mul_right _ ?_
        rw [Nat.add_mul, Nat.one_mul, Nat.mul_comm]
        omega
      · cases h
        exact ⟨[], rfl, by simp⟩

theorem digits_of_number? {base more n : Nat} {text rest : List Char}
    (h : number? base more text = some (n, rest)) :
    ∃ c digits, text = c :: digits ++ rest ∧ n < base ^ (digits.length + 1) := by
  cases text with
  | nil => cases h
  | cons c after =>
    obtain ⟨v, digit, same⟩ := Option.map_eq_some_iff.1 h
    obtain ⟨digits, rfl, below⟩ := digits_of_numberFrom same
    have small : v < base := by simpa using (Option.filter_eq_some_iff.1 digit).2
    refine ⟨c, digits, rfl, below.trans_le ?_⟩
    rw [Nat.pow_succ']
    exact Nat.mul_le_mul_right _ small

/-- A code of so many digits has at most one byte more. -/
theorem length_codeBytes_le {n k : Nat} (below : n < 16 ^ (k + 1)) :
    (codeBytes n).length ≤ k + 2 := by
  have one : k = 0 → n < 16 := by rintro rfl; exact below
  have two : k = 1 → n < 256 := by rintro rfl; exact below
  rw [codeBytes]
  split_ifs <;> simp only [List.length_cons, List.length_nil] <;> omega

theorem utf8Size_of_escapedChar? {c d : Char} (h : escapedChar? c = some d) : d.utf8Size = 1 := by
  rw [escapedChar?.eq_def] at h
  split at h <;> cases h <;> rfl

theorem digits_of_codeCharacter? {more : Nat} {text after : List Char} {value : List UInt8}
    (h : codeCharacter? more text = some (value, after)) :
    ∃ digits, text = digits ++ after ∧ value.length ≤ digits.length + 1 := by
  rw [codeCharacter?] at h
  split at h
  · next n rest found =>
    obtain ⟨c, digits, rfl, below⟩ := digits_of_number? found
    split at h
    · cases h
      exact ⟨c :: digits, rfl, length_codeBytes_le below⟩
    · cases h
  · cases h

/-- An escape stands for no more bytes than there are characters behind its backslash. -/
theorem mark_of_escape? {text after : List Char} {value : List UInt8}
    (h : escape? text = some (value, after)) :
    ∃ mark, text = mark ++ after ∧ value.length ≤ mark.length := by
  rw [escape?.eq_def] at h
  split at h
  · cases h
  · next rest =>
    cases h
    exact ⟨'\n' :: rest.takeWhile isBlank, by simp, Nat.zero_le _⟩
  · obtain ⟨_, found, same⟩ := Option.map_eq_some_iff.1 h
    cases same
    obtain ⟨d, digits, rfl, -⟩ := digits_of_number? found
    exact ⟨'x' :: d :: digits, rfl, by simp⟩
  · obtain ⟨digits, rfl, fewer⟩ := digits_of_codeCharacter? h
    exact ⟨'u' :: digits, rfl, fewer⟩
  · obtain ⟨digits, rfl, fewer⟩ := digits_of_codeCharacter? h
    exact ⟨'U' :: digits, rfl, fewer⟩
  · split at h
    · next n rest found =>
      obtain ⟨d, digits, same, -⟩ := digits_of_number? found
      split at h
      · cases h
        exact ⟨d :: digits, same, by simp⟩
      · cases h
    · next c rest _ _ _ _ _ _ =>
      obtain ⟨d, found, same⟩ := Option.map_eq_some_iff.1 h
      cases same
      refine ⟨[c], rfl, ?_⟩
      rw [String.length_utf8EncodeChar, utf8Size_of_escapedChar? found]
      rfl

/-! ## Values of literals -/

/-- The value of the text of a literal, without interpolation. -/
def valueOf : List Char → Option (List UInt8)
  | [] => some []
  | '$' :: _ => none
  | '\\' :: rest =>
    match _h : escape? rest with
    | some (front, after) => (valueOf after).map (front ++ ·)
    | none => none
  | c :: rest => (valueOf rest).map (String.utf8EncodeChar c ++ ·)
termination_by text => text.length
decreasing_by
  · obtain ⟨mark, rfl, -⟩ := mark_of_escape? ‹escape? rest = some (front, after)›
    rw [List.length_cons, List.length_append]
    omega
  · exact Nat.lt_succ_self _

theorem valueOf_plain {c : Char} (dollar : c ≠ '$') (slash : c ≠ '\\') (rest : List Char) :
    valueOf (c :: rest) = (valueOf rest).map (String.utf8EncodeChar c ++ ·) := by
  rw [valueOf]
  · exact dollar
  · exact slash

/-- A text without escapes stands for itself, unless something is interpolated. -/
theorem valueOf_unescaped_iff {text : List Char} {value : List UInt8} (slash : '\\' ∉ text) :
    valueOf text = some value ↔ '$' ∉ text ∧ bytes text = value := by
  induction text generalizing value with
  | nil => simp [valueOf, bytes]
  | cons c rest ih =>
    obtain ⟨first, later⟩ := not_or.1 (mt List.mem_cons.2 slash)
    by_cases dollar : c = '$'
    · subst dollar
      simp [valueOf]
    · rw [valueOf_plain dollar (Ne.symm first), Option.map_eq_some_iff, List.mem_cons,
        or_iff_right (Ne.symm dollar), bytes_cons]
      simp only [ih later, and_assoc, exists_and_left, exists_eq_left']

/-- A text has at least as many bytes as its value, and more if there is an escape in it. -/
theorem length_valueOf {text : List Char} {value : List UInt8} (h : valueOf text = some value) :
    value.length ≤ (bytes text).length ∧
      ('\\' ∈ text → value.length < (bytes text).length) := by
  fun_induction valueOf text generalizing value with
  | case1 =>
    cases h
    exact ⟨Nat.le_refl 0, nofun⟩
  | case2 => cases h
  | case3 rest front after found ih =>
    obtain ⟨later, read, rfl⟩ := Option.map_eq_some_iff.1 h
    obtain ⟨mark, rfl, light⟩ := mark_of_escape? found
    have rest := (ih read).1
    have wide := light.trans (length_le_bytes mark)
    have single : Char.utf8Size '\\' = 1 := rfl
    have less : (front ++ later).length < (bytes ('\\' :: (mark ++ after))).length := by
      rw [List.length_append, length_bytes_cons, length_bytes_append, single]
      omega
    exact ⟨less.le, fun _ => less⟩
  | case4 => cases h
  | case5 c rest _ slash ih =>
    obtain ⟨later, read, rfl⟩ := Option.map_eq_some_iff.1 h
    obtain ⟨most, less⟩ := ih read
    rw [List.length_append, length_bytes_cons, String.length_utf8EncodeChar, List.mem_cons,
      or_iff_right (Ne.symm slash)]
    exact ⟨Nat.add_le_add_left most _, fun mem => Nat.add_lt_add_left (less mem) _⟩

/-! ## Literals of the language -/

/-- What begins and ends a literal on several lines. -/
def tripleQuotes : List Char := ['"', '"', '"']

/-- The text up to the quotes that close a literal, and what follows them. What stands behind a
backslash closes nothing. -/
def rawFrom (close : List Char) : List Char → Option (List Char × List Char)
  | [] => none
  | '\\' :: c :: rest => (rawFrom close rest).map fun (raw, more) => ('\\' :: c :: raw, more)
  | c :: rest =>
    if close.isPrefixOf (c :: rest) then some ([], (c :: rest).drop close.length)
    else (rawFrom close rest).map fun (raw, more) => (c :: raw, more)

/-- The beginning that two lines share. -/
def shared : List Char → List Char → List Char
  | c :: first, d :: second => if c = d then c :: shared first second else []
  | _, _ => []

/-- A line without the indentation of the literal, if it begins with it. -/
def unindented (indent line : List Char) : List Char :=
  if indent.isPrefixOf line then line.drop indent.length else line

/-- The text between three quotes without a line end at its beginning, and without the indentation
that its other lines share. Blank lines have no part in it, apart from the one of the closing
quotes. -/
def dedented (raw : List Char) : List Char :=
  match splitOn '\n' raw with
  | [] => []
  | first :: others =>
    let closing := (others.getLast?.getD []).takeWhile isBlank
    let indent := (others.dropLast.filter (!·.all isBlank)).foldr shared closing
    let ls := others.map (unindented indent)
    joinWith ['\n'] (if first.isEmpty then ls else first :: ls)

/-- The value of a literal, and what follows it. -/
def literalFrom : List Char → Option (List UInt8 × List Char)
  | '"' :: '"' :: '"' :: rest => (rawFrom tripleQuotes rest).bind fun (raw, more) =>
    (valueOf (dedented (lineFeeds raw))).map fun value => (value, more)
  | '"' :: rest => (rawFrom ['"'] rest).bind fun (raw, more) =>
    (valueOf (lineFeeds raw)).map fun value => (value, more)
  | _ => none

theorem map_pair_eq_some_iff {expected : List UInt8} {read : Option (List UInt8)}
    {more : List Char} :
    read.map (fun value => (value, more)) = some (expected, more) ↔ read = some expected := by
  simp

section

variable {close text raw more : List Char}

/-- A literal ends with quotes, and with the first ones if there is no backslash in it. -/
theorem cut_of_rawFrom (h : rawFrom close text = some (raw, more)) :
    text = raw ++ (close ++ more) ∧ ('\\' ∉ raw → close ≠ [] → ¬ close <:+: raw) := by
  fun_induction rawFrom close text generalizing raw with
  | case1 => cases h
  | case2 c rest ih =>
    obtain ⟨⟨later, _⟩, read, same⟩ := Option.map_eq_some_iff.1 h
    cases same
    exact ⟨by rw [(ih read).1]; rfl, fun slash => absurd List.mem_cons_self slash⟩
  | case3 c rest _ closed =>
    cases h
    obtain ⟨behind, same⟩ := List.isPrefixOf_iff_prefix.1 closed
    refine ⟨?_, fun _ filled inside => filled (List.infix_nil.1 inside)⟩
    rw [← same, List.drop_left, List.nil_append]
  | case4 c rest _ opened ih =>
    obtain ⟨⟨later, _⟩, read, same⟩ := Option.map_eq_some_iff.1 h
    cases same
    obtain ⟨rfl, free⟩ := ih read
    refine ⟨rfl, fun slash filled => ?_⟩
    rw [List.infix_cons_iff, not_or]
    refine ⟨fun first => opened ?_, free (fun mem => slash (List.mem_cons_of_mem _ mem)) filled⟩
    exact List.isPrefixOf_iff_prefix.2 (first.trans (List.prefix_append (c :: later) _))

theorem rawFrom_closing (filled : close ≠ []) (slash : '\\' ∉ close) :
    rawFrom close (close ++ more) = some ([], more) := by
  cases close with
  | nil => exact absurd rfl filled
  | cons c rest =>
    rw [List.cons_append, rawFrom]
    · rw [← List.cons_append, List.drop_left,
        if_pos (List.isPrefixOf_iff_prefix.2 (List.prefix_append _ _))]
    · rintro _ _ rfl _
      exact slash List.mem_cons_self

theorem rawFrom_plain {c : Char} (slash : c ≠ '\\') (opened : ¬ close <+: c :: text) :
    rawFrom close (c :: text) = (rawFrom close text).map fun (raw, more) => (c :: raw, more) := by
  rw [rawFrom, if_neg (mt List.isPrefixOf_iff_prefix.1 opened)]
  exact fun _ _ same => absurd same slash

theorem rawFrom_append (slash : '\\' ∉ text) (free : ¬ close <:+: text) {c : Char}
    (other : c ∉ close) : rawFrom close (text ++ c :: more) =
      (rawFrom close (c :: more)).map fun (raw, rest) => (text ++ raw, rest) := by
  induction text with
  | nil => exact Option.map_id'.symm
  | cons d rest ih =>
    obtain ⟨first, later⟩ := not_or.1 (mt List.infix_cons_iff.2 free)
    obtain ⟨plain, slashes⟩ := not_or.1 (mt List.mem_cons.2 slash)
    have opened : ¬ close <+: d :: (rest ++ c :: more) := fun mark =>
      first (prefix_of_prefix_append other mark)
    rw [List.cons_append, rawFrom_plain (Ne.symm plain) opened, ih slashes later, Option.map_map]
    rfl

end

theorem foldr_shared_nil (ls : List (List Char)) : ls.foldr shared [] = [] := by
  induction ls with
  | nil => rfl
  | cons line rest ih =>
    rw [List.foldr_cons, ih]
    cases line <;> rfl

/-- The closing quotes at the beginning of a line leave every line its indentation. -/
theorem dedented_feeds (text : List Char) :
    dedented ('\n' :: (text ++ ['\n'])) = text ++ ['\n'] := by
  have bare : ∀ line ∈ splitOn '\n' text, '\n' ∉ line := fun _ => notMem_of_mem_splitOn
  have whole : splitOn '\n' (text ++ ['\n']) = splitOn '\n' text ++ [[]] := by
    rw [← terminated_splitOn, splitOn_terminated bare]
  have opened : splitOn '\n' ('\n' :: (text ++ ['\n'])) = [] :: (splitOn '\n' text ++ [[]]) := by
    rw [← terminated_splitOn]
    exact splitOn_terminated (List.forall_mem_cons.2 ⟨List.not_mem_nil, bare⟩)
  have kept (ls : List (List Char)) : ls.map (unindented []) = ls := List.map_id _
  rw [dedented, opened]
  simp only [List.getLast?_concat, Option.getD_some, List.takeWhile_nil, foldr_shared_nil, kept,
    List.isEmpty_nil, if_true]
  rw [← whole, joinWith_splitOn]

/-! ## Values of enumerations -/

/-- The text of a literal between double quotes. -/
def escaped (text : List Char) : List Char := text.flatMap literalImage

theorem escaped_cons (c : Char) (rest : List Char) :
    escaped (c :: rest) = literalImage c ++ escaped rest := rfl

/-- A character that stands for itself, or an escape of one character. -/
theorem literalImage_cases (c : Char) :
    (∃ d, literalImage c = ['\\', d] ∧ d ≠ '\r' ∧
      ∀ rest, escape? (d :: rest) = some (String.utf8EncodeChar c, rest)) ∨
      literalImage c = [c] ∧ c ≠ '\\' ∧ c ≠ '"' ∧ c ≠ '\r' := by
  rw [literalImage.eq_def]
  split
  · exact .inl ⟨'\\', rfl, by decide, fun _ => rfl⟩
  · exact .inl ⟨'"', rfl, by decide, fun _ => rfl⟩
  · exact .inl ⟨'n', rfl, by decide, fun _ => rfl⟩
  · exact .inl ⟨'r', rfl, by decide, fun _ => rfl⟩
  · exact .inl ⟨'t', rfl, by decide, fun _ => rfl⟩
  · next slash quote _ carriage _ => exact .inr ⟨rfl, slash, quote, carriage⟩

theorem return_notMem_escaped (text : List Char) : '\r' ∉ escaped text := by
  intro mem
  obtain ⟨c, -, inside⟩ := List.mem_flatMap.1 mem
  rcases literalImage_cases c with ⟨d, image, carriage, -⟩ | ⟨image, -, -, carriage⟩ <;>
    rw [image] at inside
  · rcases List.mem_pair.1 inside with same | same
    · exact absurd same (by decide)
    · exact carriage same.symm
  · exact carriage (List.mem_singleton.1 inside).symm

theorem rawFrom_escaped (text more : List Char) :
    rawFrom ['"'] (escaped text ++ '"' :: more) = some (escaped text, more) := by
  induction text with
  | nil =>
    have closing : rawFrom ['"'] (['"'] ++ more) = some ([], more) :=
      rawFrom_closing (by decide) (by decide)
    exact closing
  | cons c rest ih =>
    rw [escaped_cons, List.append_assoc]
    rcases literalImage_cases c with ⟨d, image, -⟩ | ⟨image, slash, quote, -⟩ <;> rw [image]
    · rw [List.cons_append, List.singleton_append, rawFrom, ih]
      rfl
    · have opened : ¬ ['"'] <+: c :: (escaped rest ++ '"' :: more) := fun first =>
        quote (List.cons_prefix_cons.1 first).1.symm
      rw [List.singleton_append, rawFrom_plain slash opened, ih]
      rfl

/-- Every character of an escaped text stands for itself, unless something is interpolated. -/
theorem valueOf_escaped_iff {text : List Char} {value : List UInt8} :
    valueOf (escaped text) = some value ↔ '$' ∉ text ∧ bytes text = value := by
  induction text generalizing value with
  | nil => simp [escaped, valueOf, bytes]
  | cons c rest ih =>
    by_cases dollar : c = '$'
    · subst dollar
      have image : escaped ('$' :: rest) = '$' :: escaped rest := rfl
      simp [image, valueOf]
    · have own : valueOf (escaped (c :: rest)) =
          (valueOf (escaped rest)).map (String.utf8EncodeChar c ++ ·) := by
        rw [escaped_cons]
        rcases literalImage_cases c with ⟨d, image, -, read⟩ | ⟨image, slash, -⟩ <;> rw [image]
        · rw [List.cons_append, List.singleton_append, valueOf, read]
        · exact valueOf_plain dollar slash _
      rw [own, Option.map_eq_some_iff, List.mem_cons, or_iff_right (Ne.symm dollar), bytes_cons]
      simp only [ih, and_assoc, exists_and_left, exists_eq_left']

/-- What is written for a value is one literal, whatever follows, and the value of the literal is
the value exactly if there is no dollar sign in it. -/
theorem literalFrom_literal_iff (text : String) (more : List Char) :
    literalFrom ((literal text).toList ++ ',' :: more) = some (bytes text.toList, ',' :: more) ↔
      '$' ∉ text.toList := by
  have shown : (literal text).toList ++ ',' :: more =
      '"' :: (escaped text.toList ++ '"' :: ',' :: more) := by
    have quote : "\"".toList = ['"'] := rfl
    rw [literal, escapeString, onChars, String.toList_append, String.toList_append, quote,
      String.toList_ofList, List.append_assoc, List.append_assoc]
    rfl
  -- an empty text has a comma behind its two quotes, so that they are not three
  have single : ∀ rest, escaped text.toList ++ '"' :: ',' :: more ≠ '"' :: '"' :: rest := by
    cases text.toList with
    | nil => rintro rest ⟨⟩
    | cons c later =>
      intro rest same
      rw [escaped_cons] at same
      rcases literalImage_cases c with ⟨d, image, -⟩ | ⟨image, -, quote, -⟩ <;> rw [image] at same
      · exact absurd (List.cons.inj same).1 (by decide)
      · exact quote (List.cons.inj same).1
  rw [shown, literalFrom]
  · rw [rawFrom_escaped, Option.bind_some]
    dsimp only
    rw [map_pair_eq_some_iff, lineFeeds_eq_self_iff.2 (return_notMem_escaped _),
      valueOf_escaped_iff, and_iff_left rfl]
  · exact single

/-! ## Docstrings -/

theorem length_bytes_lineFeeds_le (text : List Char) :
    (bytes (lineFeeds text)).length ≤ (bytes text).length := by
  have narrow (c : Char) : Char.utf8Size (if c == '\r' then '\n' else c) = c.utf8Size := by
    split
    · next same => rw [beq_iff_eq.1 same]; rfl
    · rfl
  fun_induction lineFeeds text with
  | case1 => exact Nat.le_refl 0
  | case2 rest ih =>
    simp only [length_bytes_cons]
    omega
  | case3 c rest _ ih =>
    rw [length_bytes_cons, length_bytes_cons, narrow]
    exact Nat.add_le_add_left ih _

theorem lineFeeds_concat (text : List Char) :
    ∃ front, lineFeeds (text ++ ['\n']) = front ++ ['\n'] := by
  fun_induction lineFeeds text with
  | case1 => exact ⟨[], rfl⟩
  | case2 rest ih =>
    obtain ⟨front, same⟩ := ih
    refine ⟨'\n' :: front, ?_⟩
    rw [List.cons_append, List.cons_append, lineFeeds, same, List.cons_append]
  | case3 c rest other ih =>
    obtain ⟨front, same⟩ := ih
    by_cases paired : c = '\r' ∧ rest = []
    · obtain ⟨rfl, rfl⟩ := paired
      exact ⟨[], rfl⟩
    · refine ⟨(if c == '\r' then '\n' else c) :: front, ?_⟩
      rw [List.cons_append, lineFeeds, same, List.cons_append]
      rintro more rfl feed
      cases rest with
      | nil => exact paired ⟨rfl, rfl⟩
      | cons d later =>
        obtain ⟨rfl, -⟩ := List.cons.inj feed
        exact other later rfl rfl

/-- A text is the value of what it shows exactly if there is no escape, no interpolation and no
other line end in it. -/
theorem valueOf_lineFeeds_iff {text : List Char} :
    valueOf (lineFeeds text) = some (bytes text) ↔ '\\' ∉ text ∧ '$' ∉ text ∧ '\r' ∉ text := by
  constructor
  · intro read
    have slash : '\\' ∉ lineFeeds text := fun mem =>
      absurd ((length_valueOf read).2 mem) (Nat.not_lt.2 (length_bytes_lineFeeds_le text))
    obtain ⟨dollar, same⟩ := (valueOf_unescaped_iff slash).1 read
    have kept := bytes_injective same
    rw [kept] at slash dollar
    exact ⟨slash, dollar, lineFeeds_eq_self_iff.1 kept⟩
  · rintro ⟨slash, dollar, carriage⟩
    rw [lineFeeds_eq_self_iff.2 carriage, valueOf_unescaped_iff slash]
    exact ⟨dollar, rfl⟩

/-- The text between two lines of quotes has the value that it shows in the same cases. -/
theorem valueOf_block_iff {text : List Char} :
    valueOf (dedented (lineFeeds ('\n' :: (text ++ ['\n'])))) = some (bytes (text ++ ['\n'])) ↔
      '\\' ∉ text ∧ '$' ∉ text ∧ '\r' ∉ text := by
  have feed {c : Char} (other : c ≠ '\n') : c ∉ text ++ ['\n'] ↔ c ∉ text := by
    rw [List.mem_append, List.mem_singleton, or_iff_left other]
  obtain ⟨front, same⟩ := lineFeeds_concat text
  have opened : lineFeeds ('\n' :: (text ++ ['\n'])) = '\n' :: lineFeeds (text ++ ['\n']) := rfl
  rw [opened, same, dedented_feeds, ← same, valueOf_lineFeeds_iff, feed (by decide),
    feed (by decide), feed (by decide)]

theorem infix_tripleQuotes_block_iff {text : List Char} :
    tripleQuotes <:+: '\n' :: (text ++ ['\n']) ↔ tripleQuotes <:+: text := by
  have filled : tripleQuotes ≠ [] := by decide
  have feed : ∀ c ∈ ['\n'], c ∉ tripleQuotes := List.forall_mem_singleton.2 (by decide)
  have front : tripleQuotes <:+: ['\n'] ++ (text ++ ['\n']) ↔ tripleQuotes <:+: text ++ ['\n'] :=
    infix_append_right_iff filled feed
  exact front.trans (infix_append_left_iff filled feed)

theorem rawFrom_block {text : List Char} (slash : '\\' ∉ text) (free : ¬ tripleQuotes <:+: text)
    (more : List Char) : rawFrom tripleQuotes ('\n' :: (text ++ ['\n']) ++ (tripleQuotes ++ more)) =
      some ('\n' :: (text ++ ['\n']), more) := by
  have feed : ∀ text, rawFrom tripleQuotes ('\n' :: text) =
      (rawFrom tripleQuotes text).map fun (raw, more) => ('\n' :: raw, more) := fun text =>
    rawFrom_plain (by decide) fun first => absurd (List.cons_prefix_cons.1 first).1 (by decide)
  have inside : rawFrom tripleQuotes (text ++ '\n' :: (tripleQuotes ++ more)) =
      (rawFrom tripleQuotes ('\n' :: (tripleQuotes ++ more))).map
        fun (raw, rest) => (text ++ raw, rest) :=
    rawFrom_append slash free (by decide)
  rw [feed, rawFrom_closing (by decide) (by decide)] at inside
  rw [List.cons_append, List.append_assoc, feed, List.singleton_append, inside]
  rfl

theorem toList_docLines {docstring : String} (some : docstring ≠ "") :
    (unlines (docLines docstring)).toList =
      tripleQuotes ++ ('\n' :: (docstring.toList ++ ['\n']) ++ (tripleQuotes ++ ['\n'])) := by
  have quotes : "\"\"\"".toList = tripleQuotes := rfl
  rw [docLines, if_neg (by simpa using some), toList_unlines]
  simp [quotes, terminated]

/-- What is written for a docstring is one literal, whatever follows, and the value of the literal
is the docstring with a line feed exactly if there is nothing in it that needs an escape. -/
theorem literalFrom_docLines_iff {docstring : String} (some : docstring ≠ "") (more : List Char) :
    literalFrom ((unlines (docLines docstring)).toList ++ more) =
        .some (bytes (docstring.toList ++ ['\n']), '\n' :: more) ↔
      ('\\' ∉ docstring.toList ∧ '$' ∉ docstring.toList ∧ '\r' ∉ docstring.toList) ∧
        ¬ tripleQuotes <:+: docstring.toList := by
  have shown : (unlines (docLines docstring)).toList ++ more = '"' :: '"' :: '"' ::
      ('\n' :: (docstring.toList ++ ['\n']) ++ (tripleQuotes ++ '\n' :: more)) := by
    rw [toList_docLines some]
    simp only [tripleQuotes, List.cons_append, List.nil_append, List.append_assoc]
  rw [shown, literalFrom]
  constructor
  · intro read
    obtain ⟨⟨raw, after⟩, found, rest⟩ := Option.bind_eq_some_iff.1 read
    obtain ⟨value, denoted, same⟩ := Option.map_eq_some_iff.1 rest
    obtain ⟨rfl, rfl⟩ := Prod.mk.inj same
    obtain ⟨cut, free⟩ := cut_of_rawFrom found
    obtain rfl := List.append_cancel_right cut
    have plain := valueOf_block_iff.1 denoted
    refine ⟨plain, fun inside => free ?_ (by decide) (infix_tripleQuotes_block_iff.2 inside)⟩
    simpa using plain.1
  · rintro ⟨plain, free⟩
    rw [rawFrom_block plain.1 free, Option.bind_some]
    exact map_pair_eq_some_iff.2 (valueOf_block_iff.2 plain)

/-! ## Literals of a module -/

/-- A docstring of a model, and what the definition under it begins with. -/
inductive Documented (m : DataModel) : String → String → Prop
  | object {o : Object} (mem : o ∈ m.objects) :
      Documented m o.docstring ("Base.@kwdef mutable struct " ++ o.name)
  | enumeration {e : Enumeration} (mem : e ∈ m.enums) :
      Documented m e.docstring ("@enum " ++ e.name)

section

variable {m : DataModel}

theorem infix_renderEnumeration {e : Enumeration} (mem : e ∈ m.enums) :
    (renderEnumeration e).toList <:+: (render m).toList :=
  infix_withDefinitions (List.mem_append_left _ (List.mem_append_left _
    (List.mem_map_of_mem mem)))

theorem infix_renderObject {o : Object} (mem : o ∈ m.objects) :
    (renderObject m o).toList <:+: (render m).toList :=
  infix_withDefinitions (List.mem_append_left _ (List.mem_append_right _
    (List.mem_map_of_mem (f := renderObject m) mem)))

theorem Documented.infix_render {docstring declared : String}
    (h : Documented m docstring declared) :
    (unlines (docLines docstring) ++ declared).toList <:+: (render m).toList := by
  cases h with
  | @object o mem =>
    have first :
        (unlines (docLines o.docstring) ++ ("Base.@kwdef mutable struct " ++ o.name)).toList <:+:
          (renderObject m o).toList :=
      infix_of_eq_append (by
        rw [renderObject, List.append_assoc, unlines_append, List.cons_append, unlines_cons]
        simp only [String.append_assoc]
        rfl)
    exact first.trans (infix_renderObject mem)
  | @enumeration e mem =>
    have first : (unlines (docLines e.docstring) ++ ("@enum " ++ e.name)).toList
        <:+: (renderEnumeration e).toList :=
      infix_of_eq_append (by
        rw [renderEnumeration, List.append_assoc, List.append_assoc, unlines_append,
          List.cons_append, unlines_cons]
        simp only [String.append_assoc]
        rfl)
    exact first.trans (infix_renderEnumeration mem)

/-- Every entry of a dictionary is a line of its own. -/
theorem infix_entry {e : Enumeration} (mem : e ∈ m.enums) {entry : String × String}
    (held : entry ∈ e.mappings.entries) :
    ("    " ++ entry.1 ++ " => " ++ literal entry.2 ++ "," ++ "\n").toList <:+:
      (render m).toList := by
  refine List.IsInfix.trans (infix_unlines ?_) (infix_renderEnumeration mem)
  refine List.mem_append_left _ (List.mem_append_right _ ?_)
  exact List.mem_map.2 ⟨entry, held, rfl⟩

/-- The values of enumerations and the docstrings of a model are literals in its module. Whatever
follows, the literal of a value has this value exactly if there is no dollar sign in it, and the
literal of a docstring has the docstring with a line feed as its value exactly if there is nothing
in it that needs an escape. -/
theorem literals_denote_iff (m : DataModel) :
    (∀ e ∈ m.enums, ∀ entry ∈ e.mappings.entries,
      ("    " ++ entry.1 ++ " => " ++ literal entry.2 ++ "," ++ "\n").toList <:+:
          (render m).toList ∧
        ∀ more, (literalFrom ((literal entry.2).toList ++ ',' :: more) =
          some (bytes entry.2.toList, ',' :: more) ↔ '$' ∉ entry.2.toList)) ∧
    ∀ docstring declared, Documented m docstring declared → docstring ≠ "" →
      (unlines (docLines docstring) ++ declared).toList <:+: (render m).toList ∧
        ∀ more, (literalFrom ((unlines (docLines docstring)).toList ++ more) =
            some (bytes (docstring.toList ++ ['\n']), '\n' :: more) ↔
          ('\\' ∉ docstring.toList ∧ '$' ∉ docstring.toList ∧ '\r' ∉ docstring.toList) ∧
            ¬ tripleQuotes <:+: docstring.toList) :=
  ⟨fun _ mem _ held => ⟨infix_entry mem held, literalFrom_literal_iff _⟩,
    fun _ _ documented some => ⟨documented.infix_render, literalFrom_docLines_iff some⟩⟩

end

/-- A document with an enumeration that has a backslash in its docstring and a dollar sign in a
value. -/
def priceDocument : String := "### A\n\nIn C:\\new.\n\n```\nPRICE = \"$5\"\n```\n"

/-- The document is valid. A backslash in its docstring and the letter behind it are read as a line
feed, and the dollar sign in its value begins an interpolation. -/
theorem literals_misread :
    (Dialect.parse priceDocument).map (fun reading => ((Validation.reportOf reading).isValid,
      reading.model.enums.map fun e => (e.docstring, e.mappings.entries))) =
        .ok (true, [("In C:\\new.", [("PRICE", "$5")])]) ∧
    literalFrom (unlines (docLines "In C:\\new.")).toList =
      some (bytes "In C:\new.\n".toList, ['\n']) ∧
    literalFrom (literal "$5" ++ ",").toList = none := by
  refine ⟨by decide +kernel, by decide +kernel, by decide +kernel⟩

end Target.Julia
end DocModel
