import DocModel.Dialect.Entry
import DocModel.Proofs.Splitting
import DocModel.Target.Rust
import DocModel.Toml.Text

/-!
# DocModel.Proofs.Rust.MemberValues

The values of the members of enumerations as string literals of Rust. Of the characters of a value
only the quotes are escaped.

* `literalFrom` reads a literal as Rust does, from behind its opening quote to its closing one;
* `load_of_literalFrom`: a value cannot be longer than the text of its literal allows, where a
  character that needs an escape counts for two;
* what is written of a value bears it only if nothing in it needs another escape
  (`literalFrom_written_iff`), so that other values are lost (`memberValue_lost`).
-/

namespace DocModel
namespace Target.Rust

open Text

/-! ## String literals of the language -/

/-- The character that one character behind a backslash stands for. -/
def escapedChar? : Char → Option Char
  | 'n' => some '\n'
  | 'r' => some '\r'
  | 't' => some '\t'
  | '0' => some '\x00'
  | '\\' => some '\\'
  | '\'' => some '\''
  | '"' => some '"'
  | _ => none

/-- White space that is left out behind a backslash at the end of a line. -/
def isContinued (c : Char) : Bool := c == ' ' || c == '\t' || c == '\n' || c == '\r'

/-- The character of a number of one to six hexadecimal digits between braces, with underscores
anywhere but in front, and what comes next. -/
def bracedCode? : List Char → Option (Char × List Char)
  | '\x7b' :: text =>
    match splitOnce '\x7d' text with
    | some (code, rest) =>
      let digits := code.filter (· != '_')
      if code.head? == some '_' || digits.isEmpty || 6 < digits.length then none
      else (Toml.codeCharacter? digits.length digits).map fun (c, _) => (c, rest)
    | none => none
  | _ => none

/-- What a backslash and the text behind it stand for, and what comes next. A line end is left out
with the white space behind it. -/
def escape? : List Char → Option (List Char × List Char)
  | [] => none
  | 'x' :: rest =>
    match Toml.codeCharacter? 2 rest with
    | some (c, more) => if c.toNat < 128 then some ([c], more) else none
    | none => none
  | 'u' :: rest => (bracedCode? rest).map fun (c, more) => ([c], more)
  | '\n' :: rest => some ([], rest.dropWhile isContinued)
  | '\r' :: '\n' :: rest => some ([], rest.dropWhile isContinued)
  | c :: rest => (escapedChar? c).map fun d => ([d], rest)

/-! ## Lengths -/

/-- How far a character is from standing for itself in a literal: a quote and a backslash need a
second character, and a carriage return cannot stand there at all. -/
def weight (c : Char) : Nat :=
  if c == '\r' then 2 else if c == '\\' || c == '"' then 1 else 0

/-- The weights of the characters of a text. -/
def load : List Char → Nat
  | [] => 0
  | c :: rest => weight c + load rest

theorem load_append (first second : List Char) :
    load (first ++ second) = load first + load second := by
  induction first with
  | nil => exact (Nat.zero_add _).symm
  | cons c rest ih => rw [List.cons_append, load, load, ih, Nat.add_assoc]

theorem weight_le (c : Char) : weight c ≤ 2 := by
  rw [weight]
  split
  · exact Nat.le_refl 2
  · split <;> decide

theorem weight_le_one {c : Char} (other : c ≠ '\r') : weight c ≤ 1 := by
  rw [weight, if_neg (by simpa using other)]
  split <;> decide

theorem weight_plain {c : Char} (quote : c ≠ '"') (slash : c ≠ '\\') (carriage : c ≠ '\r') :
    weight c = 0 := by
  simp [weight, quote, slash, carriage]

theorem load_le (text : List Char) : load text ≤ 2 * text.length := by
  induction text with
  | nil => exact Nat.zero_le _
  | cons c rest ih =>
    have one := weight_le c
    rw [load, List.length_cons]
    omega

theorem suffix_of_hexNumber? {n sofar value : Nat} {text rest : List Char}
    (h : Toml.hexNumber? n sofar text = some (value, rest)) : rest <:+ text := by
  induction n generalizing sofar text with
  | zero =>
    cases h
    exact List.suffix_refl _
  | succ n ih =>
    cases text with
    | nil => cases h
    | cons c more =>
      rw [Toml.hexNumber?] at h
      split at h
      · exact (ih h).trans (List.suffix_cons c more)
      · cases h

theorem suffix_of_codeCharacter? {length : Nat} {text rest : List Char} {c : Char}
    (h : Toml.codeCharacter? length text = some (c, rest)) : rest <:+ text := by
  rw [Toml.codeCharacter?] at h
  split at h
  · next n more found =>
    split at h
    · cases h
      exact suffix_of_hexNumber? found
    · cases h
  · cases h

theorem suffix_of_bracedCode? {text rest : List Char} {c : Char}
    (h : bracedCode? text = some (c, rest)) : rest <:+ text := by
  rw [bracedCode?.eq_def] at h
  split at h
  · next text =>
    split at h
    · next code after found =>
      dsimp only at h
      split at h
      · cases h
      · obtain ⟨_, -, same⟩ := Option.map_eq_some_iff.1 h
        cases same
        exact (suffix_of_splitOnce found).trans (List.suffix_cons _ text)
    · cases h
  · cases h

/-- A mark that begins with a lighter character is lighter than its characters may be. -/
theorem exists_mark_of_suffix {c : Char} {rest after : List Char} (single : weight c ≤ 1)
    (h : after <:+ rest) :
    ∃ mark, c :: rest = mark ++ after ∧ load mark < 2 * mark.length := by
  obtain ⟨front, rfl⟩ := h
  have light := load_le front
  refine ⟨c :: front, rfl, ?_⟩
  rw [load, List.length_cons]
  omega

/-- An escape stands for one character at most and is lighter than its characters may be. -/
theorem exists_mark {text piece after : List Char} (h : escape? text = some (piece, after)) :
    piece.length ≤ 1 ∧ ∃ mark, text = mark ++ after ∧ load mark < 2 * mark.length := by
  rw [escape?.eq_def] at h
  split at h
  · cases h
  · split at h
    · next c more found =>
      split at h
      · cases h
        exact ⟨Nat.le_refl 1,
          exists_mark_of_suffix (by decide) (suffix_of_codeCharacter? found)⟩
      · cases h
    · cases h
  · obtain ⟨⟨c, more⟩, found, same⟩ := Option.map_eq_some_iff.1 h
    cases same
    exact ⟨Nat.le_refl 1, exists_mark_of_suffix (by decide) (suffix_of_bracedCode? found)⟩
  · cases h
    exact ⟨Nat.zero_le 1, exists_mark_of_suffix (by decide) (List.dropWhile_suffix _)⟩
  · cases h
    obtain ⟨mark, cut, light⟩ := exists_mark_of_suffix (show weight '\n' ≤ 1 by decide)
      (List.dropWhile_suffix isContinued)
    refine ⟨Nat.zero_le 1, '\r' :: mark, congrArg _ cut, ?_⟩
    have heavy := weight_le '\r'
    rw [load, List.length_cons]
    omega
  · next c rest _ _ _ _ =>
    obtain ⟨d, found, same⟩ := Option.map_eq_some_iff.1 h
    cases same
    have other : c ≠ '\r' := by
      rintro rfl
      cases found
    exact ⟨Nat.le_refl 1, exists_mark_of_suffix (weight_le_one other) (List.suffix_refl _)⟩

/-- The value of a literal from behind its opening quote on, and what follows its closing quote. A
line end counts as a line feed, and a carriage return is no character of a literal by itself. -/
def literalFrom : List Char → Option (List Char × List Char)
  | [] => none
  | '"' :: rest => some ([], rest)
  | '\\' :: rest =>
    match _h : escape? rest with
    | some (piece, after) =>
      (literalFrom after).map fun (value, more) => (piece ++ value, more)
    | none => none
  | '\r' :: '\n' :: rest =>
    (literalFrom rest).map fun (value, more) => ('\n' :: value, more)
  | '\r' :: _ => none
  | c :: rest => (literalFrom rest).map fun (value, more) => (c :: value, more)
termination_by text => text.length
decreasing_by
  · obtain ⟨-, mark, rfl, light⟩ := exists_mark ‹escape? rest = some (piece, after)›
    rw [List.length_cons, List.length_append]
    omega
  · simp only [List.length_cons]
    omega
  · exact Nat.lt_succ_self _

/-- No literal has more characters than its text can bear: what needs an escape takes more. -/
theorem load_of_literalFrom {text value rest : List Char}
    (h : literalFrom text = some (value, rest)) :
    ∃ body, text = body ++ '"' :: rest ∧ load body + 2 * value.length ≤ 2 * body.length := by
  fun_induction literalFrom text generalizing value with
  | case1 => cases h
  | case2 =>
    cases h
    exact ⟨[], rfl, Nat.le_refl 0⟩
  | case3 rest piece after found ih =>
    obtain ⟨⟨later, more⟩, read, same⟩ := Option.map_eq_some_iff.1 h
    cases same
    obtain ⟨short, mark, rfl, light⟩ := exists_mark found
    obtain ⟨body, rfl, sum⟩ := ih read
    have single : weight '\\' = 1 := rfl
    refine ⟨'\\' :: (mark ++ body), by simp, ?_⟩
    rw [load, load_append, List.length_cons, List.length_append, List.length_append, single]
    omega
  | case4 => cases h
  | case5 rest ih =>
    obtain ⟨⟨front, more⟩, read, same⟩ := Option.map_eq_some_iff.1 h
    cases same
    obtain ⟨body, rfl, sum⟩ := ih read
    have pair : weight '\r' + weight '\n' = 2 := rfl
    refine ⟨'\r' :: '\n' :: body, rfl, ?_⟩
    rw [load, load, ← Nat.add_assoc, pair]
    simp only [List.length_cons]
    omega
  | case6 => cases h
  | case7 c rest quote slash _ carriage ih =>
    obtain ⟨⟨front, more⟩, read, same⟩ := Option.map_eq_some_iff.1 h
    cases same
    obtain ⟨body, rfl, sum⟩ := ih read
    refine ⟨c :: body, rfl, ?_⟩
    rw [load, List.length_cons, List.length_cons, weight_plain quote slash carriage]
    omega

/-! ## Values -/

/-- A value as it is written: with a backslash before each quote. -/
def written (value : List Char) : List Char := replaceChar '"' ['\\', '"'] value

theorem written_cons (c : Char) (value : List Char) :
    written (c :: value) = (if c == '"' then ['\\', '"'] else [c]) ++ written value := rfl

/-- What is written of a value bears it exactly, but for its backslashes and carriage returns. -/
theorem load_written (value : List Char) : load (written value) + 2 * value.length =
    2 * (written value).length + (value.count '\\' + 2 * value.count '\r') := by
  induction value with
  | nil => rfl
  | cons c rest ih =>
    have own : load (if c == '"' then ['\\', '"'] else [c]) + 2 =
        2 * (if c == '"' then ['\\', '"'] else [c]).length +
          ((if c == '\\' then 1 else 0) + 2 * if c == '\r' then 1 else 0) := by
      by_cases quote : c = '"'
      · subst quote
        rfl
      by_cases slash : c = '\\'
      · subst slash
        rfl
      by_cases carriage : c = '\r'
      · subst carriage
        rfl
      simp [load, weight, quote, slash, carriage]
    rw [written_cons, load_append, List.length_append, List.length_cons, List.count_cons,
      List.count_cons]
    omega

theorem literalFrom_quote (rest : List Char) : literalFrom ('"' :: rest) = some ([], rest) := by
  rw [literalFrom]

theorem literalFrom_escapedQuote (rest : List Char) : literalFrom ('\\' :: '"' :: rest) =
    (literalFrom rest).map fun (value, more) => ('"' :: value, more) := by
  rw [literalFrom.eq_def]
  rfl

theorem literalFrom_plain {c : Char} (quote : c ≠ '"') (slash : c ≠ '\\') (carriage : c ≠ '\r')
    (rest : List Char) : literalFrom (c :: rest) =
      (literalFrom rest).map fun (value, more) => (c :: value, more) := by
  rw [literalFrom]
  · exact quote
  · exact slash
  · exact fun _ same => absurd same carriage
  · exact carriage

theorem literalFrom_written {value : List Char} (slash : '\\' ∉ value) (carriage : '\r' ∉ value)
    (rest : List Char) : literalFrom (written value ++ '"' :: rest) = some (value, rest) := by
  induction value with
  | nil => exact literalFrom_quote rest
  | cons c more ih =>
    obtain ⟨slash, slashes⟩ := not_or.1 (mt List.mem_cons.2 slash)
    obtain ⟨carriage, carriages⟩ := not_or.1 (mt List.mem_cons.2 carriage)
    have later := ih slashes carriages
    rw [written_cons]
    by_cases quote : c = '"'
    · subst quote
      exact (literalFrom_escapedQuote _).trans (congrArg (Option.map _) later)
    · rw [if_neg (by simpa using quote), List.append_assoc, List.singleton_append,
        literalFrom_plain quote (Ne.symm slash) (Ne.symm carriage), later]
      rfl

/-- What is written of a value is a literal of this value exactly if no character of it needs an
escape but quotes. -/
theorem literalFrom_written_iff (value rest : List Char) :
    literalFrom (written value ++ '"' :: rest) = some (value, rest) ↔
      '\\' ∉ value ∧ '\r' ∉ value := by
  constructor
  · intro read
    obtain ⟨body, cut, sum⟩ := load_of_literalFrom read
    rw [← List.append_cancel_right cut, load_written] at sum
    rw [← List.count_eq_zero, ← List.count_eq_zero]
    omega
  · rintro ⟨slash, carriage⟩
    exact literalFrom_written slash carriage rest

/-! ## Members -/

/-- What stands before the value of a member. -/
def renameMark : String := "    #[serde(rename = "

def renameEnd (key : String) : String := ")]\n    " ++ pascalCase key ++ ",\n"

theorem toList_renamed {value : String} {text : List Char} (h : value.toList = text)
    (name : String) : ("    #[serde(rename = \"" ++ value ++ "\")]\n    " ++ name ++ ",\n").toList =
      renameMark.toList ++ '"' :: (text ++ '"' :: (")]\n    " ++ name ++ ",\n").toList) := by
  have front : "    #[serde(rename = \"".toList = "    #[serde(rename = ".toList ++ ['"'] := by
    decide
  have back : "\")]\n    ".toList = '"' :: ")]\n    ".toList := by decide
  simp only [renameMark, String.toList_append, front, back, h, List.append_assoc,
    List.cons_append, List.nil_append]

theorem toList_renderMember (entry : String × String) : (renderMember entry).toList =
    renameMark.toList ++
      '"' :: (written entry.2.toList ++ '"' :: (renameEnd entry.1).toList) :=
  toList_renamed String.toList_ofList (pascalCase entry.1)

/-- The literal behind a text, and what follows it. -/
def literalBehind? (front text : List Char) : Option (List Char × List Char) :=
  match dropPrefix? front text with
  | some ('"' :: rest) => literalFrom rest
  | _ => none

theorem dropPrefix?_append (front rest : List Char) :
    dropPrefix? front (front ++ rest) = some rest :=
  dropPrefix?_eq_some_iff.2 rfl

/-- Whatever follows in a file, the literal of a member ends where it should and has the value of
the member exactly if this holds no backslash and no carriage return. -/
theorem memberValue_kept_iff (entry : String × String) (more : List Char) :
    literalBehind? renameMark.toList ((renderMember entry).toList ++ more) =
        some (entry.2.toList, (renameEnd entry.1).toList ++ more) ↔
      '\\' ∉ entry.2.toList ∧ '\r' ∉ entry.2.toList := by
  rw [toList_renderMember, List.append_assoc, List.cons_append, List.append_assoc, List.cons_append,
    literalBehind?, dropPrefix?_append]
  exact literalFrom_written_iff entry.2.toList _

example : literalFrom "a \\\"b\\u\x7b1_F4BE\x7d\\\r\n\t c\")]".toList =
    some ("a \"b💾c".toList, ")]".toList) := by decide +kernel

/-- Values that lines give and that are lost: a backslash and the letter behind it are read as a
line feed, and a backslash at the end keeps the literal open. -/
theorem memberValue_lost :
    Dialect.readMemberLine "PATH = 'C:\\new'".toList = .mapping "PATH" "C:\\new" ∧
    literalBehind? renameMark.toList (renderMember ("PATH", "C:\\new")).toList =
      some ("C:\new".toList, (renameEnd "PATH").toList) ∧
    "C:\new" ≠ "C:\\new" ∧
    Dialect.readMemberLine "END = \"a\\\"".toList = .mapping "END" "a\\" ∧
    literalBehind? renameMark.toList (renderMember ("END", "a\\")).toList = none := by
  have path : renderMember ("PATH", "C:\\new") =
      "    #[serde(rename = \"C:\\new\")]\n    Path,\n" := by decide
  have ending : renameEnd "PATH" = ")]\n    Path,\n" := by decide
  have opened : renderMember ("END", "a\\") =
      "    #[serde(rename = \"a\\\")]\n    End,\n" := by decide
  rw [path, ending, opened]
  refine ⟨by decide +kernel, by decide +kernel, by decide, by decide +kernel, by decide +kernel⟩

end Target.Rust
end DocModel
