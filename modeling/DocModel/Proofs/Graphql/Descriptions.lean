import DocModel.Proofs.Passages
import DocModel.Proofs.Rust.MemberValues
import DocModel.Target.Graphql
import DocModel.Validation.Report
import Mathlib.Data.List.Flatten

/-!
# DocModel.Proofs.Graphql.Descriptions

Descriptions as string tokens of GraphQL. A description on one line is written as a string, of which
only the quotes are escaped; one on several lines is written as a block string, of which nothing is.

* `stringFrom` and `blockFrom` read the two kinds of tokens, and `blockValue` removes from a block
  string the indentation of its lines and the blank lines at its ends;
* the indentation that a description gets is removed again (`blockValue_indented`);
* `description_denotes_iff` says of which descriptions the token has the value; others are lost
  (`descriptions_lost`).
-/

namespace DocModel
namespace Target.Graphql

open Text

/-! ## Strings of the language -/

/-- The character that one character behind a backslash stands for. -/
def escapedChar? : Char → Option Char
  | '"' => some '"'
  | '\\' => some '\\'
  | '/' => some '/'
  | 'b' => some '\x08'
  | 'f' => some '\x0c'
  | 'n' => some '\n'
  | 'r' => some '\r'
  | 't' => some '\t'
  | _ => none

/-- The character of a leading and a trailing surrogate. -/
def pairedChar? (leading trailing : Nat) : Option Char :=
  if 0xD800 ≤ leading && leading < 0xDC00 && 0xDC00 ≤ trailing && trailing < 0xE000 then
    some (Char.ofNat (0x10000 + (leading - 0xD800) * 0x400 + (trailing - 0xDC00)))
  else none

/-- The character of two numbers of four hexadecimal digits each, the second one behind `\u`, and
what comes next. -/
def surrogates? (text : List Char) : Option (Char × List Char) :=
  match Toml.hexNumber? 4 0 text with
  | some (leading, '\\' :: 'u' :: more) =>
    match Toml.hexNumber? 4 0 more with
    | some (trailing, rest) => (pairedChar? leading trailing).map fun c => (c, rest)
    | none => none
  | _ => none

/-- The character of a number: hexadecimal digits between braces, four of them, or a pair of
surrogates. -/
def numberedChar? : List Char → Option (Char × List Char)
  | '\x7b' :: text =>
    match splitOnce '\x7d' text with
    | some (digits, rest) =>
      if digits.isEmpty then none
      else (Toml.codeCharacter? digits.length digits).map fun (c, _) => (c, rest)
    | none => none
  | text => (Toml.codeCharacter? 4 text).or (surrogates? text)

/-- The character that a backslash and the text behind it stand for, and what comes next. -/
def escape? : List Char → Option (Char × List Char)
  | [] => none
  | 'u' :: rest => numberedChar? rest
  | c :: rest => (escapedChar? c).map fun d => (d, rest)

theorem suffix_of_surrogates? {text rest : List Char} {c : Char}
    (h : surrogates? text = some (c, rest)) : rest <:+ text := by
  rw [surrogates?] at h
  split at h
  · next leading more first =>
    split at h
    · next trailing after second =>
      obtain ⟨_, -, same⟩ := Option.map_eq_some_iff.1 h
      cases same
      have front := Rust.suffix_of_hexNumber? first
      have back := Rust.suffix_of_hexNumber? second
      exact back.trans ((List.suffix_cons _ _).trans ((List.suffix_cons _ _).trans front))
    · cases h
  · cases h

theorem suffix_of_numberedChar? {text rest : List Char} {c : Char}
    (h : numberedChar? text = some (c, rest)) : rest <:+ text := by
  rw [numberedChar?.eq_def] at h
  split at h
  · next text =>
    split at h
    · next digits after found =>
      split at h
      · cases h
      · obtain ⟨_, -, same⟩ := Option.map_eq_some_iff.1 h
        cases same
        exact (suffix_of_splitOnce found).trans (List.suffix_cons _ text)
    · cases h
  · rcases Option.or_eq_some_iff.1 h with code | ⟨-, pair⟩
    · exact Rust.suffix_of_codeCharacter? code
    · exact suffix_of_surrogates? pair

theorem exists_mark {text after : List Char} {c : Char} (h : escape? text = some (c, after)) :
    ∃ mark, text = mark ++ after ∧ Rust.load mark < 2 * mark.length := by
  rw [escape?.eq_def] at h
  split at h
  · cases h
  · exact Rust.exists_mark_of_suffix (by decide) (suffix_of_numberedChar? h)
  · next d rest _ =>
    obtain ⟨_, found, same⟩ := Option.map_eq_some_iff.1 h
    cases same
    have other : d ≠ '\r' := by
      rintro rfl
      cases found
    exact Rust.exists_mark_of_suffix (Rust.weight_le_one other) (List.suffix_refl _)

/-- The value of a string from behind its opening quote on, and what follows its closing quote. No
line end stands in a string. -/
def stringFrom : List Char → Option (List Char × List Char)
  | [] => none
  | '"' :: rest => some ([], rest)
  | '\\' :: rest =>
    match _h : escape? rest with
    | some (c, after) => (stringFrom after).map fun (value, more) => (c :: value, more)
    | none => none
  | '\n' :: _ => none
  | '\r' :: _ => none
  | c :: rest => (stringFrom rest).map fun (value, more) => (c :: value, more)
termination_by text => text.length
decreasing_by
  · obtain ⟨mark, rfl, light⟩ := exists_mark ‹escape? rest = some (c, after)›
    rw [List.length_cons, List.length_append]
    omega
  · exact Nat.lt_succ_self _

/-- No string has more characters than its text can bear: what needs an escape takes more. -/
theorem load_of_stringFrom {text value rest : List Char}
    (h : stringFrom text = some (value, rest)) :
    ∃ body, text = body ++ '"' :: rest ∧
      Rust.load body + 2 * value.length ≤ 2 * body.length := by
  fun_induction stringFrom text generalizing value with
  | case1 => cases h
  | case2 =>
    cases h
    exact ⟨[], rfl, Nat.le_refl 0⟩
  | case3 rest c after found ih =>
    obtain ⟨⟨later, more⟩, read, same⟩ := Option.map_eq_some_iff.1 h
    cases same
    obtain ⟨mark, rfl, light⟩ := exists_mark found
    obtain ⟨body, rfl, sum⟩ := ih read
    have single : Rust.weight '\\' = 1 := rfl
    refine ⟨'\\' :: (mark ++ body), by simp, ?_⟩
    rw [Rust.load, Rust.load_append, single]
    simp only [List.length_cons, List.length_append]
    omega
  | case4 => cases h
  | case5 => cases h
  | case6 => cases h
  | case7 c rest quote slash _ carriage ih =>
    obtain ⟨⟨front, more⟩, read, same⟩ := Option.map_eq_some_iff.1 h
    cases same
    obtain ⟨body, rfl, sum⟩ := ih read
    refine ⟨c :: body, rfl, ?_⟩
    rw [Rust.load, List.length_cons, List.length_cons, Rust.weight_plain quote slash carriage]
    omega

theorem stringFrom_escapedQuote (rest : List Char) : stringFrom ('\\' :: '"' :: rest) =
    (stringFrom rest).map fun (value, more) => ('"' :: value, more) := by
  rw [stringFrom.eq_def]
  rfl

theorem stringFrom_plain {c : Char} (quote : c ≠ '"') (slash : c ≠ '\\') (feed : c ≠ '\n')
    (carriage : c ≠ '\r') (rest : List Char) : stringFrom (c :: rest) =
      (stringFrom rest).map fun (value, more) => (c :: value, more) := by
  rw [stringFrom]
  · exact quote
  · exact slash
  · exact feed
  · exact carriage

theorem stringFrom_written {text : List Char} (slash : '\\' ∉ text) (feed : '\n' ∉ text)
    (carriage : '\r' ∉ text) (rest : List Char) :
    stringFrom (Rust.written text ++ '"' :: rest) = some (text, rest) := by
  induction text with
  | nil =>
    change stringFrom ('"' :: rest) = some ([], rest)
    rw [stringFrom]
  | cons c more ih =>
    obtain ⟨slash, slashes⟩ := not_or.1 (mt List.mem_cons.2 slash)
    obtain ⟨feed, feeds⟩ := not_or.1 (mt List.mem_cons.2 feed)
    obtain ⟨carriage, carriages⟩ := not_or.1 (mt List.mem_cons.2 carriage)
    have later := ih slashes feeds carriages
    rw [Rust.written_cons]
    by_cases quote : c = '"'
    · subst quote
      exact (stringFrom_escapedQuote _).trans (congrArg (Option.map _) later)
    · rw [if_neg (by simpa using quote), List.append_assoc, List.singleton_append,
        stringFrom_plain quote (Ne.symm slash) (Ne.symm feed) (Ne.symm carriage), later]
      rfl

/-- A text on one line with a backslash before each quote is a string of this text exactly if no
other character of it needs an escape. -/
theorem stringFrom_written_iff {text : List Char} (feed : '\n' ∉ text) (rest : List Char) :
    stringFrom (Rust.written text ++ '"' :: rest) = some (text, rest) ↔
      '\r' ∉ text ∧ '\\' ∉ text := by
  constructor
  · intro read
    obtain ⟨body, cut, sum⟩ := load_of_stringFrom read
    rw [← List.append_cancel_right cut, Rust.load_written] at sum
    rw [← List.count_eq_zero, ← List.count_eq_zero]
    omega
  · rintro ⟨carriage, slash⟩
    exact stringFrom_written slash feed carriage rest

/-! ## Block strings of the language -/

/-- The raw text of a block string from behind its opening quotes on, and what follows its closing
ones. Three quotes stand for themselves behind a backslash. -/
def blockFrom : List Char → Option (List Char × List Char)
  | [] => none
  | '"' :: '"' :: '"' :: rest => some ([], rest)
  | '\\' :: '"' :: '"' :: '"' :: rest =>
    (blockFrom rest).map fun (raw, more) => (blockQuotes.toList ++ raw, more)
  | c :: rest => (blockFrom rest).map fun (raw, more) => (c :: raw, more)

/-- White space inside of a line. -/
def isBlank (c : Char) : Bool := c == ' ' || c == '\t'

/-- Whether there is nothing but white space in a line. -/
def isBlankLine (line : List Char) : Bool := line.all isBlank

/-- How much white space stands before every line that is not blank. -/
def commonIndent (lines : List (List Char)) : Nat :=
  ((lines.filter (!isBlankLine ·)).map fun line => (line.takeWhile isBlank).length).min?.getD 0

/-- Lines without the blank ones at either end. -/
def trimLines (lines : List (List Char)) : List (List Char) :=
  (lines.dropWhile isBlankLine).rdropWhile isBlankLine

/-- The value of a block string: its lines but for their common indentation, in which the first one
plays no part, and for the blank ones at either end. -/
def blockValue (raw : List Char) : List Char :=
  match splitOn '\n' (lineFeeds raw) with
  | [] => []
  | first :: others =>
    joinWith ['\n'] (trimLines (first :: others.map (·.drop (commonIndent others))))

theorem quotes_ne_nil : blockQuotes.toList ≠ [] := by decide

/-- A character with which no three quotes and no escape begin stands for itself. -/
theorem blockFrom_cons {c : Char} {text : List Char} (opened : ¬ blockQuotes.toList <+: c :: text)
    (escaped : ¬ '\\' :: blockQuotes.toList <+: c :: text) :
    blockFrom (c :: text) = (blockFrom text).map fun (raw, more) => (c :: raw, more) := by
  rw [blockFrom.eq_def]
  split
  · next same => cases same
  · next rest same => exact absurd ⟨rest, same.symm⟩ opened
  · next rest same => exact absurd ⟨rest, same.symm⟩ escaped
  · next same =>
    cases same
    rfl

theorem blockFrom_closing {text : List Char} (plain : ∀ c ∈ text, c ≠ '"' ∧ c ≠ '\\')
    (rest : List Char) : blockFrom (text ++ (blockQuotes.toList ++ rest)) = some (text, rest) := by
  induction text with
  | nil => rfl
  | cons c more ih =>
    obtain ⟨⟨quote, slash⟩, later⟩ := List.forall_mem_cons.1 plain
    rw [List.cons_append, blockFrom_cons, ih later]
    · rfl
    · exact fun mark => quote (List.cons_prefix_cons.1 mark).1.symm
    · exact fun mark => slash (List.cons_prefix_cons.1 mark).1.symm

/-- A text without three quotes in a row stands for itself in a block string. -/
theorem blockFrom_append {text : List Char} (free : ¬ blockQuotes.toList <:+: text) {c : Char}
    (other : c ∉ '\\' :: blockQuotes.toList) (more : List Char) :
    blockFrom (text ++ c :: more) =
      (blockFrom (c :: more)).map fun (raw, rest) => (text ++ raw, rest) := by
  induction text with
  | nil => exact Option.map_id'.symm
  | cons d rest ih =>
    obtain ⟨first, later⟩ := not_or.1 (mt List.infix_cons_iff.2 free)
    have opened : ¬ blockQuotes.toList <+: d :: (rest ++ c :: more) := fun mark =>
      first (prefix_of_prefix_append (fun mem => other (List.mem_cons_of_mem _ mem)) mark)
    have escaped : ¬ '\\' :: blockQuotes.toList <+: d :: (rest ++ c :: more) := fun mark =>
      later (List.cons_prefix_cons.1 (prefix_of_prefix_append other mark)).2.isInfix
    rw [List.cons_append, blockFrom_cons opened escaped, ih later, Option.map_map]
    rfl

/-- Behind a block string there are as many backslashes as in its text exactly if there are no three
quotes in it. -/
theorem cut_of_blockFrom {text raw rest : List Char} (h : blockFrom text = some (raw, rest)) :
    ∃ body, text = body ++ (blockQuotes.toList ++ rest) ∧ raw.count '\\' ≤ body.count '\\' ∧
      (raw.count '\\' = body.count '\\' → ¬ blockQuotes.toList <:+: body) := by
  fun_induction blockFrom text generalizing raw with
  | case1 => cases h
  | case2 more =>
    cases h
    exact ⟨[], rfl, Nat.le_refl 0, fun _ => by decide⟩
  | case3 more ih =>
    obtain ⟨⟨later, _⟩, read, same⟩ := Option.map_eq_some_iff.1 h
    cases same
    obtain ⟨body, rfl, fewer, -⟩ := ih read
    refine ⟨'\\' :: (blockQuotes.toList ++ body), rfl, ?_, ?_⟩
    all_goals
      rw [List.count_cons_self, List.count_append, List.count_append]
      omega
  | case4 c more opened escaped ih =>
    obtain ⟨⟨later, _⟩, read, same⟩ := Option.map_eq_some_iff.1 h
    cases same
    obtain ⟨body, rfl, fewer, free⟩ := ih read
    refine ⟨c :: body, rfl, ?_, fun all => ?_⟩
    · rw [List.count_cons, List.count_cons]
      omega
    · rw [List.count_cons, List.count_cons, Nat.add_right_cancel_iff] at all
      rw [List.infix_cons_iff, not_or]
      refine ⟨?_, free all⟩
      rintro ⟨after, same⟩
      obtain ⟨rfl, rfl⟩ := List.cons.inj same
      exact opened _ rfl rfl

/-- No character but line feeds is more frequent in the value than in the text. -/
theorem count_blockValue_le {c : Char} (other : c ≠ '\n') (raw : List Char) :
    (blockValue raw).count c ≤ (lineFeeds raw).count c := by
  rw [blockValue]
  split
  · exact Nat.zero_le _
  · next first others cut =>
    have dropped (lines : List (List Char)) (n : Nat) :
        (lines.map (·.drop n)).flatten.Sublist lines.flatten := by
      induction lines with
      | nil => exact List.Sublist.refl _
      | cons line rest ih => exact (List.drop_sublist n line).append ih
    have trimmed (lines : List (List Char)) : (trimLines lines).Sublist lines :=
      (List.rdropWhile_prefix _ _).sublist.trans (List.dropWhile_sublist _)
    rw [count_joinWith other, ← joinWith_splitOn (lineFeeds raw), cut, count_joinWith other]
    refine ((trimmed _).flatten.trans ?_).count_le c
    exact (List.Sublist.refl first).append (dropped others _)

/-! ## Indentation -/

theorem isWhiteSpace_of_isBlank {c : Char} (h : isBlank c = true) :
    Unicode.isWhiteSpace c = true := by
  rw [isBlank, Bool.or_eq_true, beq_iff_eq, beq_iff_eq] at h
  rcases h with rfl | rfl <;> decide

theorem isBlankLine_eq_false {line : List Char} {c : Char} (mem : c ∈ line)
    (solid : Unicode.isWhiteSpace c = false) : isBlankLine line = false := by
  rw [isBlankLine, List.all_eq_false]
  refine ⟨c, mem, fun blank => ?_⟩
  rw [isWhiteSpace_of_isBlank blank] at solid
  cases solid

section

variable {text : List Char} (trimmed : Trimmed text) (some : text ≠ [])

include trimmed some

theorem firstLine_solid : ∀ line ∈ (splitOn '\n' text).head?,
    ∃ c rest, line = c :: rest ∧ Unicode.isWhiteSpace c = false := by
  cases text with
  | nil => exact absurd rfl some
  | cons c rest =>
    have solid := (trimmed_iff.1 trimmed).1 c rfl
    have other : (c == '\n') = false := by
      rw [beq_eq_false_iff_ne]
      rintro rfl
      exact absurd solid (by decide)
    rw [splitOn, splitWhere, if_neg (by simp [other])]
    split
    · rintro line ⟨⟩
      exact ⟨c, [], rfl, solid⟩
    · next piece _ _ =>
      rintro line ⟨⟩
      exact ⟨c, piece, rfl, solid⟩

theorem lastLine_solid : ∀ line ∈ (splitOn '\n' text).getLast?,
    ∃ c ∈ line, Unicode.isWhiteSpace c = false := by
  intro line last
  obtain ⟨front, cut⟩ := List.getLast?_eq_some_iff.1 (Option.mem_def.1 last)
  have ending : ∃ before, text = before ++ line ∧ (before = [] ∨ before.getLast? = .some '\n') := by
    rw [← joinWith_splitOn text, cut]
    cases front with
    | nil => exact ⟨[], rfl, .inl rfl⟩
    | cons first more =>
      refine ⟨_, joinWith_append (List.cons_ne_nil _ _) (List.cons_ne_nil _ _), .inr ?_⟩
      rw [List.getLast?_concat]
  obtain ⟨before, rfl, stop⟩ := ending
  have solid := (trimmed_iff.1 trimmed).2
  cases found : line.getLast? with
  | some c =>
    refine ⟨c, List.mem_of_mem_getLast? found, solid c ?_⟩
    rw [List.getLast?_append, found]
    rfl
  | none =>
    obtain rfl := List.getLast?_eq_none_iff.1 found
    rw [List.append_nil] at some solid
    exact absurd (solid '\n' (stop.resolve_left some)) (by decide)

end

theorem trimLines_framed {lines : List (List Char)} (some : lines ≠ [])
    (first : ∀ line ∈ lines.head?, isBlankLine line = false)
    (last : ∀ line ∈ lines.getLast?, isBlankLine line = false) :
    trimLines ([] :: (lines ++ [[]])) = lines := by
  have front : (lines ++ [[]]).dropWhile isBlankLine = lines ++ [[]] := by
    cases lines with
    | nil => exact absurd rfl some
    | cons line rest => exact List.dropWhile_cons_of_neg (by simp [first line rfl])
  rw [trimLines, List.dropWhile_cons_of_pos rfl, front, List.rdropWhile_concat_pos _ _ _ rfl,
    List.rdropWhile_eq_self_iff]
  intro filled
  simp [last _ (List.getLast?_eq_getLast_of_ne_nil filled)]

section

variable {indent : List Char} (blank : ∀ c ∈ indent, c = ' ')

include blank in
theorem takeWhile_indent (line : List Char) :
    (indent ++ line).takeWhile isBlank = indent ++ line.takeWhile isBlank :=
  List.takeWhile_append_of_pos fun c hc => by rw [blank c hc]; rfl

include blank in
theorem isBlankLine_indent (line : List Char) :
    isBlankLine (indent ++ line) = isBlankLine line := by
  have front : indent.all isBlank = true :=
    List.all_eq_true.2 fun c hc => by rw [blank c hc]; rfl
  rw [isBlankLine, List.all_append, front, Bool.true_and]
  rfl

include blank in
/-- Behind an indentation that every line has got, the common one is this one if the first line had
none. -/
theorem commonIndent_indented {c : Char} {line : List Char} {lines : List (List Char)}
    (solid : Unicode.isWhiteSpace c = false) :
    commonIndent (((c :: line) :: lines).map (indent ++ ·) ++ [indent]) = indent.length := by
  have closing : isBlankLine indent = true := by
    simpa [isBlankLine] using isBlankLine_indent blank []
  have first : isBlankLine (indent ++ c :: line) = false := by
    rw [isBlankLine_indent blank, isBlankLine_eq_false List.mem_cons_self solid]
  have stop : (c :: line).takeWhile isBlank = [] := by
    refine List.takeWhile_cons_of_neg fun white => ?_
    rw [isWhiteSpace_of_isBlank white] at solid
    cases solid
  rw [commonIndent, List.filter_append, List.filter_cons_of_neg (by simp [closing]),
    List.filter_nil, List.append_nil, List.map_cons, List.filter_cons_of_pos (by simp [first]),
    List.map_cons, takeWhile_indent blank, stop, List.append_nil]
  have least : ((indent.length :: (((lines.map (indent ++ ·)).filter (!isBlankLine ·)).map
      fun line => (line.takeWhile isBlank).length)).min?) = .some indent.length := by
    rw [List.min?_eq_some_iff]
    refine ⟨List.mem_cons_self, fun n mem => ?_⟩
    rcases List.mem_cons.1 mem with rfl | mem
    · exact Nat.le_refl _
    · obtain ⟨_, kept, rfl⟩ := List.mem_map.1 mem
      obtain ⟨line, -, rfl⟩ := List.mem_map.1 (List.mem_of_mem_filter kept)
      rw [takeWhile_indent blank, List.length_append]
      exact Nat.le_add_right _ _
  rw [least]
  rfl

theorem indented_eq_joinWith (text : List Char) :
    '\n' :: (indent ++ (replaceChar '\n' ('\n' :: indent) text ++ '\n' :: indent)) =
      joinWith ['\n'] ([] :: ((splitOn '\n' text).map (indent ++ ·) ++ [indent])) := by
  have some : splitOn '\n' text ≠ [] := splitWhere_ne_nil _ text
  have lines : (splitOn '\n' text).map (indent ++ ·) ≠ [] := by simpa using some
  have body : (splitOn '\n' text).map (indent ++ ·) ++ [indent] ≠ [] :=
    List.append_ne_nil_of_right_ne_nil _ (List.cons_ne_nil _ _)
  rw [replaceChar_eq_joinWith, ← List.singleton_append (l := _ ++ [indent]),
    joinWith_append (List.cons_ne_nil _ _) body, joinWith_append lines (List.cons_ne_nil _ _),
    joinWith_map_append some]
  simp [joinWith]

include blank in
/-- A text on several lines that is indented as a whole is the value of the block string. -/
theorem blockValue_indented {text : List Char} (trimmed : Trimmed text) (some : text ≠ [])
    (carriage : '\r' ∉ text) :
    blockValue ('\n' :: (indent ++ (replaceChar '\n' ('\n' :: indent) text ++ '\n' :: indent))) =
      text := by
  have filled : splitOn '\n' text ≠ [] := splitWhere_ne_nil _ text
  have spaced : ∀ c, c ≠ ' ' → c ∉ indent := fun c other mem => other (blank c mem)
  have feeds : ∀ line ∈ [] :: ((splitOn '\n' text).map (indent ++ ·) ++ [indent]),
      '\n' ∉ line ∧ '\r' ∉ line := by
    simp only [List.mem_cons, List.mem_append, List.mem_map, List.not_mem_nil, or_false]
    rintro line (rfl | ⟨inner, mem, rfl⟩ | rfl)
    · exact ⟨List.not_mem_nil, List.not_mem_nil⟩
    · simp only [List.mem_append, not_or]
      exact ⟨⟨spaced _ (by decide), notMem_of_mem_splitOn mem⟩, spaced _ (by decide),
        fun inside => carriage (mem_of_mem_splitOn mem inside)⟩
    · exact ⟨spaced _ (by decide), spaced _ (by decide)⟩
  have unchanged :
      lineFeeds (joinWith ['\n'] ([] :: ((splitOn '\n' text).map (indent ++ ·) ++ [indent]))) =
        joinWith ['\n'] ([] :: ((splitOn '\n' text).map (indent ++ ·) ++ [indent])) := by
    refine lineFeeds_eq_self_iff.2 fun mem => ?_
    rcases mem_joinWith mem with same | ⟨line, inside, mem⟩
    · cases same
    · exact (feeds line inside).2 mem
  have cut := splitOn_joinWith (List.cons_ne_nil _ _) fun line mem => (feeds line mem).1
  rw [indented_eq_joinWith, blockValue, unchanged, cut]
  have head := firstLine_solid trimmed some
  have last := lastLine_solid trimmed some
  have joined := joinWith_splitOn text
  generalize splitOn '\n' text = lines at *
  cases lines with
  | nil => exact absurd rfl filled
  | cons line more =>
    obtain ⟨c, rest, rfl, solid⟩ := head line rfl
    have bared : ((((c :: rest) :: more).map (indent ++ ·) ++ [indent]).map
        (·.drop indent.length)) = (c :: rest) :: more ++ [[]] := by
      simp [Function.comp_def, List.drop_left']
    dsimp only
    rw [commonIndent_indented blank solid, bared, trimLines_framed (List.cons_ne_nil _ _), joined]
    · rintro line ⟨⟩
      exact isBlankLine_eq_false List.mem_cons_self solid
    · intro line mem
      obtain ⟨d, inside, other⟩ := last line mem
      exact isBlankLine_eq_false inside other

include blank in
theorem plain_indent : ∀ c ∈ '\n' :: indent, c ≠ '"' ∧ c ≠ '\\' ∧ c ∉ blockQuotes.toList := by
  intro c mem
  rcases List.mem_cons.1 mem with rfl | mem
  · decide
  · rw [blank c mem]
    decide

include blank in
/-- Line feeds and indentation make no three quotes in a row. -/
theorem quotes_infix_indented_iff (text : List Char) :
    blockQuotes.toList <:+: '\n' :: (indent ++ replaceChar '\n' ('\n' :: indent) text) ↔
      blockQuotes.toList <:+: text := by
  have bare : ∀ c ∈ '\n' :: indent, c ∉ blockQuotes.toList := fun c mem =>
    (plain_indent blank c mem).2.2
  rw [← List.cons_append, infix_append_right_iff quotes_ne_nil bare, replaceChar_eq_joinWith,
    infix_joinWith_iff quotes_ne_nil (List.cons_ne_nil _ _) bare,
    ← infix_splitOn_iff quotes_ne_nil (by decide)]

include blank in
/-- An indented text is the value of a block string exactly if no carriage return and no three
quotes in a row stand in it. -/
theorem blockFrom_indented_iff {text : List Char} (trimmed : Trimmed text) (some : text ≠ [])
    (rest : List Char) :
    (blockFrom ('\n' :: (indent ++ (replaceChar '\n' ('\n' :: indent) text ++ '\n' :: indent)) ++
        (blockQuotes.toList ++ rest))).map (fun (raw, more) => (blockValue raw, more)) =
      .some (text, rest) ↔ '\r' ∉ text ∧ ¬ blockQuotes.toList <:+: text := by
  have slash : '\\' ∉ '\n' :: indent := fun mem => (plain_indent blank _ mem).2.1 rfl
  have whole : '\n' :: (indent ++ (replaceChar '\n' ('\n' :: indent) text ++ '\n' :: indent)) =
      '\n' :: (indent ++ replaceChar '\n' ('\n' :: indent) text) ++ '\n' :: indent := by simp
  constructor
  · intro read
    obtain ⟨⟨raw, more⟩, token, same⟩ := Option.map_eq_some_iff.1 read
    obtain ⟨value, rfl⟩ := Prod.mk.inj same
    obtain ⟨body, cut, fewer, free⟩ := cut_of_blockFrom token
    obtain rfl := List.append_cancel_right cut
    constructor
    · have bound := count_blockValue_le (c := '\r') (by decide) raw
      rw [value, List.count_eq_zero.2 (return_notMem_lineFeeds raw)] at bound
      exact List.count_eq_zero.1 (Nat.le_zero.1 bound)
    · -- the value has as many backslashes as the text, so none of them was part of an escape
      have bound := count_blockValue_le (c := '\\') (by decide) raw
      have all : List.count '\\' ('\n' :: (indent ++ (replaceChar '\n' ('\n' :: indent) text ++
          '\n' :: indent))) = text.count '\\' := by
        rw [← List.cons_append, List.count_append, List.count_append,
          count_replaceChar (by decide) slash, List.count_eq_zero.2 slash, Nat.zero_add,
          Nat.add_zero]
      rw [value, count_lineFeeds (by decide) (by decide)] at bound
      have none := free (by omega)
      rw [whole] at none
      exact fun mark => none (((quotes_infix_indented_iff blank text).2 mark).trans
        (List.prefix_append _ _).isInfix)
  · rintro ⟨carriage, free⟩
    have closing : blockFrom ('\n' :: indent ++ (blockQuotes.toList ++ rest)) =
        .some ('\n' :: indent, rest) := blockFrom_closing
      (fun c mem => ⟨(plain_indent blank c mem).1, (plain_indent blank c mem).2.1⟩) rest
    have inside := blockFrom_append (mt (quotes_infix_indented_iff blank text).1 free)
      (c := '\n') (by decide) (indent ++ (blockQuotes.toList ++ rest))
    rw [List.cons_append] at closing
    rw [closing] at inside
    have value := blockValue_indented blank trimmed some carriage
    rw [whole] at value
    rw [whole, List.append_assoc]
    exact (congrArg (Option.map _) inside).trans
      (congrArg (fun value => Option.some (value, rest)) value)

end

/-! ## Descriptions -/

/-- The value of a string or a block string, and what follows it. -/
def stringToken? : List Char → Option (List Char × List Char)
  | '"' :: '"' :: '"' :: rest => (blockFrom rest).map fun (raw, more) => (blockValue raw, more)
  | '"' :: rest => stringFrom rest
  | _ => none

/-- The value of the string behind white space, and what follows it. -/
def stringBehind? (text : List Char) : Option (List Char × List Char) :=
  stringToken? (text.dropWhile isBlank)

theorem stringBehind?_indent {indent text : List Char} (blank : ∀ c ∈ indent, c = ' ')
    (solid : ∀ c ∈ text.head?, isBlank c = false) :
    stringBehind? (indent ++ text) = stringToken? text := by
  have white : ∀ c ∈ indent, isBlank c = true := fun c mem => by
    rw [blank c mem]
    rfl
  rw [stringBehind?, List.dropWhile_append_of_pos white, dropWhile_eq_self solid]

theorem toList_description_line {docstring : String} (some : docstring ≠ "")
    (feed : '\n' ∉ docstring.toList) (indent : String) : (description docstring indent).toList =
      indent.toList ++ '"' :: (Rust.written docstring.toList ++ ['"', '\n']) := by
  rw [description, if_neg (by simpa using some), if_neg (by simpa using feed)]
  simp only [String.toList_append, onChars, String.toList_ofList, List.append_assoc, Rust.written]
  rfl

theorem toList_description_lines {docstring : String} (feed : '\n' ∈ docstring.toList)
    (indent : String) : (description docstring indent).toList =
      indent.toList ++ (blockQuotes.toList ++ ('\n' :: (indent.toList ++
        (replaceChar '\n' ('\n' :: indent.toList) docstring.toList ++ '\n' :: indent.toList)) ++
          (blockQuotes.toList ++ ['\n']))) := by
  have some : docstring ≠ "" := by
    rintro rfl
    cases feed
  rw [description, if_neg (by simpa using some), if_pos (by simpa using feed)]
  simp only [String.toList_append, onChars, String.toList_ofList, List.append_assoc]
  have line : "\n".toList = ['\n'] := rfl
  simp only [line, List.cons_append, List.nil_append, List.append_assoc]

theorem stringToken?_written {text : List Char} (some : text ≠ []) (rest : List Char) :
    stringToken? ('"' :: (Rust.written text ++ rest)) = stringFrom (Rust.written text ++ rest) := by
  cases text with
  | nil => exact absurd rfl some
  | cons c more =>
    rw [Rust.written_cons]
    by_cases quote : c = '"'
    · subst quote
      rfl
    · rw [if_neg (by simpa using quote), List.append_assoc, List.singleton_append, stringToken?]
      intro _ same
      exact quote (List.cons.inj same).1

/-- Whatever follows in a file, what is written for a description is one string, or one block string
if there are several lines, up to the line feed at its end; and the value of the string is the
description exactly if there is no carriage return in it and no backslash, or no three quotes in a
row if there are several lines. -/
theorem description_denotes_iff {docstring indent : String} (some : docstring ≠ "")
    (trimmed : Trimmed docstring.toList) (blank : ∀ c ∈ indent.toList, c = ' ')
    (more : List Char) :
    stringBehind? ((description docstring indent).toList ++ more) =
        .some (docstring.toList, '\n' :: more) ↔
      '\r' ∉ docstring.toList ∧
        if '\n' ∈ docstring.toList then ¬ blockQuotes.toList <:+: docstring.toList
        else '\\' ∉ docstring.toList := by
  have filled : docstring.toList ≠ [] := by simpa using some
  by_cases feed : '\n' ∈ docstring.toList
  · rw [if_pos feed, toList_description_lines feed, List.append_assoc,
      stringBehind?_indent blank (by rintro c ⟨⟩; rfl)]
    simp only [List.append_assoc]
    exact blockFrom_indented_iff blank trimmed filled ('\n' :: more)
  · rw [if_neg feed, toList_description_line some feed, List.append_assoc,
      stringBehind?_indent blank (by rintro c ⟨⟩; rfl), List.cons_append, List.append_assoc,
      stringToken?_written filled]
    exact stringFrom_written_iff feed ('\n' :: more)

/-- A description on two lines, the second one indented, with backslashes and quotes. -/
def patternText : String := "Matches \\d+ and \"a\".\n  Or \"\"."

theorem description_denotes_patternText : patternText ≠ "" ∧ Trimmed patternText.toList ∧
    (∀ c ∈ "  ".toList, c = ' ') ∧
    stringBehind? ((description patternText "  ").toList ++ "  name: String".toList) =
      some (patternText.toList, "\n  name: String".toList) :=
  have trimmed : Trimmed patternText.toList := by
    rw [Trimmed]
    decide +kernel
  have blank : ∀ c ∈ "  ".toList, c = ' ' := by simp
  ⟨by decide, trimmed, blank,
    (description_denotes_iff (by decide) trimmed blank _).2 (by decide +kernel)⟩

/-- A document that describes an attribute by a path. -/
def pathDocument : String := "### A\n- x\n  - Type: string\n  - Description: C:\\new\n"

/-- A document that describes an object on two lines, with three quotes in a row. -/
def quotedDocument : String := "### A\n\nSay \"\"\"a\"\"\"\nb\n\n- x\n  - Type: string\n"

/-- Descriptions of valid documents that are lost: a backslash and the letter behind it are read as
a line feed, and three quotes in a row end a block string. -/
theorem descriptions_lost :
    (Dialect.parse pathDocument).map (fun reading => ((Validation.reportOf reading).isValid,
      reading.model.objects.flatMap fun o => o.attributes.map (·.docstring))) =
        .ok (true, ["C:\\new"]) ∧
    stringBehind? (description "C:\\new" "  ").toList = some ("C:\new".toList, ['\n']) ∧
    "C:\new" ≠ "C:\\new" ∧
    (Dialect.parse quotedDocument).map (fun reading => ((Validation.reportOf reading).isValid,
      reading.model.objects.map (·.docstring))) =
        .ok (true, ["Say \"\"\"a\"\"\"\nb"]) ∧
    stringBehind? (description "Say \"\"\"a\"\"\"\nb" "").toList =
      some ("Say ".toList, "a\"\"\"\nb\n\"\"\"\n".toList) := by
  refine ⟨by decide +kernel, by decide +kernel, by decide, by decide +kernel, by decide +kernel⟩

end Target.Graphql
end DocModel
