import DocModel.Proofs.Julia.Literals
import DocModel.Target.Python
import DocModel.Target.Rdf
import Mathlib.Algebra.Ring.Parity

/-!
# DocModel.Proofs.QuotedTexts

Escaped texts between quotes, whatever language they are written for.

* `slashes` counts the backslashes directly at the end of a text. What stands behind an odd number
  of them is escaped, and an escape in front of a text never changes that (`even_slashes_escape`);
* `rawFrom_eq_some_iff`: a literal ends at its first closing quotes that are not escaped;
* `unescape?` reads escapes back;
* `denotes_iff`: what is written for a text, and nothing else, fits on one line between quotes, ends
  where the closing ones begin and is read back as the text, with three quotes as well as with one.
-/

namespace DocModel
namespace Text

open Target

/-! ## Backslashes at the end of a text -/

/-- How many backslashes stand directly at the end of a text. -/
def slashes (text : List Char) : Nat := (text.rtakeWhile (· == '\\')).length

theorem slashes_le (text : List Char) : slashes text ≤ text.length :=
  (List.rtakeWhile_suffix _ _).length_le

/-- A character in front of a text counts only if all of the text are backslashes. -/
theorem slashes_cons (c : Char) (text : List Char) : slashes (c :: text) =
    if slashes text = text.length then text.length + (if c = '\\' then 1 else 0)
    else slashes text := by
  simp only [slashes, List.rtakeWhile, List.reverse_cons, List.takeWhile_append,
    List.length_reverse, List.takeWhile_cons, List.takeWhile_nil, beq_iff_eq]
  split
  · rw [List.length_append, List.length_reverse]
    split <;> rfl
  · rfl

theorem slashes_plain {c : Char} (other : c ≠ '\\') (text : List Char) :
    slashes (c :: text) = slashes text := by
  rw [slashes_cons, if_neg other]
  split
  · next all => rw [all, Nat.add_zero]
  · rfl

/-- An escape in front of a text does not change whether what stands behind the text is escaped:
even if all of the text are backslashes, there are none or two more of them. -/
theorem even_slashes_escape (c : Char) (text : List Char) :
    Even (slashes ('\\' :: c :: text)) ↔ Even (slashes text) := by
  have most := slashes_le text
  by_cases slash : c = '\\'
  · subst slash
    rw [slashes_cons, slashes_cons, List.length_cons, if_pos rfl]
    by_cases all : slashes text = text.length
    · rw [if_pos all, if_pos rfl, all, Nat.add_assoc, Nat.even_add]
      exact iff_true_right even_two
    · rw [if_neg all, if_neg (by omega)]
  · rw [slashes_cons, slashes_plain slash, List.length_cons, if_neg (by omega)]

theorem odd_slashes_escape (c : Char) (text : List Char) :
    Odd (slashes ('\\' :: c :: text)) ↔ Odd (slashes text) := by
  rw [← Nat.not_even_iff_odd, ← Nat.not_even_iff_odd, even_slashes_escape]

/-! ## Marks that are escaped -/

/-- Every mark that begins before a place of a text stands behind an odd number of backslashes. -/
def MarksEscaped (mark text : List Char) (place : Nat) : Prop :=
  ∀ before, before ++ mark <+: text → before.length < place → Odd (slashes before)

section

variable {mark text : List Char} {place : Nat}

theorem marksEscaped_zero : MarksEscaped mark text 0 :=
  fun _ _ shorter => absurd shorter (Nat.not_lt_zero _)

theorem MarksEscaped.not_prefix (h : MarksEscaped mark text (place + 1)) : ¬ mark <+: text :=
  fun opened => absurd (h [] opened (Nat.succ_pos place)) (by decide)

theorem marksEscaped_plain_iff {c : Char} (other : c ≠ '\\') :
    MarksEscaped mark (c :: text) (place + 1) ↔
      ¬ mark <+: c :: text ∧ MarksEscaped mark text place := by
  constructor
  · refine fun h => ⟨h.not_prefix, fun before opened shorter => ?_⟩
    rw [← slashes_plain other before]
    exact h (c :: before) (List.cons_prefix_cons.2 ⟨rfl, opened⟩) (Nat.succ_lt_succ shorter)
  · rintro ⟨solid, h⟩ before opened shorter
    cases before with
    | nil => exact absurd opened solid
    | cons d front =>
      obtain ⟨rfl, behind⟩ := List.cons_prefix_cons.1 opened
      rw [slashes_plain other]
      exact h front behind (Nat.lt_of_succ_lt_succ shorter)

/-- No mark begins with the backslash of an escape, one that begins with its second character is
escaped, and those behind it are escaped as they were without it. -/
theorem marksEscaped_escape_iff (begins : mark.head? = some '"') {c : Char} :
    MarksEscaped mark ('\\' :: c :: text) (place + 2) ↔ MarksEscaped mark text place := by
  obtain ⟨tail, rfl⟩ : ∃ tail, mark = '"' :: tail := List.head?_eq_some_iff.1 begins
  constructor
  · intro h before opened shorter
    rw [← odd_slashes_escape c before]
    refine h ('\\' :: c :: before) ?_ (Nat.add_lt_add_right shorter 2)
    exact List.cons_prefix_cons.2 ⟨rfl, List.cons_prefix_cons.2 ⟨rfl, opened⟩⟩
  · intro h before opened shorter
    match before with
    | [] => exact absurd (List.cons_prefix_cons.1 opened).1 (by decide)
    | [d] =>
      obtain ⟨rfl, -⟩ := List.cons_prefix_cons.1 opened
      decide
    | d :: e :: front =>
      obtain ⟨rfl, next⟩ := List.cons_prefix_cons.1 opened
      obtain ⟨rfl, behind⟩ := List.cons_prefix_cons.1 next
      rw [odd_slashes_escape]
      exact h front behind (Nat.lt_of_succ_lt_succ (Nat.lt_of_succ_lt_succ shorter))

end

/-! ## Closing quotes -/

/-- The quotes behind `raw` are the first ones of a text that are not escaped. -/
structure ClosedAt (quotes text raw more : List Char) : Prop where
  cut : text = raw ++ (quotes ++ more)
  free : Even (slashes raw)
  first : MarksEscaped quotes text raw.length

section

variable {quotes text raw more : List Char}

theorem ClosedAt.quote_mem (h : ClosedAt quotes text raw more) (begins : quotes.head? = some '"') :
    '"' ∈ text := by
  rw [h.cut]
  exact List.mem_append_right _ (List.mem_append_left _ (List.mem_of_head? begins))

theorem closedAt_of_prefix_iff (opened : quotes <+: text) :
    ClosedAt quotes text raw more ↔ raw = [] ∧ text = quotes ++ more := by
  constructor
  · rintro ⟨cut, -, first⟩
    cases raw with
    | nil => exact ⟨rfl, cut⟩
    | cons c later => exact absurd opened first.not_prefix
  · rintro ⟨rfl, cut⟩
    exact ⟨cut, by decide, marksEscaped_zero⟩

theorem closedAt_plain_iff {c : Char} (other : c ≠ '\\') (solid : ¬ quotes <+: c :: text) :
    ClosedAt quotes (c :: text) raw more ↔
      ∃ later, raw = c :: later ∧ ClosedAt quotes text later more := by
  constructor
  · rintro ⟨cut, free, first⟩
    cases raw with
    | nil => exact absurd ⟨more, cut.symm⟩ solid
    | cons d later =>
      obtain ⟨rfl, rfl⟩ := List.cons.inj cut
      rw [slashes_plain other] at free
      exact ⟨later, rfl, rfl, free, ((marksEscaped_plain_iff other).1 first).2⟩
  · rintro ⟨later, rfl, rfl, free, first⟩
    rw [← slashes_plain other] at free
    exact ⟨rfl, free, (marksEscaped_plain_iff other).2 ⟨solid, first⟩⟩

theorem closedAt_escape_iff (begins : quotes.head? = some '"') {c : Char} :
    ClosedAt quotes ('\\' :: c :: text) raw more ↔
      ∃ later, raw = '\\' :: c :: later ∧ ClosedAt quotes text later more := by
  constructor
  · rintro ⟨cut, free, first⟩
    match raw with
    | [] =>
      have head := congrArg List.head? cut
      rw [List.nil_append, List.head?_append, begins] at head
      cases head
    | [d] =>
      -- a backslash at the end would escape the quotes
      obtain ⟨rfl, -⟩ := List.cons.inj cut
      exact absurd free (by decide)
    | d :: e :: later =>
      obtain ⟨rfl, behind⟩ := List.cons.inj cut
      obtain ⟨rfl, rfl⟩ := List.cons.inj behind
      exact ⟨later, rfl, rfl, (even_slashes_escape c later).1 free,
        (marksEscaped_escape_iff begins).1 first⟩
  · rintro ⟨later, rfl, rfl, free, first⟩
    exact ⟨rfl, (even_slashes_escape c later).2 free, (marksEscaped_escape_iff begins).2 first⟩

/-- What is read in front of a text goes on with what is read of the text. -/
theorem map_front_eq_some_iff {read : Option (List Char × List Char)} (front : List Char) :
    read.map (fun (later, rest) => (front ++ later, rest)) = some (raw, more) ↔
      ∃ later, raw = front ++ later ∧ read = some (later, more) := by
  constructor
  · intro h
    obtain ⟨⟨later, _⟩, found, same⟩ := Option.map_eq_some_iff.1 h
    cases same
    exact ⟨later, rfl, found⟩
  · rintro ⟨later, rfl, rfl⟩
    rfl

/-- A literal ends at its first closing quotes that are not escaped. -/
theorem rawFrom_eq_some_iff (begins : quotes.head? = some '"') :
    Julia.rawFrom quotes text = some (raw, more) ↔ ClosedAt quotes text raw more := by
  fun_induction Julia.rawFrom quotes text generalizing raw with
  | case1 =>
    exact iff_of_false (Option.some_ne_none _).symm fun h =>
      absurd (h.quote_mem begins) List.not_mem_nil
  | case2 c rest ih =>
    simp only [closedAt_escape_iff begins, ← ih]
    exact map_front_eq_some_iff ['\\', c]
  | case3 c rest _ closed =>
    obtain ⟨behind, same⟩ := List.isPrefixOf_iff_prefix.1 closed
    rw [closedAt_of_prefix_iff ⟨behind, same⟩, ← same, List.drop_left, Option.some_inj,
      Prod.mk.injEq, List.append_cancel_left_eq, eq_comm (a := [])]
  | case4 c rest single opened ih =>
    by_cases slash : c = '\\'
    · -- a backslash at the end of the text
      subst slash
      obtain rfl : rest = [] := by
        cases rest with
        | nil => rfl
        | cons d later => exact (single d later rfl rfl).elim
      rw [Julia.rawFrom]
      exact iff_of_false (Option.some_ne_none _).symm fun h =>
        absurd (h.quote_mem begins) (by decide)
    · simp only [closedAt_plain_iff slash (mt List.isPrefixOf_iff_prefix.2 opened), ← ih]
      exact map_front_eq_some_iff [c]

end

/-! ## Texts that fit between quotes -/

/-- Line feed, carriage return and tab, for which literals on one line have escapes. -/
def controls : List Char := ['\n', '\r', '\t']

/-- What a text must be so that it stands on one line between quotes and goes on up to the closing
ones: each quote in it is escaped, and what follows it is not. -/
structure Quotable (body : List Char) : Prop where
  line : ∀ c ∈ body, c ∉ controls
  quotes : MarksEscaped ['"'] body body.length
  ending : Even (slashes body)

theorem quotable_nil : Quotable [] := ⟨List.forall_mem_nil _, marksEscaped_zero, by decide⟩

theorem quotable_plain_iff {c : Char} (other : c ≠ '\\') {text : List Char} :
    Quotable (c :: text) ↔ (c ∉ controls ∧ c ≠ '"') ∧ Quotable text := by
  have solid : ¬ ['"'] <+: c :: text ↔ c ≠ '"' := by
    rw [List.cons_prefix_cons, and_iff_left List.nil_prefix, eq_comm]
  constructor
  · rintro ⟨line, quotes, ending⟩
    obtain ⟨first, later⟩ := List.forall_mem_cons.1 line
    obtain ⟨quote, quotes⟩ := (marksEscaped_plain_iff other).1 quotes
    rw [slashes_plain other] at ending
    exact ⟨⟨first, solid.1 quote⟩, later, quotes, ending⟩
  · rintro ⟨⟨first, quote⟩, later, quotes, ending⟩
    rw [← slashes_plain other] at ending
    exact ⟨List.forall_mem_cons.2 ⟨first, later⟩,
      (marksEscaped_plain_iff other).2 ⟨solid.2 quote, quotes⟩, ending⟩

theorem quotable_escape_iff {c : Char} {text : List Char} :
    Quotable ('\\' :: c :: text) ↔ c ∉ controls ∧ Quotable text := by
  constructor
  · rintro ⟨line, quotes, ending⟩
    obtain ⟨-, behind⟩ := List.forall_mem_cons.1 line
    obtain ⟨first, later⟩ := List.forall_mem_cons.1 behind
    exact ⟨first, later, (marksEscaped_escape_iff rfl).1 quotes,
      (even_slashes_escape c text).1 ending⟩
  · rintro ⟨first, later, quotes, ending⟩
    have behind : ∀ d ∈ c :: text, d ∉ controls := List.forall_mem_cons.2 ⟨first, later⟩
    exact ⟨List.forall_mem_cons.2 ⟨by decide, behind⟩, (marksEscaped_escape_iff rfl).2 quotes,
      (even_slashes_escape c text).2 ending⟩

/-- The first closing quotes that are not escaped are those behind a text that fits between them,
even if there are more quotes behind them. -/
theorem Quotable.closedAt {body quotes : List Char} (h : Quotable body)
    (begins : quotes.head? = some '"') (more : List Char) :
    ClosedAt quotes (body ++ (quotes ++ more)) body more where
  cut := rfl
  free := h.ending
  first before opened shorter := by
    obtain ⟨tail, rfl⟩ : ∃ tail, quotes = '"' :: tail := List.head?_eq_some_iff.1 begins
    -- the first of the quotes stands in the text
    have one : before ++ ['"'] <+: before ++ '"' :: tail := ⟨tail, by simp⟩
    have inside : before ++ ['"'] <+: body :=
      List.prefix_of_prefix_length_le (one.trans opened) (List.prefix_append body _)
        (by simpa using Nat.succ_le_of_lt shorter)
    exact h.quotes before inside shorter

/-! ## Escapes that are read back -/

/-- The character that one character behind a backslash stands for. -/
def escapedChar? : Char → Option Char
  | '\\' => some '\\'
  | '"' => some '"'
  | 'n' => some '\n'
  | 'r' => some '\r'
  | 't' => some '\t'
  | _ => none

/-- What a text with escapes stands for. -/
def unescape? : List Char → Option (List Char)
  | [] => some []
  | '\\' :: c :: text =>
    match escapedChar? c with
    | some d => (unescape? text).map (d :: ·)
    | none => none
  | c :: text => if c == '\\' then none else (unescape? text).map (c :: ·)

/-- A character is written as an escape that stands for it, or as itself. -/
theorem literalImage_cases (c : Char) :
    (∃ d, literalImage c = ['\\', d] ∧ escapedChar? d = some c ∧ d ∉ controls) ∨
      literalImage c = [c] ∧ c ≠ '\\' ∧ c ∉ controls ∧ c ≠ '"' := by
  rw [literalImage.eq_def]
  split
  · exact .inl ⟨'\\', rfl, rfl, by decide⟩
  · exact .inl ⟨'"', rfl, rfl, by decide⟩
  · exact .inl ⟨'n', rfl, rfl, by decide⟩
  · exact .inl ⟨'r', rfl, rfl, by decide⟩
  · exact .inl ⟨'t', rfl, rfl, by decide⟩
  · next slash quote feed carriage tab =>
    refine .inr ⟨rfl, slash, ?_, quote⟩
    rw [controls, List.mem_cons, List.mem_cons, List.mem_singleton, not_or, not_or]
    exact ⟨feed, carriage, tab⟩

theorem literalImage_of_escapedChar? {c d : Char} (h : escapedChar? c = some d) :
    literalImage d = ['\\', c] := by
  rw [escapedChar?.eq_def] at h
  split at h <;> cases h <;> rfl

theorem literalImage_plain {c : Char} (slash : c ≠ '\\') (line : c ∉ controls) (quote : c ≠ '"') :
    literalImage c = [c] := by
  rcases literalImage_cases c with ⟨d, -, found, -⟩ | ⟨image, -⟩
  · rw [escapedChar?.eq_def] at found
    split at found <;> cases found
    · exact absurd rfl slash
    · exact absurd rfl quote
    all_goals exact absurd (by decide) line
  · exact image

theorem unescape?_plain {c : Char} (slash : c ≠ '\\') (text : List Char) :
    unescape? (c :: text) = (unescape? text).map (c :: ·) := by
  rw [unescape?, if_neg (by simpa using slash)]
  exact fun _ _ same => absurd same slash

theorem quotable_escaped (text : List Char) : Quotable (Julia.escaped text) := by
  induction text with
  | nil => exact quotable_nil
  | cons c rest ih =>
    rw [Julia.escaped_cons]
    rcases literalImage_cases c with ⟨d, image, -, line⟩ | ⟨image, slash, solid⟩ <;> rw [image]
    · exact quotable_escape_iff.2 ⟨line, ih⟩
    · exact (quotable_plain_iff slash).2 ⟨solid, ih⟩

/-- What is written for a text is read back as the text. -/
theorem unescape?_escaped (text : List Char) : unescape? (Julia.escaped text) = some text := by
  induction text with
  | nil => rfl
  | cons c rest ih =>
    rw [Julia.escaped_cons]
    rcases literalImage_cases c with ⟨d, image, found, -⟩ | ⟨image, slash, -⟩ <;> rw [image]
    · rw [List.cons_append, List.singleton_append, unescape?, found, ih]
      rfl
    · rw [List.singleton_append, unescape?_plain slash, ih]
      rfl

/-- Nothing else that fits between quotes is read back as the text. -/
theorem eq_escaped_of_unescape? {body text : List Char} (fits : Quotable body)
    (read : unescape? body = some text) : body = Julia.escaped text := by
  fun_induction unescape? body generalizing text with
  | case1 =>
    cases read
    rfl
  | case2 c rest d found ih =>
    obtain ⟨later, behind, rfl⟩ := Option.map_eq_some_iff.1 read
    rw [Julia.escaped_cons, literalImage_of_escapedChar? found,
      ih (quotable_escape_iff.1 fits).2 behind]
    rfl
  | case3 => cases read
  | case4 => cases read
  | case5 c rest single slash ih =>
    obtain ⟨later, behind, rfl⟩ := Option.map_eq_some_iff.1 read
    have other : c ≠ '\\' := by simpa using slash
    obtain ⟨⟨line, quote⟩, fits⟩ := (quotable_plain_iff other).1 fits
    rw [Julia.escaped_cons, literalImage_plain other line quote, ih fits behind]
    rfl

/-! ## Literals -/

/-- What makes a text the inside of a literal between quotes: it fits there, the literal ends where
the quotes behind it begin, whatever follows them, and its escapes stand for the value. -/
structure Denotes (quotes body value : List Char) : Prop where
  fits : Quotable body
  closed : ∀ more, ClosedAt quotes (body ++ (quotes ++ more)) body more
  read : unescape? body = some value

/-- What is written for a text is the one inside of a literal that has the text as its value. -/
theorem denotes_iff {quotes body text : List Char} (begins : quotes.head? = some '"') :
    Denotes quotes body text ↔ body = Julia.escaped text := by
  constructor
  · exact fun h => eq_escaped_of_unescape? h.fits h.read
  · rintro rfl
    have fits := quotable_escaped text
    exact ⟨fits, fits.closedAt begins, unescape?_escaped text⟩

/-- The value of the literal between quotes with which a text begins, and what follows it. -/
def literalBetween? (quotes text : List Char) : Option (List Char × List Char) :=
  (dropPrefix? quotes text).bind fun rest =>
    (Julia.rawFrom quotes rest).bind fun (raw, more) =>
      (unescape? raw).map fun value => (value, more)

theorem Denotes.literalBetween? {quotes body value : List Char} (h : Denotes quotes body value)
    (begins : quotes.head? = some '"') (more : List Char) :
    literalBetween? quotes (quotes ++ (body ++ (quotes ++ more))) = some (value, more) := by
  rw [Text.literalBetween?, dropPrefix?_eq_some_iff.2 rfl, Option.bind_some,
    (rawFrom_eq_some_iff begins).2 (h.closed more), Option.bind_some]
  exact congrArg (Option.map fun value => (value, more)) h.read

theorem toList_escapeString (text : String) :
    (escapeString text).toList = Julia.escaped text.toList := String.toList_ofList

/-- An escaped text between quotes is read up to the closing ones, whatever follows. -/
theorem literalBetween?_escapeString {quotes : String} (begins : quotes.toList.head? = some '"')
    (text : String) (more : List Char) :
    literalBetween? quotes.toList ((quotes ++ escapeString text ++ quotes).toList ++ more) =
      some (text.toList, more) := by
  have denotes : Denotes quotes.toList (escapeString text).toList text.toList :=
    (denotes_iff begins).2 (toList_escapeString text)
  rw [String.toList_append, String.toList_append, List.append_assoc, List.append_assoc]
  exact denotes.literalBetween? begins more

/-- The escaped form of a text and no other text stands on one line between quotes with every quote
in it escaped, ends where the closing quotes begin and is read back as the text. The same holds
between three quotes for the text on one line. The literals for values in Python and RDF and those
for docstrings in Python are read accordingly, whatever follows them. -/
theorem escaped_texts_denote (text : String) :
    (∀ body, Denotes ['"'] body text.toList ↔ body = (escapeString text).toList) ∧
    (∀ body, Denotes Julia.tripleQuotes body (oneLine text).toList ↔
      body = (escapeString (oneLine text)).toList) ∧
    ∀ more,
      literalBetween? ['"'] ((Python.textLiteral text).toList ++ more) = some (text.toList, more) ∧
      literalBetween? ['"'] ((Rdf.literal text).toList ++ more) = some (text.toList, more) ∧
      literalBetween? Julia.tripleQuotes ((Python.docText text).toList ++ more) =
        some ((oneLine text).toList, more) := by
  have one : "\"".toList.head? = some '"' := rfl
  have three : "\"\"\"".toList.head? = some '"' := rfl
  simp only [toList_escapeString]
  exact ⟨fun _ => denotes_iff one, fun _ => denotes_iff three, fun more =>
    ⟨literalBetween?_escapeString one text more, literalBetween?_escapeString one text more,
      literalBetween?_escapeString three (oneLine text) more⟩⟩

/-- A docstring that ends with a backslash and a quote, with one more quote behind it. -/
example : literalBetween? Julia.tripleQuotes
    (Python.docText "Says \"\"\"hi\"\"\"\n\ttwice. \\\"" ++ "\" x").toList =
      some ("Says \"\"\"hi\"\"\" twice. \\\"".toList, "\" x".toList) := by decide +kernel

end Text
end DocModel
