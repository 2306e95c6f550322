import DocModel.Proofs.Source.Slices

/-!
# DocModel.Proofs.Dialect.FrontMatterLines

How a document is cut at the two lines around its front matter, said through the table of its lines.

* `delimits_iff`: a line with its end is a delimiter exactly if its text in the table is one;
* `splitAtDelimiter_eq_some_iff` and `splitAtDelimiter_eq_none_iff` for the lines behind the first;
* `cut_partsOf` is the cut that is made, `Cut.unique` says that there is no other, and
  `partsOf_eq_iff` is both.
-/

namespace DocModel

open Text Unicode

/-! ## White space at the ends of lines -/

/-- A line has the same end in the table as with its line feed. -/
theorem trimEnd_pieceText (text : List Char) (i : Nat) :
    trimEnd (pieceText text i) = trimEnd (((terminatedLines text)[i]?).getD []) := by
  induction text using line_induction generalizing i with
  | last piece h =>
    have first := pieceText_zero h (.inl rfl)
    rw [List.append_nil] at first
    rw [terminatedLines_last h]
    by_cases empty : piece = []
    · subst empty
      cases i <;> rfl
    · rw [if_neg empty]
      cases i with
      | zero => exact (congrArg trimEnd first).trans (trimEnd_chopReturn piece)
      | succ i =>
        rw [pieceText, splitOn_last h]
        rfl
  | line piece rest h ih =>
    rw [terminatedLines_line h]
    cases i with
    | zero =>
      have feed : isWhiteSpace '\n' = true := by decide
      rw [pieceText_zero h (.inr ⟨rest, rfl⟩), trimEnd_chopReturn, List.getElem?_cons_zero,
        Option.getD_some, trimEnd_concat feed]
    | succ i =>
      rw [pieceText_succ h, ih, List.getElem?_cons_succ]

theorem terminatedLines_append {text : List Char} {front back : List (List Char)}
    (h : terminatedLines text = front ++ back) :
    terminatedLines front.flatten = front ∧ terminatedLines back.flatten = back := by
  induction text using line_induction generalizing front with
  | last piece bare =>
    cases front with
    | nil =>
      rw [← List.nil_append back, ← h, flatten_terminatedLines]
      exact ⟨rfl, rfl⟩
    | cons line more =>
      rw [terminatedLines_last bare] at h
      split at h
      · cases h
      · next some =>
        obtain ⟨rfl, empty⟩ := List.cons.inj h
        obtain ⟨rfl, rfl⟩ := List.append_eq_nil_iff.1 empty.symm
        rw [List.flatten_singleton, terminatedLines_last bare, if_neg some]
        exact ⟨rfl, rfl⟩
  | line piece rest bare ih =>
    cases front with
    | nil =>
      rw [← List.nil_append back, ← h, flatten_terminatedLines]
      exact ⟨rfl, rfl⟩
    | cons line more =>
      rw [terminatedLines_line bare] at h
      obtain ⟨rfl, later⟩ := List.cons.inj h
      obtain ⟨whole, behind⟩ := ih later
      rw [List.flatten_cons, List.append_assoc, List.singleton_append, terminatedLines_line bare,
        whole]
      exact ⟨rfl, behind⟩

namespace Dialect

/-! ## Delimiters -/

/-- Whether a line of a text is three hyphens, apart from white space at its end. -/
def Delimits (source : List Char) (n : Nat) : Prop :=
  trimEnd ((LineTable.ofSource source).textOf n) = ['-', '-', '-']

theorem not_delimits_zero (source : List Char) : ¬ Delimits source 0 := by
  intro h
  exact absurd h (by decide : trimEnd [] ≠ ['-', '-', '-'])

theorem delimits_iff {source : List Char} {i : Nat} : Delimits source (i + 1) ↔
    ∃ line, (terminatedLines source)[i]? = some line ∧ isDelimiter line = true := by
  rw [Delimits, textOf_eq_pieceText, trimEnd_pieceText]
  cases (terminatedLines source)[i]? with
  | none => exact iff_of_false (by decide) nofun
  | some line => simp [isDelimiter]

theorem splitAtDelimiter_eq_some_iff {ls before after : List (List Char)} :
    splitAtDelimiter ls = some (before, after) ↔ ∃ closing, ls = before ++ closing :: after ∧
      isDelimiter closing = true ∧ ∀ line ∈ before, isDelimiter line = false := by
  induction ls generalizing before with
  | nil => simp [splitAtDelimiter]
  | cons line rest ih =>
    rw [splitAtDelimiter]
    cases own : isDelimiter line with
    | true =>
      rw [if_pos rfl, Option.some.injEq, Prod.mk.injEq]
      constructor
      · rintro ⟨rfl, rfl⟩
        exact ⟨line, rfl, own, List.forall_mem_nil _⟩
      · rintro ⟨closing, cut, -, free⟩
        cases before with
        | nil => exact ⟨rfl, (List.cons.inj cut).2⟩
        | cons first more =>
          have other := free first List.mem_cons_self
          rw [← (List.cons.inj cut).1, own] at other
          cases other
    | false =>
      rw [if_neg Bool.false_ne_true, Option.map_eq_some_iff]
      constructor
      · rintro ⟨⟨inner, outer⟩, found, same⟩
        cases same
        obtain ⟨closing, rfl, ends, free⟩ := ih.1 found
        exact ⟨closing, rfl, ends, List.forall_mem_cons.2 ⟨own, free⟩⟩
      · rintro ⟨closing, cut, ends, free⟩
        cases before with
        | nil =>
          rw [← (List.cons.inj cut).1, own] at ends
          cases ends
        | cons first more =>
          obtain ⟨rfl, later⟩ := List.cons.inj cut
          have found := ih.2 ⟨closing, later, ends, (List.forall_mem_cons.1 free).2⟩
          exact ⟨_, found, rfl⟩

theorem splitAtDelimiter_eq_none_iff {ls : List (List Char)} :
    splitAtDelimiter ls = none ↔ ∀ line ∈ ls, isDelimiter line = false := by
  induction ls with
  | nil => simp [splitAtDelimiter]
  | cons line rest ih =>
    rw [splitAtDelimiter, List.forall_mem_cons, ← ih]
    cases isDelimiter line <;> simp

/-! ## Cuts -/

/-- Line `k` is the first behind the opening line that ends a front matter. -/
structure Closes (source : List Char) (k : Nat) : Prop where
  behind : 1 < k
  delimits : Delimits source k
  first : ∀ n, 1 < n → n < k → ¬ Delimits source n

/-- A document around the front matter that line `k` closes. -/
structure Around (source : List Char) (k : Nat) (opening yaml closing body : List Char) : Prop where
  first : (terminatedLines source)[0]? = some opening
  last : (terminatedLines source)[k - 1]? = some closing
  /-- The front matter is all that stands before line `k` but the first line. -/
  inside : opening ++ yaml = linesBefore source k
  lossless : opening ++ yaml ++ closing ++ body = source
  free : ∀ n, ¬ Delimits yaml n
  behind : ∀ j, 1 ≤ j →
    (LineTable.ofSource body).textOf j = (LineTable.ofSource source).textOf (k + j)
  /-- What is counted in bytes lies between characters. -/
  yamlSlice : slice? source ⟨byteLength opening, byteLength (opening ++ yaml)⟩ = some yaml
  bodySlice : slice? source ⟨byteLength (opening ++ yaml ++ closing), byteLength source⟩ = some body

/-- What becomes of a document. -/
inductive Cut (source : List Char) : Except FrontMatterError Parts → Prop where
  | bare : ¬ Delimits source 1 → Cut source (.ok { front := none, body := source, offset := 0 })
  | front {k : Nat} {opening yaml closing body : List Char} : Delimits source 1 →
      Closes source k → Around source k opening yaml closing body →
      Cut source (.ok { front := some { yaml, endLine := k }, body, offset := k })
  | unterminated : Delimits source 1 → (∀ n, 1 < n → ¬ Delimits source n) →
      Cut source (.error (.unterminatedFrontMatter 1))

section

variable {source : List Char}

theorem Closes.unique {k other : Nat} (h : Closes source k) (ho : Closes source other) :
    k = other := by
  rcases Nat.lt_trichotomy k other with less | same | more
  · exact absurd h.delimits (ho.first k h.behind less)
  · exact same
  · exact absurd ho.delimits (h.first other ho.behind more)

theorem Around.unique {k : Nat}
    {opening yaml closing body opening' yaml' closing' body' : List Char}
    (h : Around source k opening yaml closing body)
    (ho : Around source k opening' yaml' closing' body') : yaml = yaml' ∧ body = body' := by
  obtain rfl : opening = opening' := Option.some.inj (h.first.symm.trans ho.first)
  obtain rfl : closing = closing' := Option.some.inj (h.last.symm.trans ho.last)
  obtain rfl : yaml = yaml' := List.append_cancel_left (h.inside.trans ho.inside.symm)
  exact ⟨rfl, List.append_cancel_left (h.lossless.trans ho.lossless.symm)⟩

theorem Cut.unique {first second : Except FrontMatterError Parts} (hf : Cut source first)
    (hs : Cut source second) : first = second := by
  cases hf with
  | bare closed =>
    cases hs with
    | bare => rfl
    | front opens => exact absurd opens closed
    | unterminated opens => exact absurd opens closed
  | front opens closes around =>
    cases hs with
    | bare closed => exact absurd opens closed
    | front _ closes' around' =>
      obtain rfl := closes.unique closes'
      obtain ⟨rfl, rfl⟩ := around.unique around'
      rfl
    | unterminated _ none => exact absurd closes.delimits (none _ closes.behind)
  | unterminated opens none =>
    cases hs with
    | bare closed => exact absurd opens closed
    | front _ closes => exact absurd closes.delimits (none _ closes.behind)
    | unterminated => rfl

theorem around_of_lines {opening closing : List Char} {before after : List (List Char)}
    (h : terminatedLines source = opening :: (before ++ closing :: after))
    (free : ∀ line ∈ before, isDelimiter line = false) :
    Around source (before.length + 2) opening before.flatten closing after.flatten := by
  have whole : opening ++ before.flatten ++ closing ++ after.flatten = source := by
    rw [← flatten_terminatedLines source, h]
    simp only [List.flatten_cons, List.flatten_append, List.append_assoc]
  have index : before.length + 2 - 1 = before.length + 1 := rfl
  refine ⟨?first, ?last, ?inside, whole, ?free, ?behind, ?yamlSlice, ?bodySlice⟩
  case first => rw [h, List.getElem?_cons_zero]
  case last =>
    rw [h, index, List.getElem?_cons_succ, List.getElem?_append_right (Nat.le_refl _), Nat.sub_self,
      List.getElem?_cons_zero]
  case inside =>
    rw [linesBefore, h, index, List.take_succ_cons, List.take_left, List.flatten_cons]
  case free =>
    -- the lines of the front matter are lines of the document
    have own : terminatedLines before.flatten = before :=
      (terminatedLines_append (@terminatedLines_append source [opening] _ h).2).1
    intro n hn
    cases n with
    | zero => exact not_delimits_zero _ hn
    | succ i =>
      obtain ⟨line, found, ends⟩ := delimits_iff.1 hn
      rw [own] at found
      rw [free line (List.mem_of_getElem? found)] at ends
      cases ends
  case behind =>
    intro j hj
    obtain ⟨i, rfl⟩ := Nat.exists_eq_add_of_le' hj
    have rest : (terminatedLines source).drop (before.length + 2) = after := by
      rw [h, List.drop_succ_cons, ← List.drop_drop, List.drop_left, List.drop_one, List.tail_cons]
    rw [textOf_eq_pieceText, ← Nat.add_assoc, textOf_eq_pieceText, pieceText_drop, rest]
  case yamlSlice =>
    refine slice?_eq_some_iff.2 ⟨opening, closing ++ after.flatten, ?_, rfl, rfl⟩
    rw [← whole]
    simp only [List.append_assoc]
  case bodySlice =>
    refine slice?_eq_some_iff.2 ⟨opening ++ before.flatten ++ closing, [], ?_, rfl, ?_⟩
    · rw [List.append_nil, whole]
    · rw [whole]

theorem closes_of_lines {opening closing : List Char} {before after : List (List Char)}
    (h : terminatedLines source = opening :: (before ++ closing :: after))
    (ends : isDelimiter closing = true) (free : ∀ line ∈ before, isDelimiter line = false) :
    Closes source (before.length + 2) := by
  refine ⟨by omega, delimits_iff.2 ⟨closing, ?_, ends⟩, fun n more less hn => ?_⟩
  · rw [h, List.getElem?_cons_succ, List.getElem?_append_right (Nat.le_refl _), Nat.sub_self,
      List.getElem?_cons_zero]
  · obtain ⟨i, rfl⟩ := Nat.exists_eq_add_of_le' more
    obtain ⟨line, found, own⟩ := delimits_iff.1 hn
    rw [h, List.getElem?_cons_succ, List.getElem?_append_left (by omega)] at found
    rw [free line (List.mem_of_getElem? found)] at own
    cases own

theorem cut_partsOf (source : List Char) : Cut source (partsOf source) := by
  rw [partsOf]
  split
  · next lines =>
    refine .bare fun h => ?_
    obtain ⟨line, found, -⟩ := delimits_iff.1 h
    rw [lines] at found
    cases found
  · next first rest lines =>
    have opens : Delimits source 1 ↔ isDelimiter first = true := by
      rw [delimits_iff, lines]
      simp
    split
    · next own =>
      split
      · next before after found =>
        obtain ⟨closing, rfl, ends, free⟩ := splitAtDelimiter_eq_some_iff.1 found
        exact .front (opens.2 own) (closes_of_lines lines ends free) (around_of_lines lines free)
      · next none =>
        have free := splitAtDelimiter_eq_none_iff.1 none
        refine .unterminated (opens.2 own) fun n more hn => ?_
        obtain ⟨i, rfl⟩ := Nat.exists_eq_add_of_le' more
        obtain ⟨line, found, ends⟩ := delimits_iff.1 hn
        rw [lines, List.getElem?_cons_succ] at found
        rw [free line (List.mem_of_getElem? found)] at ends
        cases ends
    · next other => exact .bare (mt opens.1 other)

end

/-- A document is cut at the line that closes its front matter, if a front matter begins and ends
there, and at no other; and only a front matter without end is an error. -/
theorem partsOf_eq_iff (source : List Char) (parts : Except FrontMatterError Parts) :
    partsOf source = parts ↔ Cut source parts := by
  constructor
  · rintro rfl
    exact cut_partsOf source
  · intro cut
    exact (cut_partsOf source).unique cut

example : (partsOf "---\r\n\u00fc: 1\n--- \t\n### A".toList).map (fun p => (p.offset, p.body)) =
    .ok (3, "### A".toList) := by decide +kernel

end Dialect
end DocModel
