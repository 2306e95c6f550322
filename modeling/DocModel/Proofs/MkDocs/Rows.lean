import DocModel.Proofs.Dialect.AttributeLines
import DocModel.Proofs.Passages
import DocModel.Proofs.Source.Lines
import DocModel.Proofs.Validation.WellFormed
import DocModel.Target.MkDocs
import Mathlib.Algebra.BigOperators.Group.List.Basic
import Mathlib.Algebra.GroupWithZero.Action.Defs
import Mathlib.Algebra.Order.BigOperators.Group.List
import Mathlib.Algebra.Order.Ring.Nat

/-!
# DocModel.Proofs.MkDocs.Rows

The cells of the rows of a page. A bar is a delimiter if an even number of backslashes stands in
front of it.

* `cellsOf_row`: in a row every text is cut by itself, as the blank behind it separates it from its
  delimiter;
* a backslash in front of a bar of a text changes on which side of the rule it is, so that it is the
  bars behind an odd number of backslashes that cut a text (`bars_cell`);
* `rows_shape` says how many cells the rows of a valid model have and which are on one line, and
  `description_splits` gives a description that makes a sixth cell.
-/

namespace DocModel
namespace Target.MkDocs

open Text Validation

/-! ## Delimiters -/

/-- Whether an odd number of backslashes stands behind a character, given whether one stands in
front of it. -/
def oddBehind (odd : Bool) (c : Char) : Bool := c == '\\' && !odd

/-- How many bars of a text stand behind an odd number of backslashes, or how many behind an even
number. An odd number of them stands in front of the text if `odd` says so. -/
def bars (parity odd : Bool) : List Char → Nat
  | [] => 0
  | c :: rest => (if c = '|' ∧ odd = parity then 1 else 0) + bars parity (oddBehind odd c) rest

/-- The pieces of a text between the bars behind an even number of backslashes. -/
def piecesFrom (odd : Bool) : List Char → List (List Char)
  | [] => [[]]
  | c :: rest =>
    if c = '|' ∧ odd = false then [] :: piecesFrom (oddBehind odd c) rest
    else (piecesFrom (oddBehind odd c) rest).modifyHead (c :: ·)

/-- The cells of a row: what stands between its delimiters. -/
def cellsOf (row : List Char) : List (List Char) := (piecesFrom false row).tail.dropLast

section

variable {parity odd : Bool} {text : List Char}

theorem bars_append (first second : List Char) : bars parity odd (first ++ second) =
    bars parity odd first + bars parity (first.foldl oddBehind odd) second := by
  induction first generalizing odd with
  | nil => exact (Nat.zero_add _).symm
  | cons c rest ih => rw [List.cons_append, bars, bars, List.foldl_cons, ih, Nat.add_assoc]

theorem bars_eq_zero (h : '|' ∉ text) : bars parity odd text = 0 := by
  induction text generalizing odd with
  | nil => rfl
  | cons c rest ih =>
    obtain ⟨first, later⟩ := not_or.1 (mt List.mem_cons.2 h)
    rw [bars, ih later, if_neg fun bar => first bar.1.symm]

theorem length_piecesFrom : (piecesFrom odd text).length = bars false odd text + 1 := by
  induction text generalizing odd with
  | nil => rfl
  | cons c rest ih =>
    rw [piecesFrom, bars]
    split
    · rw [List.length_cons, ih, Nat.add_comm 1]
    · rw [List.length_modifyHead, ih, Nat.zero_add]

theorem piecesFrom_ne_nil : piecesFrom odd text ≠ [] := by
  intro none
  have length : (piecesFrom odd text).length = bars false odd text + 1 := length_piecesFrom
  rw [none] at length
  cases length

theorem piecesFrom_eq_singleton_iff : piecesFrom odd text = [text] ↔ bars false odd text = 0 := by
  constructor
  · intro single
    have length : (piecesFrom odd text).length = bars false odd text + 1 := length_piecesFrom
    rw [single] at length
    exact (Nat.succ.inj length).symm
  · intro none
    induction text generalizing odd with
    | nil => rfl
    | cons c rest ih =>
      obtain ⟨first, later⟩ := Nat.add_eq_zero_iff.1 none
      have other : ¬ (c = '|' ∧ odd = false) := fun bar => absurd first (by rw [if_pos bar]; decide)
      rw [piecesFrom, if_neg other, ih later, List.modifyHead_cons]

theorem piecesFrom_append_bar (even : text.foldl oddBehind odd = false) (more : List Char) :
    piecesFrom odd (text ++ '|' :: more) = piecesFrom odd text ++ piecesFrom false more := by
  induction text generalizing odd with
  | nil =>
    rw [List.foldl_nil] at even
    subst even
    rfl
  | cons c rest ih =>
    rw [List.foldl_cons] at even
    rw [List.cons_append, piecesFrom, piecesFrom, ih even]
    split
    · rfl
    · cases pieces : piecesFrom (oddBehind odd c) rest with
      | nil => exact absurd pieces piecesFrom_ne_nil
      | cons piece later => rfl

end

/-! ## Rows -/

/-- A text with a blank on either side, as it stands in a row. -/
def padded (text : String) : List Char := ' ' :: (text.toList ++ [' '])

/-- In a row every text has a delimiter behind it, and there is one in front of all. -/
theorem toList_row {cells : List String} (some : cells ≠ []) :
    (row cells).toList = '|' :: cells.flatMap fun text => padded text ++ ['|'] := by
  have bar : " | ".toList = [' ', '|', ' '] := rfl
  have opening : "| ".toList = ['|', ' '] := rfl
  have closing : " |".toList = [' ', '|'] := rfl
  have joined : ' ' :: ([' ', '|', ' '].intercalate (cells.map String.toList) ++ [' ', '|']) =
      cells.flatMap fun text => padded text ++ ['|'] := by
    induction cells with
    | nil => exact absurd rfl some
    | cons text rest ih =>
      cases rest with
      | nil => simp [padded]
      | cons next more =>
        rw [List.flatMap_cons, ← ih (List.cons_ne_nil _ _)]
        simp [padded, List.intercalate_cons_cons]
  rw [← joined, row, String.toList_append, String.toList_append, String.toList_intercalate, bar,
    opening, closing, List.append_assoc]
  rfl

theorem piecesFrom_padded (text : String) (more : List Char) :
    piecesFrom false (padded text ++ '|' :: more) =
      piecesFrom false (padded text) ++ piecesFrom false more := by
  refine piecesFrom_append_bar ?_ more
  rw [padded, ← List.cons_append, List.foldl_concat]
  rfl

theorem cellsOf_row {cells : List String} (some : cells ≠ []) :
    cellsOf (row cells).toList = cells.flatMap fun text => piecesFrom false (padded text) := by
  have pieces : piecesFrom false (cells.flatMap fun text => padded text ++ ['|']) =
      (cells.flatMap fun text => piecesFrom false (padded text)) ++ [[]] := by
    clear some
    induction cells with
    | nil => rfl
    | cons text rest ih =>
      rw [List.flatMap_cons, List.flatMap_cons, List.append_assoc, List.singleton_append,
        piecesFrom_padded, ih, List.append_assoc]
  have opened : piecesFrom false ('|' :: cells.flatMap fun text => padded text ++ ['|']) =
      [] :: piecesFrom false (cells.flatMap fun text => padded text ++ ['|']) := rfl
  rw [cellsOf, toList_row some, opened, pieces, List.tail_cons, List.dropLast_concat]

theorem bars_padded (text : String) :
    bars false false (padded text) = bars false false text.toList := by
  have blank : bars false false (padded text) = 0 + bars false false (text.toList ++ [' ']) := rfl
  have last (odd : Bool) : bars false odd [' '] = 0 := bars_eq_zero (by decide)
  rw [blank, bars_append, last, Nat.zero_add, Nat.add_zero]

/-- A row has one cell for every text and one for every delimiter in a text. -/
theorem length_cellsOf_row {cells : List String} (some : cells ≠ []) :
    (cellsOf (row cells).toList).length =
      cells.length + (cells.map fun text => bars false false text.toList).sum := by
  simp only [cellsOf_row some, List.length_flatMap, length_piecesFrom, bars_padded,
    List.sum_map_add, List.map_const', List.sum_replicate, smul_eq_mul, Nat.mul_one]
  exact Nat.add_comm _ _

/-- The cells of a row are what was written into it exactly if there is no delimiter in a text. -/
theorem cellsOf_row_eq_iff {cells : List String} (some : cells ≠ []) :
    cellsOf (row cells).toList = cells.map padded ↔
      ∀ text ∈ cells, bars false false text.toList = 0 := by
  constructor
  · intro kept
    have lengths := length_cellsOf_row some
    rw [kept, List.length_map, Nat.left_eq_add, List.sum_eq_zero_iff] at lengths
    exact List.forall_mem_map.1 lengths
  · intro free
    rw [cellsOf_row some, List.map_eq_flatMap]
    refine List.flatMap_congr fun text mem => ?_
    rw [piecesFrom_eq_singleton_iff, bars_padded, free text mem]

/-- A text is on one line exactly if everything is where its line ends come from. -/
theorem oneLine_iff_forall {α : Type} {text : List Char} {items : List α} {shown : α → List Char}
    (mem : ∀ c, c = '\n' ∨ c = '\r' → (c ∈ text ↔ ∃ item ∈ items, c ∈ shown item)) :
    OneLine text ↔ ∀ item ∈ items, OneLine (shown item) := by
  constructor
  · intro line item held
    exact ⟨fun feed => line.feed ((mem _ (.inl rfl)).2 ⟨item, held, feed⟩),
      fun carriage => line.unreturned ((mem _ (.inr rfl)).2 ⟨item, held, carriage⟩)⟩
  · intro each
    refine ⟨fun feed => ?_, fun carriage => ?_⟩
    · obtain ⟨item, held, inside⟩ := (mem _ (.inl rfl)).1 feed
      exact (each item held).feed inside
    · obtain ⟨item, held, inside⟩ := (mem _ (.inr rfl)).1 carriage
      exact (each item held).unreturned inside

/-- A row is on one line exactly if every text is. -/
theorem oneLine_row_iff {cells : List String} (some : cells ≠ []) :
    OneLine (row cells).toList ↔ ∀ text ∈ cells, OneLine text.toList := by
  refine oneLine_iff_forall fun c feed => ?_
  have bar : c ≠ '|' := by rcases feed with rfl | rfl <;> decide
  have blank : c ≠ ' ' := by rcases feed with rfl | rfl <;> decide
  simp [toList_row some, padded, bar, blank]

/-! ## Texts of a row -/

theorem bars_replaceFeed {parity odd : Bool} (text : List Char) :
    bars parity odd (replaceChar '\n' "<br>".toList text) = bars parity odd text := by
  induction text generalizing odd with
  | nil => rfl
  | cons c rest ih =>
    rw [replaceChar, List.flatMap_cons, ← replaceChar, bars_append, ih, bars]
    split
    · next feed =>
      obtain rfl := beq_iff_eq.1 feed
      rfl
    · rw [bars, bars, Nat.add_zero, List.foldl_cons, List.foldl_nil]

/-- A bar with another backslash in front of it is a delimiter if it was none. -/
theorem bars_replaceBar {odd : Bool} (text : List Char) :
    bars false odd (replaceChar '|' ['\\', '|'] text) = bars true odd text := by
  induction text generalizing odd with
  | nil => rfl
  | cons c rest ih =>
    rw [replaceChar, List.flatMap_cons, ← replaceChar, bars_append, ih, bars]
    split
    · next bar =>
      obtain rfl := beq_iff_eq.1 bar
      cases odd <;> rfl
    · next other =>
      have plain : c ≠ '|' := fun bar => other (beq_iff_eq.2 bar)
      rw [bars, bars, if_neg fun bar => plain bar.1, if_neg fun bar => plain bar.1,
        List.foldl_cons, List.foldl_nil]

/-- The delimiters in the text of a cell are the bars that stood behind an odd number of
backslashes. -/
theorem bars_cell (text : String) :
    bars false false (cell text).toList = bars true false text.toList := by
  rw [cell, onChars, String.toList_ofList, bars_replaceFeed, bars_replaceBar]

/-- The text of a cell is on one line exactly if there is no carriage return in it. -/
theorem oneLine_cell_iff {text : String} :
    OneLine (cell text).toList ↔ '\r' ∉ text.toList := by
  have carriage : '\r' ∉ (cell text).toList ↔ '\r' ∉ text.toList := by
    rw [cell, onChars, String.toList_ofList, ← List.count_eq_zero, ← List.count_eq_zero,
      count_replaceChar (by decide) (by decide), count_replaceChar (by decide) (by decide)]
  have feed : '\n' ∉ (cell text).toList := by
    rw [cell, onChars, String.toList_ofList]
    exact notMem_replaceChar (by decide) _
  exact ⟨fun line => carriage.1 line.unreturned, fun none => ⟨feed, carriage.2 none⟩⟩

theorem toList_code (text : String) : (code text).toList = '\x60' :: (text.toList ++ ['\x60']) := by
  rw [code, String.toList_append, String.toList_append, List.append_assoc]
  rfl

theorem bars_code (text : String) :
    bars false false (code text).toList = bars false false text.toList := by
  have tick : bars false false (code text).toList =
      0 + bars false false (text.toList ++ ['\x60']) := by
    rw [toList_code]
    rfl
  have last (odd : Bool) : bars false odd ['\x60'] = 0 := bars_eq_zero (by decide)
  rw [tick, bars_append, last, Nat.zero_add, Nat.add_zero]

theorem oneLine_code_iff {text : String} : OneLine (code text).toList ↔ OneLine text.toList := by
  have whole : OneLine (code text).toList ↔ ∀ part ∈ [text], OneLine part.toList := by
    refine oneLine_iff_forall fun c feed => ?_
    have tick : c ≠ '\x60' := by rcases feed with rfl | rfl <;> decide
    simp [toList_code, tick]
  rw [whole, List.forall_mem_singleton]

/-- A text that neither ends a cell nor breaks a row. -/
def Tame (text : List Char) : Prop := ∀ c ∈ text, c ≠ '|' ∧ c ≠ '\n' ∧ c ≠ '\r'

theorem Tame.append {first second : List Char} (hf : Tame first) (hs : Tame second) :
    Tame (first ++ second) :=
  List.forall_mem_append.2 ⟨hf, hs⟩

theorem Tame.oneLine {text : List Char} (h : Tame text) : OneLine text :=
  oneLine_of_forall fun c mem => (h c mem).2

theorem Tame.bars {text : List Char} (h : Tame text) : bars false false text = 0 :=
  bars_eq_zero fun mem => (h _ mem).1 rfl

theorem wordChar_tame {c : Char} (h : WordChar c) : c ≠ '|' ∧ c ≠ '\n' ∧ c ≠ '\r' :=
  h.of_ascii (p := fun c => c ≠ '|' ∧ c ≠ '\n' ∧ c ≠ '\r') (by decide)

/-! ## Attributes and members -/

section

variable {m : DataModel} {a : Attribute} {dtype : String}

theorem attributeTitle_tame (named : AttributeName a.name.toList) :
    Tame (attributeTitle a).toList := by
  have name : Tame a.name.toList := fun c mem => wordChar_tame (attributeName_wordChar named c mem)
  have stars : Tame "**".toList := forall_mem_of_all (by decide)
  have tick : Tame ['\x60'] := forall_mem_of_all (by decide)
  rw [attributeTitle]
  split
  · rw [String.toList_append, String.toList_append]
    exact (stars.append name).append (forall_mem_of_all (by decide))
  · rw [toList_code]
    exact tick.append (name.append tick)

theorem typeLink_eq_self (named : ∀ name ∈ m.typeNames, DefinitionName name.toList)
    (other : ¬ Dialect.WrittenType dtype) : Markdown.typeLink m dtype = dtype := by
  rw [Markdown.typeLink]
  obtain ⟨o, found, -⟩ | ⟨-, e, found, -⟩ | ⟨-, -, ⟨_, kind⟩ | kind⟩ := m.classify_cases dtype
  · exact absurd (named dtype (List.mem_append_left _ (DataModel.mem_names_of_object? found))) other
  · exact absurd (named dtype (List.mem_append_right _ (DataModel.mem_names_of_enumeration? found)))
      other
  · rw [kind]
  · rw [kind]

/-- A type of a valid model has no bar, and it is on one line exactly if its text is. -/
theorem typeLink_shape (named : ∀ name ∈ m.typeNames, DefinitionName name.toList)
    (known : KnownType m dtype) : '|' ∉ (Markdown.typeLink m dtype).toList ∧
      (OneLine (Markdown.typeLink m dtype).toList ↔ OneLine dtype.toList) := by
  by_cases written : Dialect.WrittenType dtype
  · have link : Tame (Markdown.typeLink m dtype).toList :=
      Dialect.forall_mem_typeLink m written (fun _ => wordChar_tame)
        (forall_mem_of_all (by decide))
    have own : Tame dtype.toList := fun c mem => wordChar_tame (written.wordChar c mem)
    exact ⟨fun mem => (link _ mem).1 rfl, iff_of_true link.oneLine own.oneLine⟩
  · rw [typeLink_eq_self named written]
    refine ⟨?_, Iff.rfl⟩
    -- what is left is a spelling of a primitive type with white space around it
    have spelled : Dialect.WrittenType (onChars trim dtype) := by
      rcases known with ⟨o, mem, rfl⟩ | ⟨e, mem, rfl⟩ | primitive
      · exact absurd (named _ (List.mem_append_left _ (List.mem_map_of_mem mem))) written
      · exact absurd (named _ (List.mem_append_right _ (List.mem_map_of_mem mem))) written
      · exact Dialect.WritableType.written (m := m) (.inr primitive)
    intro bar
    have inside := mem_trim_of_mem (by decide) bar
    rw [← String.toList_ofList (l := trim dtype.toList)] at inside
    exact (wordChar_tame (spelled.wordChar _ inside)).1 rfl

theorem mem_typesCell_iff {c : Char} (between : c ∉ " or ".toList) (mark : c ∉ "[]".toList) :
    c ∈ (typesCell m a).toList ↔ ∃ dtype ∈ a.dtypes, c ∈ (Markdown.typeLink m dtype).toList := by
  have list : c ∉ (if a.multiple then "[]" else "").toList := by
    split
    · exact mark
    · exact List.not_mem_nil
  rw [typesCell, String.toList_append, List.mem_append, or_iff_left list, String.toList_intercalate,
    mem_intercalate_iff between]
  simp

/-- The types of a valid model have no bar, and they are on one line exactly if their texts are. -/
theorem typesCell_shape (named : ∀ name ∈ m.typeNames, DefinitionName name.toList)
    (known : ∀ dtype ∈ a.dtypes, KnownType m dtype) : '|' ∉ (typesCell m a).toList ∧
      (OneLine (typesCell m a).toList ↔ ∀ dtype ∈ a.dtypes, OneLine dtype.toList) := by
  constructor
  · rw [mem_typesCell_iff (by decide) (by decide)]
    rintro ⟨dtype, mem, bar⟩
    exact (typeLink_shape named (known dtype mem)).1 bar
  · have links : OneLine (typesCell m a).toList ↔
        ∀ dtype ∈ a.dtypes, OneLine (Markdown.typeLink m dtype).toList := by
      refine oneLine_iff_forall fun c feed => ?_
      rcases feed with rfl | rfl <;> exact mem_typesCell_iff (by decide) (by decide)
    rw [links]
    exact forall₂_congr fun dtype mem => (typeLink_shape named (known dtype mem)).2

theorem schemeChar_not_white {c : Char} (h : SchemeChar c) : Unicode.isWhiteSpace c = false := by
  rcases h with letter | digit | rfl | rfl | rfl
  · exact wordChar_not_white (.inl letter)
  · exact wordChar_not_white (.inr (.inl digit))
  · decide
  · decide
  · decide

/-- No white space stands in a term of a valid model. -/
theorem knownTerm_not_white {config : Config} {term : String} (known : KnownTerm config term) :
    ∀ c ∈ term.toList, Unicode.isWhiteSpace c = false := by
  rcases known with ⟨scheme, rest, whole, named, solid⟩ | ⟨name, ⟨rest, whole, named, solid⟩, -⟩
  · have front := fun c mem => schemeChar_not_white
      (named.forall_mem (fun _ letter => letter.schemeChar) c mem)
    have slash : Unicode.isWhiteSpace '/' = false := by decide
    have colon : Unicode.isWhiteSpace ':' = false := by decide
    rw [whole]
    exact List.forall_mem_append.2 ⟨front, List.forall_mem_cons.2 ⟨colon,
      List.forall_mem_cons.2 ⟨slash, List.forall_mem_cons.2 ⟨slash, solid.2⟩⟩⟩⟩
  · have front := fun c mem => Dialect.prefixChar_not_white
      (named.forall_mem (fun _ => WordStart.prefixChar) c mem)
    have colon : Unicode.isWhiteSpace ':' = false := by decide
    rw [whole]
    exact List.forall_mem_append.2 ⟨front, List.forall_mem_cons.2 ⟨colon, solid.2⟩⟩

theorem bars_term (term : Option String) :
    bars false false ((term.map cell).getD "").toList =
      bars true false (term.getD "").toList := by
  cases term with
  | none => rfl
  | some term => exact bars_cell term

theorem oneLine_term (known : ∀ term, a.term = some term → KnownTerm m.config term) :
    OneLine ((a.term.map cell).getD "").toList := by
  cases given : a.term with
  | none => exact ⟨List.not_mem_nil, List.not_mem_nil⟩
  | some term =>
    refine oneLine_cell_iff.2 fun carriage => ?_
    exact absurd (knownTerm_not_white (known term given) _ carriage) (by decide)

theorem required_tame (a : Attribute) : Tame (if a.isRequired then "yes" else "no").toList := by
  split <;> exact forall_mem_of_all (by decide)

end

/-- What the row of an attribute looks like. -/
structure AttributeRow (m : DataModel) (a : Attribute) : Prop where
  /-- Bars behind an odd number of backslashes add cells to the five. -/
  count : (cellsOf (row (attributeCells m a)).toList).length =
    5 + bars true false a.docstring.toList + bars true false (a.term.getD "").toList
  /-- Without them the cells are what was written. -/
  kept : cellsOf (row (attributeCells m a)).toList = (attributeCells m a).map padded ↔
    bars true false a.docstring.toList = 0 ∧ bars true false (a.term.getD "").toList = 0
  /-- Carriage returns in the docstring and line ends around a type break the row. -/
  line : OneLine (row (attributeCells m a)).toList ↔
    '\r' ∉ a.docstring.toList ∧ ∀ dtype ∈ a.dtypes, OneLine dtype.toList

/-- What the row of a member looks like. -/
structure MemberRow (entry : String × String) : Prop where
  /-- Bars behind an odd number of backslashes in the value add cells to the two, and in the name
  the other bars. -/
  count : (cellsOf (row (memberCells entry)).toList).length =
    2 + bars false false entry.1.toList + bars true false entry.2.toList
  /-- Without them the cells are what was written. -/
  kept : cellsOf (row (memberCells entry)).toList = (memberCells entry).map padded ↔
    bars false false entry.1.toList = 0 ∧ bars true false entry.2.toList = 0
  /-- Line ends in the name and carriage returns in the value break the row. -/
  line : OneLine (row (memberCells entry)).toList ↔
    OneLine entry.1.toList ∧ '\r' ∉ entry.2.toList

theorem attributeRow {m : DataModel} {a : Attribute}
    (named : ∀ name ∈ m.typeNames, DefinitionName name.toList) (valid : WellFormedAttribute m a) :
    AttributeRow m a := by
  have title := attributeTitle_tame valid.named
  have types := typesCell_shape named valid.known
  have required := required_tame a
  have some : attributeCells m a ≠ [] := List.cons_ne_nil _ _
  have typesBars : bars false false (typesCell m a).toList = 0 := bars_eq_zero types.1
  refine ⟨?_, ?_, ?_⟩
  · rw [length_cellsOf_row some]
    simp only [attributeCells, List.length_cons, List.length_nil, List.map_cons, List.map_nil,
      List.sum_cons, List.sum_nil, title.bars, typesBars, required.bars, bars_cell, bars_term]
    omega
  · rw [cellsOf_row_eq_iff some]
    simp only [attributeCells, List.forall_mem_cons, title.bars, typesBars, required.bars,
      bars_cell, bars_term]
    simp
  · rw [oneLine_row_iff some]
    simp only [attributeCells, List.forall_mem_cons, title.oneLine, required.oneLine,
      oneLine_cell_iff, oneLine_term valid.term, types.2]
    simp [and_comm]

theorem memberRow (entry : String × String) : MemberRow entry := by
  have some : memberCells entry ≠ [] := List.cons_ne_nil _ _
  refine ⟨?_, ?_, ?_⟩
  · rw [length_cellsOf_row some]
    simp only [memberCells, List.length_cons, List.length_nil, List.map_cons, List.map_nil,
      List.sum_cons, List.sum_nil, bars_code, bars_cell]
    omega
  · rw [cellsOf_row_eq_iff some]
    simp only [memberCells, List.forall_mem_cons, bars_code, bars_cell]
    simp
  · rw [oneLine_row_iff some]
    simp only [memberCells, List.forall_mem_cons, oneLine_code_iff, oneLine_cell_iff]
    simp

/-! ## Rows of a page -/

section

variable {m : DataModel}

theorem infix_attributeRow {o : Object} (mem : o ∈ m.objects) {a : Attribute}
    (held : a ∈ o.attributes) :
    ("\n" ++ (row (attributeCells m a) ++ "\n")).toList <:+: (render m).toList := by
  have filled : ¬ o.attributes.isEmpty = true := by
    rw [List.isEmpty_iff]
    exact List.ne_nil_of_mem held
  have own : ("\n" ++ (row (attributeCells m a) ++ "\n")).toList <:+:
      (unlines (objectLines m o)).toList := by
    rw [objectLines, if_neg filled, headingLines, List.append_assoc]
    refine infix_unlines_cons (List.mem_append_right _ (List.mem_append_right _ ?_))
    exact List.mem_append_right _ (List.mem_map.2 ⟨a, held, rfl⟩)
  have sections : objectLines m o <:+: m.objects.flatMap (objectLines m) :=
    List.infix_of_mem_flatten (List.mem_map_of_mem mem)
  refine own.trans ((infix_unlines_mono sections).trans ?_)
  rw [render, String.toList_append, String.toList_append]
  exact List.infix_append _ _ _

theorem infix_memberRow {e : Enumeration} (mem : e ∈ m.enums) {entry : String × String}
    (held : entry ∈ e.mappings.entries) :
    ("\n" ++ (row (memberCells entry) ++ "\n")).toList <:+: (render m).toList := by
  have own : ("\n" ++ (row (memberCells entry) ++ "\n")).toList <:+:
      (unlines (enumerationLines e)).toList := by
    rw [enumerationLines, headingLines, List.append_assoc, List.append_assoc]
    refine infix_unlines_cons (List.mem_append_right _ (List.mem_append_right _ ?_))
    exact List.mem_append_right _ (List.mem_map.2 ⟨entry, held, rfl⟩)
  have sections : enumerationLines e <:+: m.enums.flatMap enumerationLines :=
    List.infix_of_mem_flatten (List.mem_map_of_mem mem)
  have behind : m.enums.flatMap enumerationLines <:+:
      (if m.enums.isEmpty then [] else ["", "## Enumerations"]) ++
        m.enums.flatMap enumerationLines :=
    (List.suffix_append _ _).isInfix
  refine own.trans ((infix_unlines_mono (sections.trans behind)).trans ?_)
  rw [render, String.toList_append]
  exact (List.suffix_append _ _).isInfix

end

/-- Every attribute and every member of a valid model has a row in its page, which has the cells and
the lines that follow from the texts in it. -/
theorem rows_shape (reading : Dialect.Reading) (valid : (reportOf reading).isValid = true) :
    (∀ o ∈ reading.model.objects, ∀ a ∈ o.attributes,
      ("\n" ++ (row (attributeCells reading.model a) ++ "\n")).toList <:+:
          (render reading.model).toList ∧
        AttributeRow reading.model a) ∧
    ∀ e ∈ reading.model.enums, ∀ entry ∈ e.mappings.entries,
      ("\n" ++ (row (memberCells entry) ++ "\n")).toList <:+: (render reading.model).toList ∧
        MemberRow entry := by
  have formed := wellFormed_of_isValid valid
  exact ⟨fun o mem a held => ⟨infix_attributeRow mem held,
      attributeRow formed.typesNamed (formed.attributes o mem a held)⟩,
    fun e mem entry held => ⟨infix_memberRow mem held, memberRow entry⟩⟩

/-- An attribute whose description has a bar behind two backslashes. -/
def sizeAttribute : Attribute :=
  { name := "size", dtypes := ["float", "Kind"], docstring := "a | b \\\\| c",
    xml := .ofElement "size" }

/-- An object with that attribute, and an enumeration with a bar as a value. -/
def tableModel : DataModel where
  objects := [{ name := "Part", attributes := [sizeAttribute] }]
  enums := [{ name := "Kind", mappings := { entries := [("BAR", "|")] } }]

theorem isValid_tableModel : (reportOf { model := tableModel }).isValid = true := by
  refine isValid_of_rules (.inl (by simp [tableModel])) ?_ ?_ <;> decide

theorem tableModel_rows : (reportOf { model := tableModel }).isValid = true ∧
    (cellsOf (row (attributeCells tableModel sizeAttribute)).toList).length = 5 ∧
    (cellsOf (row (memberCells ("BAR", "|"))).toList).length = 2 := by
  obtain ⟨attributes, members⟩ := rows_shape { model := tableModel } isValid_tableModel
  obtain ⟨-, size⟩ := attributes _ List.mem_cons_self sizeAttribute List.mem_cons_self
  obtain ⟨-, bar⟩ := members _ List.mem_cons_self ("BAR", "|") List.mem_cons_self
  exact ⟨isValid_tableModel, size.count.trans (by decide), bar.count.trans (by decide)⟩

/-- A document with a bar behind a backslash in a description. -/
def barDocument : String := "### A\n- x\n  - Type: string\n  - Description: a \\| b\n"

/-- The document is valid, and its description ends one cell and makes another. -/
theorem description_splits :
    (Dialect.parse barDocument).map (fun reading => ((reportOf reading).isValid,
      reading.model.objects.flatMap fun o =>
        o.attributes.map fun a => (a.docstring, row (attributeCells reading.model a)))) =
      .ok (true, [("a \\| b", "| \x60x\x60 | string | no | a \\\\| b |  |")]) ∧
    cellsOf "| \x60x\x60 | string | no | a \\\\| b |  |".toList =
      [" \x60x\x60 ", " string ", " no ", " a \\\\", " b ", "  "].map String.toList := by
  refine ⟨by decide +kernel, by decide +kernel⟩

end Target.MkDocs
end DocModel
