import DocModel.Proofs.Words
import DocModel.Target.Layout
import Mathlib.Data.List.Infix

/-!
# DocModel.Proofs.Passages

Where a text occurs inside of another one, and texts whose line ends are line feeds.

* `infix_append_cons_iff`: a mark does not reach across a character that it does not hold, so that
  it occurs in a text exactly if it occurs in one of its lines (`infix_splitOn_iff`);
* `infix_join`, `infix_unlines`: what is rendered piece by piece holds every piece;
* `lineFeeds` writes every line end as a line feed, as most languages read their sources.
-/

namespace DocModel
namespace Text

/-! ## Joined lines -/

theorem terminated_eq_joinWith {ls : List (List Char)} (some : ls ≠ []) :
    terminated ls = joinWith ['\n'] ls ++ ['\n'] := by
  induction ls with
  | nil => exact absurd rfl some
  | cons line rest ih =>
    rw [terminated_cons]
    cases rest with
    | nil => rfl
    | cons next more =>
      rw [ih (List.cons_ne_nil _ _), joinWith]
      simp only [List.append_assoc, List.cons_append, List.nil_append]

theorem joinWith_splitOn (text : List Char) : joinWith ['\n'] (splitOn '\n' text) = text := by
  have some : splitOn '\n' text ≠ [] := splitWhere_ne_nil _ text
  have same := terminated_splitOn text
  rw [terminated_eq_joinWith some] at same
  exact List.append_cancel_right same

theorem count_joinWith {sep c : Char} (other : c ≠ sep) (pieces : List (List Char)) :
    (joinWith [sep] pieces).count c = pieces.flatten.count c := by
  induction pieces with
  | nil => rfl
  | cons piece rest ih =>
    cases rest with
    | nil => rw [joinWith, List.flatten_cons, List.flatten_nil, List.append_nil]
    | cons next more =>
      rw [joinWith, List.count_append, List.count_append, List.count_singleton,
        if_neg (by simpa using other.symm), Nat.add_zero, ih, ← List.count_append,
        ← List.flatten_cons]

theorem mem_intercalate_iff {c : Char} {sep : List Char} (bare : c ∉ sep)
    {pieces : List (List Char)} : c ∈ sep.intercalate pieces ↔ ∃ piece ∈ pieces, c ∈ piece := by
  induction pieces with
  | nil => simp
  | cons piece rest ih =>
    cases rest with
    | nil => simp
    | cons next more =>
      rw [List.intercalate_cons_cons, List.mem_append, List.mem_append, or_iff_left bare, ih]
      simp

theorem replaceChar_append (old : Char) (new first second : List Char) :
    replaceChar old new (first ++ second) =
      replaceChar old new first ++ replaceChar old new second :=
  List.flatMap_append

theorem replaceChar_of_notMem {old : Char} {text : List Char} (h : old ∉ text)
    (new : List Char) : replaceChar old new text = text := by
  induction text with
  | nil => rfl
  | cons c rest ih =>
    obtain ⟨other, later⟩ := not_or.1 (mt List.mem_cons.2 h)
    have first : (if c == old then new else [c]) = [c] :=
      if_neg fun same => other (beq_iff_eq.1 same).symm
    rw [replaceChar] at ih
    rw [replaceChar, List.flatMap_cons, first, ih later, List.singleton_append]

theorem notMem_replaceChar {old : Char} {new : List Char} (bare : old ∉ new) (text : List Char) :
    old ∉ replaceChar old new text := by
  intro mem
  obtain ⟨c, -, inside⟩ := List.mem_flatMap.1 mem
  split at inside
  · exact bare inside
  · next other => exact other (beq_iff_eq.2 (List.mem_singleton.1 inside).symm)

theorem count_replaceChar {c old : Char} (other : c ≠ old) {new : List Char} (bare : c ∉ new)
    (text : List Char) : (replaceChar old new text).count c = text.count c := by
  induction text with
  | nil => rfl
  | cons d rest ih =>
    rw [replaceChar] at ih
    rw [replaceChar, List.flatMap_cons, List.count_append, ih, List.count_cons, Nat.add_comm]
    congr 1
    split
    · next same =>
      rw [beq_iff_eq.1 same, List.count_eq_zero.2 bare, if_neg (by simpa using other.symm)]
    · rw [List.count_singleton]

theorem replaceChar_joinWith {sep : Char} {pieces : List (List Char)}
    (bare : ∀ piece ∈ pieces, sep ∉ piece) (new : List Char) :
    replaceChar sep new (joinWith [sep] pieces) = joinWith new pieces := by
  induction pieces with
  | nil => rfl
  | cons piece rest ih =>
    obtain ⟨first, later⟩ := List.forall_mem_cons.1 bare
    cases rest with
    | nil => exact replaceChar_of_notMem first new
    | cons next more =>
      have one : replaceChar sep new [sep] = new := by simp [replaceChar]
      rw [joinWith, replaceChar_append, replaceChar_append, replaceChar_of_notMem first, one,
        ih later, joinWith]

theorem replaceChar_eq_joinWith (new text : List Char) :
    replaceChar '\n' new text = joinWith new (splitOn '\n' text) := by
  rw [← replaceChar_joinWith fun _ => notMem_of_mem_splitOn, joinWith_splitOn]

theorem joinWith_map_append {sep front : List Char} {pieces : List (List Char)}
    (some : pieces ≠ []) :
    joinWith sep (pieces.map (front ++ ·)) = front ++ joinWith (sep ++ front) pieces := by
  induction pieces with
  | nil => exact absurd rfl some
  | cons piece rest ih =>
    cases rest with
    | nil => rfl
    | cons next more =>
      rw [List.map_cons, List.map_cons, joinWith, ← List.map_cons, ih (List.cons_ne_nil _ _),
        joinWith]
      simp only [List.append_assoc]

/-! ## Marks -/

section

variable {mark text : List Char}

theorem infix_append_cons_iff (some : mark ≠ []) {c : Char} (bare : c ∉ mark)
    {before after : List Char} :
    mark <:+: before ++ c :: after ↔ mark <:+: before ∨ mark <:+: after := by
  -- what of the mark stands behind `before` would begin with the character
  have stop : ∀ {part : List Char}, part <+: c :: after → c ∉ part → part = [] := by
    intro part first other
    rcases List.prefix_cons_iff.1 first with empty | ⟨rest, rfl, -⟩
    · exact empty
    · exact absurd List.mem_cons_self other
  rw [List.infix_append_iff, List.infix_cons_iff]
  constructor
  · rintro (inside | (first | behind) | ⟨left, right, rfl, left_of, right_of⟩)
    · exact .inl inside
    · exact absurd (stop first bare) some
    · exact .inr behind
    · have empty := stop right_of fun mem => bare (List.mem_append_right left mem)
      rw [empty, List.append_nil]
      exact .inl left_of.isInfix
  · rintro (inside | behind)
    · exact .inl inside
    · exact .inr (.inl (.inr behind))

theorem infix_append_left_iff (some : mark ≠ []) {back : List Char}
    (bare : ∀ c ∈ back, c ∉ mark) : mark <:+: text ++ back ↔ mark <:+: text := by
  induction back generalizing text with
  | nil => rw [List.append_nil]
  | cons c rest ih =>
    obtain ⟨first, later⟩ := List.forall_mem_cons.1 bare
    rw [infix_append_cons_iff some first, or_iff_left]
    intro inside
    have none : mark <:+: [] := (ih later).1 inside
    exact some (List.infix_nil.1 none)

theorem infix_append_right_iff (some : mark ≠ []) {front : List Char}
    (bare : ∀ c ∈ front, c ∉ mark) : mark <:+: front ++ text ↔ mark <:+: text := by
  induction front with
  | nil => rw [List.nil_append]
  | cons c rest ih =>
    obtain ⟨first, later⟩ := List.forall_mem_cons.1 bare
    have cut : mark <:+: [] ++ c :: (rest ++ text) ↔ mark <:+: [] ∨ mark <:+: rest ++ text :=
      infix_append_cons_iff some first
    rw [List.nil_append] at cut
    rw [List.cons_append, cut, ih later, or_iff_right]
    exact fun none => some (List.infix_nil.1 none)

theorem infix_joinWith_iff (some : mark ≠ []) {sep : List Char} (filled : sep ≠ [])
    (bare : ∀ c ∈ sep, c ∉ mark) {pieces : List (List Char)} :
    mark <:+: joinWith sep pieces ↔ ∃ piece ∈ pieces, mark <:+: piece := by
  induction pieces with
  | nil => simpa [joinWith] using some
  | cons piece rest ih =>
    cases rest with
    | nil => simp [joinWith]
    | cons next more =>
      cases sep with
      | nil => exact absurd rfl filled
      | cons c back =>
        obtain ⟨first, later⟩ := List.forall_mem_cons.1 bare
        rw [joinWith, List.append_assoc, List.cons_append, infix_append_cons_iff some first,
          infix_append_right_iff some later, ih]
        simp

theorem infix_terminated_iff (some : mark ≠ []) (bare : '\n' ∉ mark) {ls : List (List Char)} :
    mark <:+: terminated ls ↔ ∃ line ∈ ls, mark <:+: line := by
  induction ls with
  | nil => simpa [terminated] using some
  | cons line rest ih =>
    rw [terminated_cons, infix_append_cons_iff some bare, ih]
    simp

/-- A mark on one line occurs in a text exactly if it occurs in a line of it. -/
theorem infix_splitOn_iff (some : mark ≠ []) (bare : '\n' ∉ mark) :
    mark <:+: text ↔ ∃ line ∈ splitOn '\n' text, mark <:+: line := by
  have feed : ∀ c ∈ ['\n'], c ∉ mark := fun c hc => List.mem_singleton.1 hc ▸ bare
  rw [← infix_joinWith_iff some (List.cons_ne_nil _ _) feed, joinWith_splitOn]

/-- White space at the end of a text has no part in a mark without white space. -/
theorem infix_trimEnd_iff (some : mark ≠ []) (solid : ∀ c ∈ mark, Unicode.isWhiteSpace c = false) :
    mark <:+: trimEnd text ↔ mark <:+: text := by
  have bare : ∀ c ∈ text.rtakeWhile Unicode.isWhiteSpace, c ∉ mark := by
    intro c white mem
    exact absurd (List.mem_rtakeWhile_imp white) (by simp [solid c mem])
  rw [trimEnd, dropEndWhile_eq_rdropWhile, ← infix_append_left_iff some bare,
    List.rdropWhile_append_rtakeWhile]

theorem mem_trim_of_mem {c : Char} (solid : Unicode.isWhiteSpace c = false) (mem : c ∈ text) :
    c ∈ trim text := by
  have outside {part : List Char} (white : c ∈ part → Unicode.isWhiteSpace c = true) : c ∉ part :=
    fun inside => absurd (white inside) (by simp [solid])
  rw [← List.takeWhile_append_dropWhile (p := Unicode.isWhiteSpace) (l := text), List.mem_append,
    or_iff_right (outside List.mem_takeWhile_imp),
    ← List.rdropWhile_append_rtakeWhile (p := Unicode.isWhiteSpace)
      (l := text.dropWhile Unicode.isWhiteSpace),
    List.mem_append, or_iff_left (outside List.mem_rtakeWhile_imp)] at mem
  rwa [trim, trimWhere, dropEndWhile_eq_rdropWhile]

/-- A mark without white space occurs in a text exactly if it occurs in a line without the white
space at its end. -/
theorem infix_lines_iff (some : mark ≠ []) (solid : ∀ c ∈ mark, Unicode.isWhiteSpace c = false) :
    (∃ line ∈ lines text, mark <:+: trimEnd line) ↔ mark <:+: text := by
  have bare : '\n' ∉ mark := fun mem => absurd (solid _ mem) (by decide)
  have chopped (pieces : List (List Char)) :
      (∃ line ∈ pieces.map chopReturn, mark <:+: trimEnd line) ↔
        ∃ line ∈ pieces, mark <:+: line := by
    simp only [List.mem_map, exists_exists_and_eq_and, trimEnd_chopReturn]
    simp only [infix_trimEnd_iff some solid]
  have cut : splitOn '\n' text =
      (splitOn '\n' text).dropLast ++ [(splitOn '\n' text).getLast?.getD []] := by
    have filled : splitOn '\n' text ≠ [] := splitWhere_ne_nil _ text
    rw [List.getLast?_eq_getLast_of_ne_nil filled, Option.getD_some, List.dropLast_concat_getLast]
  rw [infix_splitOn_iff some bare, cut, lines]
  generalize (splitOn '\n' text).getLast?.getD [] = last
  simp only [List.mem_append, or_and_right, exists_or]
  refine or_congr (chopped _) ?_
  split
  · next empty =>
    rw [List.isEmpty_iff.1 empty]
    simpa using some
  · simp only [List.mem_singleton, exists_eq_left, infix_trimEnd_iff some solid]

theorem prefix_of_prefix_append {c : Char} (bare : c ∉ mark) {after : List Char}
    (h : mark <+: text ++ c :: after) : mark <+: text := by
  have through : text ++ [c] <+: text ++ c :: after := ⟨after, by simp⟩
  rcases List.prefix_or_prefix_of_prefix h through with short | long
  · rcases List.prefix_concat_iff.1 short with rfl | inside
    · exact absurd List.mem_concat_self bare
    · exact inside
  · exact absurd (long.mem List.mem_concat_self) bare

end

/-! ## Pieces of what is rendered -/

theorem infix_join {piece : String} {pieces : List String} (h : piece ∈ pieces) :
    piece.toList <:+: (String.join pieces).toList := by
  rw [String.toList_join, List.flatMap_def]
  exact List.infix_of_mem_flatten (List.mem_map_of_mem h)

theorem infix_of_eq_append {whole part back : String} (h : whole = part ++ back) :
    part.toList <:+: whole.toList := by
  rw [h, String.toList_append]
  exact (List.prefix_append _ _).isInfix

theorem infix_withDefinitions {header definition : String} {definitions : List String}
    (h : definition ∈ definitions) :
    definition.toList <:+: (Target.withDefinitions header definitions).toList := by
  have within := infix_join (List.mem_map_of_mem (f := ("\n" ++ ·)) h)
  rw [String.toList_append] at within
  rw [Target.withDefinitions, String.toList_append]
  exact (List.suffix_append _ _).isInfix.trans (within.trans (List.suffix_append _ _).isInfix)

theorem infix_unlines {line : String} {ls : List String} (h : line ∈ ls) :
    (line ++ "\n").toList <:+: (unlines ls).toList :=
  infix_join (List.mem_map_of_mem h)

theorem infix_unlines_mono {part whole : List String} (h : part <:+: whole) :
    (unlines part).toList <:+: (unlines whole).toList := by
  obtain ⟨front, back, rfl⟩ := h
  rw [unlines_append, unlines_append, String.toList_append, String.toList_append]
  exact List.infix_append _ _ _

/-- A line behind the first one has a line feed on either side. -/
theorem infix_unlines_cons {first line : String} {rest : List String} (h : line ∈ rest) :
    ("\n" ++ (line ++ "\n")).toList <:+: (unlines (first :: rest)).toList := by
  obtain ⟨front, back, rfl⟩ := List.append_of_mem h
  have feed : "\n".toList = ['\n'] := rfl
  have filled : ((first :: front).map String.toList) ≠ [] := List.cons_ne_nil _ _
  rw [← List.cons_append, toList_unlines, List.map_append, terminated_append,
    terminated_eq_joinWith filled, List.map_cons (l := back), terminated_cons,
    String.toList_append, String.toList_append, feed]
  exact ⟨joinWith ['\n'] ((first :: front).map String.toList), terminated (back.map String.toList),
    by simp only [List.append_assoc, List.cons_append, List.nil_append]⟩

/-! ## Line ends -/

/-- A text with a line feed for every line end: a line feed, a carriage return or both. -/
def lineFeeds : List Char → List Char
  | [] => []
  | '\r' :: '\n' :: rest => '\n' :: lineFeeds rest
  | c :: rest => (if c == '\r' then '\n' else c) :: lineFeeds rest

theorem return_notMem_lineFeeds (text : List Char) : '\r' ∉ lineFeeds text := by
  fun_induction lineFeeds text with
  | case1 => exact List.not_mem_nil
  | case2 rest ih => simpa using ih
  | case3 c rest _ ih =>
    rw [List.mem_cons, not_or]
    refine ⟨?_, ih⟩
    split
    · decide
    · next other => exact fun same => other (beq_iff_eq.2 same.symm)

theorem lineFeeds_eq_self_iff {text : List Char} : lineFeeds text = text ↔ '\r' ∉ text := by
  constructor
  · intro same
    rw [← same]
    exact return_notMem_lineFeeds text
  · intro bare
    fun_induction lineFeeds text with
    | case1 => rfl
    | case2 rest ih => exact absurd List.mem_cons_self bare
    | case3 c rest _ ih =>
      obtain ⟨other, later⟩ := not_or.1 (mt List.mem_cons.2 bare)
      rw [ih later, if_neg fun same => other (beq_iff_eq.1 same).symm]

theorem count_lineFeeds {c : Char} (feed : c ≠ '\n') (carriage : c ≠ '\r') (text : List Char) :
    (lineFeeds text).count c = text.count c := by
  fun_induction lineFeeds text with
  | case1 => rfl
  | case2 rest ih => simp [ih, feed.symm, carriage.symm]
  | case3 d rest _ ih =>
    rw [List.count_cons, List.count_cons, ih]
    split
    · next same => simp [beq_iff_eq.1 same, feed.symm, carriage.symm]
    · rfl

end Text
end DocModel
