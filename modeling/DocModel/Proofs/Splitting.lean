import DocModel.Proofs.Trimming

/-!
# DocModel.Proofs.Splitting

What cutting a text at a character means: the pieces before and after the first occurrence put
together again give the text, and the first piece does not hold the character.

* `splitOnce_eq_some_iff`: the first occurrence, and `dropPrefix?_eq_some_iff`: a given beginning;
* `splitWhere_append_cons`: the first of all pieces, and `splitOn_append_cons`: those of two texts;
* `splitOn_terminated`, `terminated_splitOn`: lines with their line feeds, and the pieces of a text;
* `lines_unlines`: writing lines and cutting the text into lines.
-/

namespace DocModel
namespace Text

theorem splitOnce_append {sep : Char} {before : List Char} (h : sep ∉ before)
    (after : List Char) : splitOnce sep (before ++ sep :: after) = some (before, after) := by
  induction before with
  | nil => simp [splitOnce]
  | cons c rest ih =>
    simp only [List.mem_cons, not_or] at h
    have hc : ¬ c = sep := fun e => h.1 e.symm
    simp [splitOnce, hc, ih h.2]

theorem splitOnce_eq_some_iff {sep : Char} {text before after : List Char} :
    splitOnce sep text = some (before, after) ↔ text = before ++ sep :: after ∧ sep ∉ before := by
  constructor
  · intro h
    induction text generalizing before with
    | nil => simp [splitOnce] at h
    | cons c rest ih =>
      simp only [splitOnce] at h
      split at h
      · next hc =>
        cases h
        simp_all
      · next hc =>
        obtain ⟨⟨first, last⟩, hs, he⟩ := Option.map_eq_some_iff.1 h
        cases he
        obtain ⟨rfl, hm⟩ := ih hs
        have hne : ¬ sep = c := fun e => hc (by simp [e])
        exact ⟨rfl, by simp [hne, hm]⟩
  · rintro ⟨rfl, hm⟩
    exact splitOnce_append hm after

theorem suffix_of_splitOnce {sep : Char} {text before after : List Char}
    (h : splitOnce sep text = some (before, after)) : after <:+ text := by
  obtain ⟨rfl, -⟩ := splitOnce_eq_some_iff.1 h
  exact (List.suffix_cons sep after).trans (List.suffix_append before (sep :: after))

theorem splitOnce_eq_none_iff {sep : Char} {text : List Char} :
    splitOnce sep text = none ↔ sep ∉ text := by
  induction text with
  | nil => simp [splitOnce]
  | cons c rest ih =>
    by_cases hc : c = sep
    · simp [splitOnce, hc]
    · have hne : ¬ sep = c := fun e => hc e.symm
      simp [splitOnce, hc, hne, ih]

theorem dropPrefix?_eq_some_iff {front text rest : List Char} :
    dropPrefix? front text = some rest ↔ text = front ++ rest := by
  induction front generalizing text with
  | nil => simp [dropPrefix?]
  | cons c more ih =>
    cases text with
    | nil => simp [dropPrefix?]
    | cons d ending =>
      by_cases same : c = d
      · simp [dropPrefix?, same, ih]
      · simp [dropPrefix?, same, Ne.symm same]

theorem splitWhere_of_forall {p : Char → Bool} {cs : List Char} (h : ∀ c ∈ cs, p c = false) :
    splitWhere p cs = [cs] := by
  induction cs with
  | nil => rfl
  | cons c rest ih =>
    have hr := ih fun d hd => h d (List.mem_cons_of_mem c hd)
    simp [splitWhere, h c List.mem_cons_self, hr]

theorem splitWhere_append_cons {p : Char → Bool} {before : List Char} {c : Char}
    (hb : ∀ d ∈ before, p d = false) (hc : p c = true) (after : List Char) :
    splitWhere p (before ++ c :: after) = before :: splitWhere p after := by
  induction before with
  | nil => simp [splitWhere, hc]
  | cons d rest ih =>
    have hr := ih fun x hx => hb x (List.mem_cons_of_mem d hx)
    simp [splitWhere, hb d List.mem_cons_self, hr]

theorem splitWhere_ne_nil (p : Char → Bool) (cs : List Char) : splitWhere p cs ≠ [] := by
  cases cs with
  | nil => simp [splitWhere]
  | cons c rest =>
    rw [splitWhere]
    split
    · simp
    · split <;> simp

/-- A separator anywhere in a text parts the pieces before it from those behind it. -/
theorem splitOn_append_cons (sep : Char) (before after : List Char) :
    splitOn sep (before ++ sep :: after) = splitOn sep before ++ splitOn sep after := by
  simp only [splitOn]
  induction before with
  | nil => simp [splitWhere]
  | cons c rest ih =>
    rw [List.cons_append, splitWhere, splitWhere, ih]
    split
    · rfl
    · cases pieces : splitWhere (· == sep) rest with
      | nil => exact absurd pieces (splitWhere_ne_nil _ _)
      | cons piece more => rfl

/-- White space at the head of a text does not change its trimmed pieces. -/
theorem map_trim_splitWhere_cons {p : Char → Bool} {c : Char}
    (hc : Unicode.isWhiteSpace c = true) (hp : p c = false) (cs : List Char) :
    (splitWhere p (c :: cs)).map trim = (splitWhere p cs).map trim := by
  simp only [splitWhere, hp, Bool.false_eq_true, if_false]
  cases h : splitWhere p cs with
  | nil => exact absurd h (splitWhere_ne_nil p cs)
  | cons piece pieces => simp [trim_cons hc]

theorem map_trim_splitWhere_intercalate {p : Char → Bool} {c : Char} (hc : p c = true)
    (hs : p ' ' = false) {pieces : List (List Char)} (hne : pieces ≠ [])
    (hp : ∀ piece ∈ pieces, ∀ d ∈ piece, p d = false) (ht : ∀ piece ∈ pieces, Trimmed piece) :
    (splitWhere p ([' ', c, ' '].intercalate pieces)).map trim = pieces := by
  induction pieces with
  | nil => exact absurd rfl hne
  | cons piece rest ih =>
    have hpiece : trim piece = piece := ht piece List.mem_cons_self
    cases rest with
    | nil =>
      rw [List.intercalate_singleton, splitWhere_of_forall (hp piece List.mem_cons_self)]
      simp [hpiece]
    | cons next more =>
      have split : [' ', c, ' '].intercalate (piece :: next :: more) =
          (piece ++ [' ']) ++ c :: (' ' :: [' ', c, ' '].intercalate (next :: more)) := by
        simp [List.intercalate_cons_cons]
      have bare : ∀ d ∈ piece ++ [' '], p d = false := by
        intro d hd
        rcases List.mem_append.1 hd with hd | hd
        · exact hp piece List.mem_cons_self d hd
        · rw [List.mem_singleton.1 hd]; exact hs
      have later := ih (List.cons_ne_nil _ _)
        (fun x hx => hp x (List.mem_cons_of_mem piece hx))
        (fun x hx => ht x (List.mem_cons_of_mem piece hx))
      rw [split, splitWhere_append_cons bare hc, List.map_cons, trim_concat (by decide), hpiece,
        map_trim_splitWhere_cons (by decide) hs, later]

theorem notMem_of_mem_splitOn {sep : Char} {text piece : List Char}
    (h : piece ∈ splitOn sep text) : sep ∉ piece := by
  induction text generalizing piece with
  | nil =>
    rw [List.mem_singleton.1 h]
    exact List.not_mem_nil
  | cons c rest ih =>
    rw [splitOn, splitWhere] at h
    by_cases hc : c = sep
    · rw [if_pos (by simpa using hc)] at h
      cases List.mem_cons.1 h with
      | inl first => rw [first]; exact List.not_mem_nil
      | inr later => exact ih later
    · rw [if_neg (by simpa using hc)] at h
      cases hs : splitWhere (· == sep) rest with
      | nil => exact absurd hs (splitWhere_ne_nil _ _)
      | cons first pieces =>
        rw [hs] at h
        rw [splitOn, hs] at ih
        cases List.mem_cons.1 h with
        | inl same =>
          rw [same]
          intro hm
          cases List.mem_cons.1 hm with
          | inl head => exact hc head.symm
          | inr tail => exact ih List.mem_cons_self tail
        | inr later => exact ih (List.mem_cons_of_mem _ later)

/-! ## Lines -/

/-- Lines, each with a line feed. -/
def terminated (ls : List (List Char)) : List Char := ls.flatMap (· ++ ['\n'])

theorem terminated_cons (line : List Char) (more : List (List Char)) :
    terminated (line :: more) = line ++ '\n' :: terminated more := by
  rw [terminated, List.flatMap_cons, List.append_assoc]
  rfl

theorem terminated_append (first second : List (List Char)) :
    terminated (first ++ second) = terminated first ++ terminated second :=
  List.flatMap_append

theorem unlines_cons (line : String) (more : List String) :
    unlines (line :: more) = line ++ ("\n" ++ unlines more) := by
  simp [unlines, String.append_assoc]

theorem unlines_append (first second : List String) :
    unlines (first ++ second) = unlines first ++ unlines second := by
  simp [unlines]

theorem toList_unlines (ls : List String) :
    (unlines ls).toList = terminated (ls.map String.toList) := by
  simp [unlines, terminated, String.toList_join, List.flatMap_map]

theorem splitOn_terminated {ls : List (List Char)} (h : ∀ line ∈ ls, '\n' ∉ line) :
    splitOn '\n' (terminated ls) = ls ++ [[]] := by
  induction ls with
  | nil => rfl
  | cons line rest ih =>
    have bare : ∀ c ∈ line, (c == '\n') = false := by
      intro c hc
      have hne : c ≠ '\n' := fun e => h line List.mem_cons_self (e ▸ hc)
      simpa using hne
    rw [splitOn] at ih
    rw [terminated_cons, splitOn, splitWhere_append_cons bare (by decide),
      ih fun x hx => h x (List.mem_cons_of_mem line hx), List.cons_append]

/-- The pieces of a text as its lines, the last one with a line feed as well. -/
theorem terminated_splitOn (text : List Char) :
    terminated (splitOn '\n' text) = text ++ ['\n'] := by
  induction text with
  | nil => rfl
  | cons c rest ih =>
    rw [splitOn] at ih
    rw [splitOn, splitWhere]
    by_cases hc : c = '\n'
    · rw [if_pos (by simpa using hc), terminated_cons, ih, hc]
      rfl
    · rw [if_neg (by simpa using hc)]
      cases hs : splitWhere (· == '\n') rest with
      | nil => exact absurd hs (splitWhere_ne_nil _ _)
      | cons piece pieces =>
        rw [hs, terminated_cons] at ih
        simp only [terminated_cons, List.cons_append, ih]

theorem mem_of_mem_splitOn {text piece : List Char} {c : Char} (h : piece ∈ splitOn '\n' text)
    (hc : c ∈ piece) : c ∈ text := by
  have joined : c ∈ terminated (splitOn '\n' text) :=
    List.mem_flatMap.2 ⟨piece, h, List.mem_append_left _ hc⟩
  rw [terminated_splitOn] at joined
  cases List.mem_append.1 joined with
  | inl inside => exact inside
  | inr feed =>
    rw [List.mem_singleton.1 feed] at hc
    exact absurd hc (notMem_of_mem_splitOn h)

/-- Lines that hold no line end are read back from the text that they are written to. -/
theorem lines_unlines {ls : List String} (h : ∀ line ∈ ls, '\n' ∉ line.toList)
    (hr : ∀ line ∈ ls, line.toList.getLast? ≠ some '\r') :
    lines (unlines ls).toList = ls.map String.toList := by
  have chop : ∀ line ∈ ls.map String.toList, chopReturn line = line := by
    intro line hl
    obtain ⟨s, hs, rfl⟩ := List.mem_map.1 hl
    simp [chopReturn, hr s hs]
  have feed : ∀ line ∈ ls.map String.toList, '\n' ∉ line := by
    intro line hl
    obtain ⟨s, hs, rfl⟩ := List.mem_map.1 hl
    exact h s hs
  rw [lines, toList_unlines, splitOn_terminated feed]
  simp only [List.getLast?_append, List.getLast?_singleton, Option.some_or, Option.getD_some,
    List.isEmpty_nil, if_true, List.append_nil, List.dropLast_concat]
  rw [List.map_congr_left chop, List.map_id']

end Text
end DocModel
