import DocModel.Text.Basic
import Mathlib.Data.List.DropRight

/-!
# DocModel.Proofs.Trimming

What the ends of a text have to be for trimming to leave it alone, and how trimming deals with
white space put around a text.

* `trimWhere_eq_self_iff`: nothing is removed exactly when neither end is to be removed;
* `trim_cons`, `trim_concat`: white space at an end does not matter.
-/

namespace DocModel
namespace Text

open Unicode

/-- A property of the characters of a text, tested one by one. -/
theorem forall_mem_of_all {p : Char → Prop} [DecidablePred p] {cs : List Char}
    (h : (cs.all fun c => decide (p c)) = true) : ∀ c ∈ cs, p c :=
  fun c hc => of_decide_eq_true (List.all_eq_true.1 h c hc)

theorem dropEndWhile_eq_rdropWhile (p : Char → Bool) (cs : List Char) :
    dropEndWhile p cs = cs.rdropWhile p := rfl

/-- Neither the first nor the last character satisfies `p`. -/
def Bare (p : Char → Bool) (cs : List Char) : Prop :=
  (∀ c ∈ cs.head?, p c = false) ∧ ∀ c ∈ cs.getLast?, p c = false

theorem dropWhile_eq_self {p : Char → Bool} {cs : List Char}
    (h : ∀ c ∈ cs.head?, p c = false) : cs.dropWhile p = cs := by
  cases cs with
  | nil => rfl
  | cons c rest => simp [h c (by simp)]

theorem takeWhile_append_of_stop {p : Char → Bool} {word rest : List Char}
    (all : ∀ c ∈ word, p c = true) (stop : ∀ c ∈ rest.head?, p c = false) :
    (word ++ rest).takeWhile p = word := by
  rw [List.takeWhile_append_of_pos all]
  cases rest with
  | nil => simp
  | cons c more =>
    have other : p c = false := stop c rfl
    rw [List.takeWhile_cons_of_neg (by simp [other]), List.append_nil]

theorem dropEndWhile_eq_self {p : Char → Bool} {cs : List Char}
    (h : ∀ c ∈ cs.getLast?, p c = false) : dropEndWhile p cs = cs := by
  rw [dropEndWhile_eq_rdropWhile, List.rdropWhile_eq_self_iff]
  intro hne
  simp [h _ (List.getLast?_eq_getLast_of_ne_nil hne)]

theorem Bare.trimWhere {p : Char → Bool} {cs : List Char} (h : Bare p cs) :
    trimWhere p cs = cs := by
  rw [Text.trimWhere, dropWhile_eq_self h.1, dropEndWhile_eq_self h.2]

theorem bare_trimWhere (p : Char → Bool) (cs : List Char) : Bare p (trimWhere p cs) := by
  have last : ∀ c ∈ (trimWhere p cs).getLast?, p c = false := by
    intro c hc
    rw [Text.trimWhere, dropEndWhile_eq_rdropWhile] at hc
    obtain ⟨hne, rfl⟩ := List.mem_getLast?_eq_getLast hc
    simpa using List.rdropWhile_last_not p _ hne
  refine ⟨?_, last⟩
  intro c hc
  rw [Text.trimWhere, dropEndWhile_eq_rdropWhile] at hc
  -- the ending that goes does not change what a text begins with
  obtain ⟨tail, ht⟩ := List.rdropWhile_prefix p (l := cs.dropWhile p)
  have hd := List.head?_dropWhile_not p cs
  rw [← ht, List.head?_append_of_ne_nil _ (by rintro h; simp [h] at hc)] at hd
  rw [Option.mem_def.1 hc] at hd
  simpa using hd

theorem trimWhere_eq_self_iff {p : Char → Bool} {cs : List Char} :
    trimWhere p cs = cs ↔ Bare p cs := by
  constructor
  · intro h
    rw [← h]
    exact bare_trimWhere p cs
  · exact Bare.trimWhere

/-- A text without white space at either end. -/
def Trimmed (cs : List Char) : Prop := trim cs = cs

instance (cs : List Char) : Decidable (Trimmed cs) := inferInstanceAs (Decidable (trim cs = cs))

theorem trimmed_iff {cs : List Char} : Trimmed cs ↔ Bare isWhiteSpace cs :=
  trimWhere_eq_self_iff

theorem trimmed_trim (cs : List Char) : Trimmed (trim cs) :=
  trimmed_iff.2 (bare_trimWhere _ _)

theorem Trimmed.trimStart {cs : List Char} (h : Trimmed cs) : trimStart cs = cs :=
  dropWhile_eq_self (trimmed_iff.1 h).1

theorem trim_cons {c : Char} (hc : isWhiteSpace c = true) (cs : List Char) :
    trim (c :: cs) = trim cs := by
  simp [trim, trimWhere, hc]

theorem trim_concat {c : Char} (hc : isWhiteSpace c = true) (cs : List Char) :
    trim (cs ++ [c]) = trim cs := by
  rw [trim, trim, trimWhere, trimWhere]
  by_cases h : ∀ d ∈ cs, isWhiteSpace d = true
  · have all : ∀ d ∈ cs ++ [c], isWhiteSpace d = true := by
      intro d hd
      rcases List.mem_append.1 hd with hd | hd
      · exact h d hd
      · rw [List.mem_singleton.1 hd]; exact hc
    rw [List.dropWhile_eq_nil_iff.2 h, List.dropWhile_eq_nil_iff.2 all]
  · have hne : cs.dropWhile isWhiteSpace ≠ [] := fun hn => h (List.dropWhile_eq_nil_iff.1 hn)
    rw [List.dropWhile_append, if_neg (by simpa using hne)]
    exact List.rdropWhile_concat_pos _ _ _ hc

theorem trimEnd_concat {c : Char} (h : isWhiteSpace c = true) (text : List Char) :
    trimEnd (text ++ [c]) = trimEnd text :=
  List.rdropWhile_concat_pos isWhiteSpace text c h

theorem trimEnd_chopReturn (line : List Char) : trimEnd (chopReturn line) = trimEnd line := by
  rw [chopReturn]
  split
  · next last =>
    obtain ⟨front, rfl⟩ := List.getLast?_eq_some_iff.1 (beq_iff_eq.1 last)
    have white : isWhiteSpace '\r' = true := by decide
    rw [List.dropLast_concat, trimEnd_concat white]
  · rfl

/-- A text of characters none of which is white space is trimmed. -/
theorem trimmed_of_forall {cs : List Char} (h : ∀ c ∈ cs, isWhiteSpace c = false) :
    Trimmed cs :=
  trimmed_iff.2
    ⟨fun c hc => h c (List.mem_of_mem_head? hc), fun c hc => h c (List.mem_of_mem_getLast? hc)⟩

theorem trimmed_append {before after : List Char} (hb : Trimmed before) (ha : Trimmed after)
    (nb : before ≠ []) (na : after ≠ []) (between : List Char) :
    Trimmed (before ++ between ++ after) := by
  rw [trimmed_iff] at hb ha ⊢
  constructor
  · intro c hc
    rw [List.append_assoc, List.head?_append_of_ne_nil _ nb] at hc
    exact hb.1 c hc
  · intro c hc
    rw [List.getLast?_append_of_ne_nil _ na] at hc
    exact ha.2 c hc

/-- Pieces that are trimmed and not empty may stand on both sides of separators. -/
theorem trimmed_intercalate {sep : List Char} {pieces : List (List Char)}
    (ht : ∀ piece ∈ pieces, Trimmed piece) (hn : ∀ piece ∈ pieces, piece ≠ []) :
    Trimmed (sep.intercalate pieces) := by
  induction pieces with
  | nil => rfl
  | cons piece rest ih =>
    have first := ht piece List.mem_cons_self
    have some := hn piece List.mem_cons_self
    cases rest with
    | nil => rwa [List.intercalate_singleton]
    | cons next more =>
      have later := ih (fun x hx => ht x (List.mem_cons_of_mem piece hx))
        (fun x hx => hn x (List.mem_cons_of_mem piece hx))
      have nonempty : sep.intercalate (next :: more) ≠ [] := by
        have hnext := hn next (by simp)
        cases more with
        | nil => rwa [List.intercalate_singleton]
        | cons _ _ => simp [List.intercalate_cons_cons, hnext]
      rw [List.intercalate_cons_cons]
      exact trimmed_append first later some nonempty sep

theorem forall_mem_intercalate {p : Char → Prop} {sep : List Char} {pieces : List (List Char)}
    (hs : ∀ c ∈ sep, p c) (hp : ∀ piece ∈ pieces, ∀ c ∈ piece, p c) :
    ∀ c ∈ sep.intercalate pieces, p c := by
  induction pieces with
  | nil => intro c hc; cases hc
  | cons piece rest ih =>
    have later := ih fun x hx => hp x (List.mem_cons_of_mem piece hx)
    cases rest with
    | nil =>
      rw [List.intercalate_singleton]
      exact hp piece List.mem_cons_self
    | cons next more =>
      rw [List.intercalate_cons_cons]
      intro c hc
      rcases List.mem_append.1 hc with hc | hc
      · rcases List.mem_append.1 hc with hc | hc
        · exact hp piece List.mem_cons_self c hc
        · exact hs c hc
      · exact later c hc

end Text
end DocModel
