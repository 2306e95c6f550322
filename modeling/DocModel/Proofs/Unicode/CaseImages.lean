import DocModel.Text.Words

/-!
# DocModel.Proofs.Unicode.CaseImages

The case mappings make no character that stands between words out of another one.

* A mapping above ASCII gives what its tables list, so for a range of codes it is enough to look at
  the tables (`Misses`);
* `isWordSeparator_of_mem_toLower`, `isWordSeparator_of_mem_toUpper` do so for the ranges of
  `separatorRanges`;
* every character has an image (`toLower_ne_nil`, `toUpper_ne_nil`).
-/

namespace DocModel
namespace Unicode

open Text

/-- The codes of the characters that stand between words. -/
def separatorRanges : List (Nat × Nat) :=
  [(0x09, 0x0D), (0x20, 0x20), (0x2D, 0x2D), (0x5F, 0x5F), (0x85, 0x85), (0xA0, 0xA0),
    (0x1680, 0x1680), (0x2000, 0x200A), (0x2028, 0x2029), (0x202F, 0x202F), (0x205F, 0x205F),
    (0x3000, 0x3000)]

theorem exists_range_of_isWordSeparator {c : Char} (h : isWordSeparator c = true) :
    ∃ r ∈ separatorRanges, r.1 ≤ c.toNat ∧ c.toNat ≤ r.2 := by
  have code {d : Char} : (c == d) = true ↔ c.toNat = d.toNat := by
    rw [beq_iff_eq, Char.toNat_inj]
  have underscore : '_'.toNat = 0x5F := rfl
  have hyphen : '-'.toNat = 0x2D := rfl
  simp only [isWordSeparator, isWhiteSpace, Bool.or_eq_true, code, underscore, hyphen] at h
  simp only [separatorRanges, List.mem_cons, List.not_mem_nil, or_false, exists_eq_or_imp,
    exists_eq_left]
  split at h
  · simp only [Bool.or_eq_true, Bool.and_eq_true, beq_iff_eq, decide_eq_true_eq] at h
    omega
  · simp only [Bool.or_eq_true, Bool.and_eq_true, beq_iff_eq, decide_eq_true_eq] at h
    omega

theorem toNat_charOfNat (n : Nat) : (Char.ofNat n).toNat = n ∨ (Char.ofNat n).toNat = 0 := by
  by_cases valid : n.isValidChar
  · have own : Char.ofNat n = Char.ofNatAux n valid := dif_pos valid
    exact .inl (own ▸ rfl)
  · have none : Char.ofNat n = Char.ofNat 0 := dif_neg valid
    exact .inr (none ▸ rfl)

/-- The tables of a mapping give no code of a range. -/
def Misses (expansions : List (Nat × List Nat)) (shifts : List Shift) (r : Nat × Nat) : Prop :=
  (∀ e ∈ expansions, ∀ n ∈ e.2, n < r.1 ∨ r.2 < n) ∧
    ∀ s ∈ shifts, s.domain.last + s.distance < r.1 ∨ r.2 < s.domain.first + s.distance

instance (expansions : List (Nat × List Nat)) (shifts : List Shift) (r : Nat × Nat) :
    Decidable (Misses expansions shifts r) :=
  inferInstanceAs (Decidable (_ ∧ _))

section

variable {expansions : List (Nat × List Nat)} {shifts : List Shift} {r : Nat × Nat} {c d : Char}

theorem not_within_shifted (misses : Misses expansions shifts r) (positive : 0 < r.1)
    (mem : shifted shifts c.toNat = some d) : ¬ (r.1 ≤ d.toNat ∧ d.toNat ≤ r.2) := by
  obtain ⟨s, found, rfl⟩ := Option.map_eq_some_iff.1 mem
  have held := List.find?_some found
  simp only [Stride.contains, Bool.and_eq_true, decide_eq_true_eq] at held
  have apart := misses.2 s (List.mem_of_find?_eq_some found)
  rcases toNat_charOfNat (Int.toNat (c.toNat + s.distance)) with same | none
  · omega
  · omega

/-- A character of the range is the image of itself only. -/
theorem eq_of_mem_mapCase (misses : Misses expansions shifts r) (positive : 0 < r.1)
    (mem : d ∈ mapCase expansions shifts c) (inside : r.1 ≤ d.toNat ∧ d.toNat ≤ r.2) : d = c := by
  rw [mapCase] at mem
  split at mem
  · next image expanded =>
    obtain ⟨n, hn, rfl⟩ := List.mem_map.1 mem
    obtain ⟨front, back, table, -⟩ := List.lookup_eq_some_iff.1 expanded
    have apart :=
      misses.1 (c.toNat, image) (table ▸ List.mem_append_right _ List.mem_cons_self) n hn
    rcases toNat_charOfNat n with same | none
    · omega
    · omega
  · obtain rfl := List.mem_singleton.1 mem
    cases moved : shifted shifts c.toNat with
    | none => rfl
    | some e =>
      rw [moved] at inside
      exact absurd inside (not_within_shifted misses positive moved)

end

theorem misses_lower : ∀ r ∈ separatorRanges, 0 < r.1 ∧ Misses lowerExpansions lowerShifts r := by
  decide +kernel

theorem misses_upper : ∀ r ∈ separatorRanges, 0 < r.1 ∧ Misses upperExpansions upperShifts r := by
  decide +kernel

theorem forall_ascii {p : Char → Prop} (table : ∀ n < 0x80, p (Char.ofNat n)) {c : Char}
    (h : c.toNat < 0x80) : p c := by
  have hc := table c.toNat h
  rwa [Char.ofNat_toNat] at hc

section

variable {c d : Char}

theorem isWordSeparator_of_mem_mapCase {expansions : List (Nat × List Nat)} {shifts : List Shift}
    (misses : ∀ r ∈ separatorRanges, 0 < r.1 ∧ Misses expansions shifts r)
    (mem : d ∈ mapCase expansions shifts c) (h : isWordSeparator d = true) :
    isWordSeparator c = true := by
  obtain ⟨r, hr, inside⟩ := exists_range_of_isWordSeparator h
  obtain ⟨positive, apart⟩ := misses r hr
  rw [← eq_of_mem_mapCase apart positive mem inside]
  exact h

theorem isWordSeparator_of_mem_toLower (mem : d ∈ toLower c) (h : isWordSeparator d = true) :
    isWordSeparator c = true := by
  rw [toLower] at mem
  split at mem
  · next ascii =>
    obtain rfl := List.mem_singleton.1 mem
    exact forall_ascii
      (p := fun c => isWordSeparator c.toLower = true → isWordSeparator c = true)
      (by decide) ascii h
  · exact isWordSeparator_of_mem_mapCase misses_lower mem h

theorem isWordSeparator_of_mem_toUpper (mem : d ∈ toUpper c) (h : isWordSeparator d = true) :
    isWordSeparator c = true := by
  rw [toUpper] at mem
  split at mem
  · next ascii =>
    obtain rfl := List.mem_singleton.1 mem
    exact forall_ascii
      (p := fun c => isWordSeparator c.toUpper = true → isWordSeparator c = true)
      (by decide) ascii h
  · exact isWordSeparator_of_mem_mapCase misses_upper mem h

theorem mapCase_ne_nil {expansions : List (Nat × List Nat)} (some : ∀ e ∈ expansions, e.2 ≠ [])
    (shifts : List Shift) (c : Char) : mapCase expansions shifts c ≠ [] := by
  rw [mapCase]
  split
  · next image expanded =>
    obtain ⟨front, back, table, -⟩ := List.lookup_eq_some_iff.1 expanded
    have filled := some (c.toNat, image) (table ▸ List.mem_append_right _ List.mem_cons_self)
    exact mt List.map_eq_nil_iff.1 filled
  · exact List.cons_ne_nil _ _

theorem toLower_ne_nil (c : Char) : toLower c ≠ [] := by
  rw [toLower]
  split
  · exact List.cons_ne_nil _ _
  · exact mapCase_ne_nil (by decide) _ c

theorem toUpper_ne_nil (c : Char) : toUpper c ≠ [] := by
  rw [toUpper]
  split
  · exact List.cons_ne_nil _ _
  · exact mapCase_ne_nil (by decide) _ c

end

end Unicode
end DocModel
