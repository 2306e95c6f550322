import DocModel.Text.Dictionary

/-!
# DocModel.Proofs.Entries

Lists of named values in ascending order, seen through `List.lookup`.

* `lookup_insertEntry`: an inserted entry is found, and every other entry is found as before;
* `lookup_insertAll`, `find?_ofList`: of several entries with one name the last one inserted is
  found;
* `Ascending.lookup_reverse`: every name occurs once, so it does not matter where a search begins;
* `ext_of_lookup`: ordered lists with the same entries are the same list;
* `mapValues` changes the values and keeps the names, whatever the order in which entries come.
-/

namespace DocModel

variable {α β : Type}

/-! ## Looking entries up -/

theorem lookup_entry (key name : String) (value : α) (rest : List (String × α)) :
    ((name, value) :: rest).lookup key = if key = name then some value else rest.lookup key := by
  rw [List.lookup_cons]
  by_cases h : key = name
  · rw [if_pos h, beq_iff_eq.2 h]
  · rw [if_neg h, beq_eq_false_iff_ne.2 h]

theorem lookup_insertEntry (name key : String) (value : α) (entries : List (String × α)) :
    (insertEntry name value entries).lookup key =
      if key = name then some value else entries.lookup key := by
  induction entries with
  | nil => rw [insertEntry, lookup_entry]
  | cons entry rest ih =>
    obtain ⟨other, kept⟩ := entry
    rw [insertEntry]
    by_cases hl : name < other
    · rw [if_pos hl, lookup_entry]
    · rw [if_neg hl]
      by_cases he : name = other
      · rw [if_pos he, lookup_entry, lookup_entry, ← he]
        by_cases h : key = name <;> simp [h]
      · rw [if_neg he, lookup_entry, lookup_entry, ih]
        by_cases h : key = other
        · simp [h, Ne.symm he]
        · simp [h]

/-- Entries put in from the first on: of several with one name the last counts. -/
theorem lookup_insertAll (entries kept : List (String × α)) (key : String) :
    (entries.foldl (fun all entry => insertEntry entry.1 entry.2 all) kept).lookup key =
      (entries.reverse.lookup key).or (kept.lookup key) := by
  induction entries generalizing kept with
  | nil => rfl
  | cons entry rest ih =>
    rw [List.foldl_cons, ih, lookup_insertEntry, List.reverse_cons, List.lookup_append,
      lookup_entry, Option.or_assoc]
    by_cases h : key = entry.1 <;> simp [h]

theorem find?_ofList (entries : List (String × String)) (key : String) :
    (Dictionary.ofList entries).find? key = entries.reverse.lookup key := by
  have all : (Dictionary.ofList entries).entries =
      entries.foldl (fun all entry => insertEntry entry.1 entry.2 all) [] :=
    (List.foldl_hom Dictionary.entries fun _ _ => rfl).symm
  rw [Dictionary.find?, all, lookup_insertAll]
  exact Option.or_none

theorem lookup_filter_name (keep : String → Bool) (entries : List (String × α)) (key : String) :
    (entries.filter fun entry => keep entry.1).lookup key =
      if keep key = true then entries.lookup key else none := by
  induction entries with
  | nil => simp
  | cons entry rest ih =>
    obtain ⟨name, value⟩ := entry
    rw [List.filter_cons, lookup_entry]
    by_cases hn : keep name = true
    · rw [if_pos hn, lookup_entry, ih]
      by_cases h : key = name <;> simp [h, hn]
    · rw [if_neg hn, ih]
      by_cases h : key = name <;> simp [h, hn]

/-! ## Order -/

/-- A name up to the first one of an ordered list is not behind it. -/
theorem Ascending.lookup_tail {name : String} {value : α} {rest : List (String × α)}
    (h : Ascending ((name, value) :: rest)) {key : String} (hk : key ≤ name) :
    rest.lookup key = none := by
  refine List.lookup_eq_none_iff.2 fun other ho => ?_
  have hlt : name < other.1 := (List.pairwise_cons.1 h).1 other ho
  have hne : key ≠ other.1 := fun e => String.not_le.2 hlt (e ▸ hk)
  simpa using hne

/-- A name that is found in an ordered list is not below the first one. -/
theorem Ascending.head_le {name : String} {value : α} {rest : List (String × α)}
    (h : Ascending ((name, value) :: rest)) {key : String} {found : α}
    (hf : ((name, value) :: rest).lookup key = some found) : name ≤ key := by
  refine String.not_lt.1 fun hlt => ?_
  have hne : key ≠ name := fun e => String.lt_irrefl name (e ▸ hlt)
  rw [lookup_entry, if_neg hne, h.lookup_tail (String.not_lt.1 (String.lt_asymm hlt))] at hf
  cases hf

theorem ext_of_lookup {entries others : List (String × α)} (he : Ascending entries)
    (ho : Ascending others) (h : ∀ key, entries.lookup key = others.lookup key) :
    entries = others := by
  induction entries generalizing others with
  | nil =>
    cases others with
    | nil => rfl
    | cons other _ =>
      have hf := h other.1
      rw [List.lookup_nil, lookup_entry, if_pos rfl] at hf
      cases hf
  | cons entry rest ih =>
    obtain ⟨name, value⟩ := entry
    have hn : others.lookup name = some value := by rw [← h, lookup_entry, if_pos rfl]
    cases others with
    | nil => cases hn
    | cons other more =>
      obtain ⟨first, kept⟩ := other
      have hf : ((name, value) :: rest).lookup first = some kept := by
        rw [h, lookup_entry, if_pos rfl]
      have same : name = first := String.le_antisymm (he.head_le hf) (ho.head_le hn)
      subst same
      rw [lookup_entry, if_pos rfl] at hn
      have tails : rest = more := by
        refine ih (List.pairwise_cons.1 he).2 (List.pairwise_cons.1 ho).2 fun key => ?_
        have hk := h key
        rw [lookup_entry, lookup_entry] at hk
        by_cases e : key = name
        · rw [e, he.lookup_tail (String.le_refl name), ho.lookup_tail (String.le_refl name)]
        · rwa [if_neg e, if_neg e] at hk
      rw [tails, Option.some.inj hn]

theorem Ascending.lookup_of_mem {entries : List (String × α)} (h : Ascending entries)
    {entry : String × α} (he : entry ∈ entries) : entries.lookup entry.1 = some entry.2 := by
  induction entries with
  | nil => cases he
  | cons head rest ih =>
    obtain ⟨name, value⟩ := head
    obtain ⟨later, ordered⟩ := List.pairwise_cons.1 h
    rw [lookup_entry]
    cases he with
    | head => rw [if_pos rfl]
    | tail _ he =>
      have distinct : entry.1 ≠ name := fun e => String.lt_irrefl name (e ▸ later entry he)
      rw [if_neg distinct, ih ordered he]

/-- Names of an ordered list are found from behind as well. -/
theorem Ascending.lookup_reverse {entries : List (String × α)} (h : Ascending entries)
    (key : String) : entries.reverse.lookup key = entries.lookup key := by
  induction entries with
  | nil => rfl
  | cons entry rest ih =>
    obtain ⟨name, value⟩ := entry
    rw [List.reverse_cons, List.lookup_append, ih (List.pairwise_cons.1 h).2, lookup_entry,
      lookup_entry]
    by_cases hk : key = name
    · rw [hk, h.lookup_tail (String.le_refl name)]
      simp
    · simp [hk]

/-! ## Changing the values -/

/-- The entries with their values changed. -/
def mapValues (f : α → β) (entries : List (String × α)) : List (String × β) :=
  entries.map fun entry => (entry.1, f entry.2)

theorem mapValues_insertEntry (f : α → β) (name : String) (value : α)
    (entries : List (String × α)) :
    mapValues f (insertEntry name value entries) =
      insertEntry name (f value) (mapValues f entries) := by
  induction entries with
  | nil => rfl
  | cons entry rest ih =>
    obtain ⟨other, kept⟩ := entry
    have hm : mapValues f ((other, kept) :: rest) = (other, f kept) :: mapValues f rest := rfl
    rw [insertEntry, hm, insertEntry]
    by_cases hl : name < other
    · rw [if_pos hl, if_pos hl]
      rfl
    · rw [if_neg hl, if_neg hl]
      by_cases he : name = other
      · rw [if_pos he, if_pos he]
        rfl
      · rw [if_neg he, if_neg he, ← ih]
        rfl

end DocModel
