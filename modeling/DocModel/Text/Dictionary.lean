/-!
# DocModel.Text.Dictionary

Named values in ascending order of their names, every name once. Names are compared character by
character.

* `insertEntry` puts a value into a list of entries, or replaces the one of that name;
* `Dictionary` is such a list of texts that is known to be in order.
-/

namespace DocModel

/-- The entries with one more, at its place by name; an entry of the same name is replaced. -/
def insertEntry {α : Type} (name : String) (value : α) :
    List (String × α) → List (String × α)
  | [] => [(name, value)]
  | (other, kept) :: rest =>
    if name < other then (name, value) :: (other, kept) :: rest
    else if name = other then (name, value) :: rest
    else (other, kept) :: insertEntry name value rest

def Ascending {α : Type} (entries : List (String × α)) : Prop :=
  entries.Pairwise fun a b => a.1 < b.1

instance {α : Type} (entries : List (String × α)) : Decidable (Ascending entries) :=
  inferInstanceAs (Decidable (entries.Pairwise fun a b => a.1 < b.1))

/-- The names of an extended list are the old ones and the new one. -/
theorem mem_insertEntry {α : Type} {name : String} {value : α} {entry : String × α}
    {entries : List (String × α)} (h : entry ∈ insertEntry name value entries) :
    entry = (name, value) ∨ entry ∈ entries := by
  induction entries with
  | nil => simpa [insertEntry] using h
  | cons head rest ih =>
    simp only [insertEntry] at h
    split at h
    · simpa using h
    · split at h
      · simp only [List.mem_cons] at h ⊢
        exact h.imp_right .inr
      · simp only [List.mem_cons] at h ⊢
        rcases h with h | h
        · exact .inr (.inl h)
        · exact (ih h).imp_right .inr

theorem Ascending.insertEntry {α : Type} {entries : List (String × α)} (h : Ascending entries)
    (name : String) (value : α) : Ascending (insertEntry name value entries) := by
  induction entries with
  | nil => simp [DocModel.insertEntry, Ascending]
  | cons head rest ih =>
    obtain ⟨later, ordered⟩ := List.pairwise_cons.1 h
    simp only [DocModel.insertEntry]
    split
    · rename_i lt
      refine List.pairwise_cons.2 ⟨fun entry mem => ?_, h⟩
      rcases List.mem_cons.1 mem with rfl | mem
      · exact lt
      · exact String.lt_trans lt (later entry mem)
    · rename_i notLt
      split
      · rename_i eq
        subst eq
        exact List.pairwise_cons.2 ⟨later, ordered⟩
      · rename_i ne
        refine List.pairwise_cons.2 ⟨fun entry mem => ?_, ih ordered⟩
        rcases mem_insertEntry mem with rfl | mem
        · exact String.not_le.1 fun le => ne (String.le_antisymm le (String.not_lt.1 notLt))
        · exact later entry mem

/-- A finite map from names to texts, in order of the names. -/
structure Dictionary where
  /-- The names with their texts. -/
  entries : List (String × String) := []
  ascending : Ascending entries := by decide
  deriving DecidableEq

namespace Dictionary

def empty : Dictionary := {}

instance : Inhabited Dictionary := ⟨empty⟩

/-- The dictionary with one more entry; an entry of the same name is replaced. -/
def insert (d : Dictionary) (name value : String) : Dictionary :=
  { entries := insertEntry name value d.entries, ascending := d.ascending.insertEntry name value }

def find? (d : Dictionary) (name : String) : Option String := d.entries.lookup name

/-- Whether a name has a text. -/
def contains (d : Dictionary) (name : String) : Bool := (d.find? name).isSome

def names (d : Dictionary) : List String := d.entries.map (·.1)

/-- The texts in order of their names. -/
def values (d : Dictionary) : List String := d.entries.map (·.2)

def isEmpty (d : Dictionary) : Bool := d.entries.isEmpty

/-- The dictionary of a list of entries; of several with one name the last counts. -/
def ofList (entries : List (String × String)) : Dictionary :=
  entries.foldl (fun d entry => d.insert entry.1 entry.2) empty

end Dictionary
end DocModel
