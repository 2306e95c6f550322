import DocModel.Proofs.Entries
import DocModel.Target.JsonSchema
import Mathlib.Data.List.Basic

/-!
# DocModel.Proofs.JsonSchema.Unfolding

What a document says once its references are followed.

* `target?` is the schema that a reference of a document refers to;
* `resolved` puts it in the place of the reference; fields beside the reference win;
* `unfolded` does so again and again, down to a depth. The tree of a document with a cycle of
  references is infinite, so two documents say the same if they unfold alike to every depth.

A `Literal` holds no reference. It unfolds to the same value in every document.
-/

namespace DocModel
namespace Target.JsonSchema

/-- The fields of a document that its root schema does not have. -/
def documentKeys : List String := ["$schema", "$id", "$defs"]

/-- The fields of the root schema of a document. -/
def rootFields (document : Fields) : Fields :=
  document.filter fun field => !documentKeys.contains field.1

def definitionFields? (document : Fields) (name : String) : Option Fields :=
  ((document.lookup "$defs").bind (·.field? name)).bind (·.fields?)

/-- The fields of the schema that a reference of a document refers to. -/
def target? (document : Fields) (reference : String) : Option Fields :=
  if reference = "#" then some (rootFields document)
  else
    (List.isPrefixOf? "#/$defs/".toList reference.toList).bind fun name =>
      definitionFields? document (String.ofList name)

/-- The fields of a schema with those of the schema that it refers to. A field beside the reference
replaces the one of its name there. -/
def resolved (document fields : Fields) : Fields :=
  match fields.lookup "$ref" with
  | some (.string reference) =>
    match target? document reference with
    | some target => target.putAll (fields.filter fun field => field.1 != "$ref")
    | none => fields
  | _ => fields

/-- A value of a document with its references followed, down to a depth. -/
def unfolded (document : Fields) : Nat → Json → Json
  | 0, _ => .null
  | n + 1, .object fields => .object (mapValues (unfolded document n) (resolved document fields))
  | n + 1, .array items => .array (items.map (unfolded document n))
  | _ + 1, value => value

/-! ## Putting fields together -/

theorem putAll_nil (fields : Fields) : fields.putAll [] = fields := rfl

theorem putAll_cons (fields more : Fields) (field : String × Json) :
    fields.putAll (field :: more) = Fields.putAll (insertEntry field.1 field.2 fields) more :=
  rfl

theorem lookup_putAll (fields more : Fields) (key : String) :
    (fields.putAll more).lookup key = (more.reverse.lookup key).or (fields.lookup key) :=
  lookup_insertAll more fields key

theorem mem_putAll {fields more : Fields} {field : String × Json}
    (h : field ∈ fields.putAll more) : field ∈ fields ∨ field ∈ more := by
  induction more generalizing fields with
  | nil => exact .inl h
  | cons first rest ih =>
    rcases ih h with h | h
    · rcases mem_insertEntry h with rfl | h
      · exact .inr List.mem_cons_self
      · exact .inl h
    · exact .inr (List.mem_cons_of_mem first h)

theorem ascending_putAll {fields : Fields} (h : Ascending fields) (more : Fields) :
    Ascending (fields.putAll more) := by
  induction more generalizing fields with
  | nil => exact h
  | cons field rest ih => exact ih (h.insertEntry field.1 field.2)

theorem ascending_putAll_nil (more : Fields) : Ascending (Fields.putAll [] more) :=
  ascending_putAll List.Pairwise.nil more

theorem mapValues_putAll (f : Json → Json) (fields more : Fields) :
    mapValues f (fields.putAll more) = Fields.putAll (mapValues f fields) (mapValues f more) := by
  induction more generalizing fields with
  | nil => rfl
  | cons field rest ih =>
    rw [putAll_cons, ih, mapValues_insertEntry]
    rfl

/-! ## Following a reference -/

/-- The names of the fields by which documents and references are made. -/
def reservedKeys : List String := "$ref" :: documentKeys

/-- Fields none of which has a reserved name. -/
def Unreserved (fields : Fields) : Prop := ∀ field ∈ fields, field.1 ∉ reservedKeys

theorem Unreserved.lookup {fields : Fields} (h : Unreserved fields) {key : String}
    (hk : key ∈ reservedKeys) : fields.lookup key = none := by
  refine List.lookup_eq_none_iff.2 fun field hf => ?_
  have hne : key ≠ field.1 := fun e => h field hf (e ▸ hk)
  simpa using hne

theorem Unreserved.lookup_reverse {fields : Fields} (h : Unreserved fields) {key : String}
    (hk : key ∈ reservedKeys) : fields.reverse.lookup key = none :=
  Unreserved.lookup (fun field hf => h field (List.mem_reverse.1 hf)) hk

theorem Unreserved.putAll {fields more : Fields} (hf : Unreserved fields) (hm : Unreserved more) :
    Unreserved (fields.putAll more) :=
  fun field h => (mem_putAll h).elim (hf field) (hm field)

theorem unreserved_nil : Unreserved [] := fun _ hf => (nomatch hf)

theorem Unreserved.cons {name : String} {value : Json} {rest : Fields} (hn : name ∉ reservedKeys)
    (hr : Unreserved rest) : Unreserved ((name, value) :: rest) := by
  intro field h
  rcases List.mem_cons.1 h with rfl | h
  · exact hn
  · exact hr field h

theorem Unreserved.append {fields more : Fields} (hf : Unreserved fields) (hm : Unreserved more) :
    Unreserved (fields ++ more) :=
  fun field h => (List.mem_append.1 h).elim (hf field) (hm field)

theorem resolved_of_lookup {document fields : Fields}
    (h : ∀ reference, fields.lookup "$ref" ≠ some (.string reference)) :
    resolved document fields = fields := by
  rw [resolved]
  split
  · next reference hf => exact absurd hf (h reference)
  · rfl

theorem Unreserved.resolved {fields : Fields} (h : Unreserved fields) (document : Fields) :
    resolved document fields = fields := by
  refine resolved_of_lookup fun reference hr => ?_
  rw [h.lookup List.mem_cons_self] at hr
  cases hr

/-- What stands beside a reference comes after what it refers to. -/
theorem resolved_reference {document target more : Fields} {reference : String}
    (ht : target? document reference = some target) (ha : Ascending target)
    (hm : Unreserved more) :
    resolved document (Fields.putAll [("$ref", .string reference)] more) = target.putAll more := by
  have found : (Fields.putAll [("$ref", .string reference)] more).lookup "$ref" =
      some (.string reference) := by
    rw [lookup_putAll, hm.lookup_reverse List.mem_cons_self, Option.none_or, lookup_entry,
      if_pos rfl]
  rw [resolved, found]
  simp only [ht]
  refine ext_of_lookup (ascending_putAll ha _) (ascending_putAll ha _) fun key => ?_
  have ordered : Ascending ((Fields.putAll [("$ref", Json.string reference)] more).filter
      fun field => field.1 != "$ref") :=
    List.Pairwise.filter _ (ascending_putAll (List.pairwise_singleton _ _) more)
  rw [lookup_putAll, ordered.lookup_reverse,
    lookup_filter_name (fun name => name != "$ref"), lookup_putAll, lookup_putAll, lookup_entry]
  by_cases hk : key = "$ref"
  · rw [hk, hm.lookup_reverse List.mem_cons_self]
    simp
  · simp [hk]

theorem target?_root (document : Fields) : target? document "#" = some (rootFields document) := by
  rw [target?, if_pos rfl]

theorem target?_definition (document : Fields) (name : String) :
    target? document ("#/$defs/" ++ name) = definitionFields? document name := by
  have hne : "#/$defs/" ++ name ≠ "#" := by
    intro e
    have long : "#/$defs/".length = 8 := by decide +kernel
    have short : "#".length = 1 := by decide +kernel
    have := congrArg String.length e
    rw [String.length_append] at this
    omega
  have behind : List.isPrefixOf? "#/$defs/".toList ("#/$defs/".toList ++ name.toList) =
      some name.toList := List.isPrefixOf?_eq_some_iff_append_eq.2 rfl
  rw [target?, if_neg hne, String.toList_append, behind, Option.bind_some, String.ofList_toList]

/-! ## Values without references -/

/-- A value that unfolds to the same in every document. -/
def Literal (value : Json) : Prop :=
  ∀ (document other : Fields) (n : Nat), unfolded document n value = unfolded other n value

theorem literal_string (text : String) : Literal (.string text) := by
  intro document other n
  cases n <;> rfl

theorem literal_bool (b : Bool) : Literal (.bool b) := by
  intro document other n
  cases n <;> rfl

theorem literal_int (i : Int) : Literal (.int i) := by
  intro document other n
  cases n <;> rfl

theorem literal_float (negative : Bool) (v : Number.Magnitude) :
    Literal (.float negative v) := by
  intro document other n
  cases n <;> rfl

theorem literal_array {items : List Json} (h : ∀ item ∈ items, Literal item) :
    Literal (.array items) := by
  intro document other n
  cases n with
  | zero => rfl
  | succ n =>
    rw [unfolded, unfolded]
    exact congrArg Json.array (List.map_congr_left fun item hi => h item hi document other n)

theorem literal_texts (texts : List String) : Literal (.array (texts.map .string)) := by
  refine literal_array fun item hi => ?_
  obtain ⟨text, -, rfl⟩ := List.mem_map.1 hi
  exact literal_string text

/-- Fields that neither are nor hold references. -/
structure LiteralFields (fields : Fields) : Prop where
  /-- None is a reference or a part of a document. -/
  unreserved : Unreserved fields
  /-- Their values hold no reference. -/
  literal : ∀ field ∈ fields, Literal field.2

namespace LiteralFields

variable {fields more : Fields}

theorem mapValues_eq (h : LiteralFields fields) (document other : Fields) (n : Nat) :
    mapValues (unfolded document n) fields = mapValues (unfolded other n) fields := by
  refine List.map_congr_left fun field hf => ?_
  rw [h.literal field hf document other n]

theorem nil : LiteralFields [] := ⟨unreserved_nil, fun _ hf => (nomatch hf)⟩

theorem putAll (hf : LiteralFields fields) (hm : LiteralFields more) :
    LiteralFields (fields.putAll more) :=
  ⟨hf.unreserved.putAll hm.unreserved,
    fun field h => (mem_putAll h).elim (hf.literal field) (hm.literal field)⟩

end LiteralFields

theorem literal_object {fields : Fields} (h : LiteralFields fields) : Literal (.object fields) := by
  intro document other n
  cases n with
  | zero => rfl
  | succ n =>
    rw [unfolded, unfolded, h.unreserved.resolved, h.unreserved.resolved,
      h.mapValues_eq document other]

/-! ## Values that unfold alike -/

/-- Objects without a reference unfold alike if their fields do, whatever literal fields they have
besides. -/
theorem unfolded_object_congr {document other fields others more : Fields} {n : Nat}
    (hf : Unreserved fields) (ho : Unreserved others) (hm : LiteralFields more)
    (h : ∀ k < n, mapValues (unfolded document k) fields = mapValues (unfolded other k) others) :
    unfolded document n (.object (fields.putAll more)) =
      unfolded other n (.object (others.putAll more)) := by
  cases n with
  | zero => rfl
  | succ n =>
    rw [unfolded, unfolded, (hf.putAll hm.unreserved).resolved,
      (ho.putAll hm.unreserved).resolved, mapValues_putAll, mapValues_putAll,
      h n (Nat.lt_succ_self n), hm.mapValues_eq document other]

theorem unfolded_array_congr {α : Type} {document other : Fields} {n : Nat} {f g : α → Json}
    {items : List α}
    (h : ∀ k < n, ∀ x ∈ items, unfolded document k (f x) = unfolded other k (g x)) :
    unfolded document n (.array (items.map f)) = unfolded other n (.array (items.map g)) := by
  cases n with
  | zero => rfl
  | succ n =>
    rw [unfolded, unfolded, List.map_map, List.map_map]
    exact congrArg Json.array (List.map_congr_left (h n (Nat.lt_succ_self n)))

end Target.JsonSchema
end DocModel
