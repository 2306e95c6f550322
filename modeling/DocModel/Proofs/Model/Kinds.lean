import DocModel.Model.Basic

/-!
# DocModel.Proofs.Model.Kinds

What a type of a model is, from what the model defines: a name that is found is the name of what is
found, and `DataModel.classify` gives it back. `DataModel.classify_cases` lists all it can give.
-/

namespace DocModel

namespace DataModel

variable {m : DataModel} {dtype name : String}

theorem name_of_object? {o : Object} (h : m.object? name = some o) : o.name = name := by
  simpa using List.find?_some h

theorem mem_of_object? {o : Object} (h : m.object? name = some o) : o ∈ m.objects :=
  List.mem_of_find?_eq_some h

theorem name_of_enumeration? {e : Enumeration} (h : m.enumeration? name = some e) :
    e.name = name := by
  simpa using List.find?_some h

theorem mem_names_of_object? {o : Object} (found : m.object? name = some o) :
    name ∈ m.objects.map (·.name) :=
  List.mem_map.2 ⟨o, mem_of_object? found, name_of_object? found⟩

theorem mem_names_of_enumeration? {e : Enumeration} (found : m.enumeration? name = some e) :
    name ∈ m.enums.map (·.name) :=
  List.mem_map.2 ⟨e, List.mem_of_find?_eq_some found, name_of_enumeration? found⟩

/-- A name denotes what is found first of it: an object, an enumeration, a primitive type. -/
theorem classify_cases (m : DataModel) (dtype : String) :
    (∃ o, m.object? dtype = some o ∧ m.classify dtype = .object dtype) ∨
    (m.object? dtype = none ∧
      ∃ e, m.enumeration? dtype = some e ∧ m.classify dtype = .enumeration dtype) ∨
    (m.object? dtype = none ∧ m.enumeration? dtype = none ∧
      ((∃ p, m.classify dtype = .primitive p) ∨ m.classify dtype = .unknown dtype)) := by
  unfold classify resolve
  cases ho : m.object? dtype with
  | some o => exact .inl ⟨o, rfl, congrArg Kind.object (name_of_object? ho)⟩
  | none =>
    cases he : m.enumeration? dtype with
    | some e => exact .inr (.inl ⟨rfl, e, rfl, congrArg Kind.enumeration (name_of_enumeration? he)⟩)
    | none =>
      cases Primitive.read? dtype with
      | some p => exact .inr (.inr ⟨rfl, rfl, .inl ⟨p, rfl⟩⟩)
      | none => exact .inr (.inr ⟨rfl, rfl, .inr rfl⟩)

theorem classify_of_object? {o : Object} (h : m.object? dtype = some o) :
    m.classify dtype = .object dtype := by
  obtain ⟨-, -, kind⟩ | ⟨none, -⟩ | ⟨none, -⟩ := m.classify_cases dtype
  · exact kind
  all_goals
    rw [h] at none
    cases none

theorem classify_eq_object (h : m.classify dtype = .object name) :
    name = dtype ∧ ∃ o, m.object? dtype = some o := by
  obtain ⟨o, found, kind⟩ | ⟨-, -, -, kind⟩ | ⟨-, -, ⟨_, kind⟩ | kind⟩ := m.classify_cases dtype <;>
    cases kind.symm.trans h
  exact ⟨rfl, o, found⟩

theorem classify_eq_enumeration (h : m.classify dtype = .enumeration name) :
    name = dtype ∧ m.object? dtype = none ∧ ∃ e, m.enumeration? dtype = some e := by
  obtain ⟨-, -, kind⟩ | ⟨noObject, e, found, kind⟩ | ⟨-, -, ⟨_, kind⟩ | kind⟩ :=
    m.classify_cases dtype <;> cases kind.symm.trans h
  exact ⟨rfl, noObject, e, found⟩

theorem classify_eq_primitive {p : Primitive} (h : m.classify dtype = .primitive p) :
    m.object? dtype = none ∧ m.enumeration? dtype = none := by
  obtain ⟨-, -, kind⟩ | ⟨-, -, -, kind⟩ | ⟨noObject, noEnumeration, -⟩ := m.classify_cases dtype
  · cases kind.symm.trans h
  · cases kind.symm.trans h
  · exact ⟨noObject, noEnumeration⟩

theorem classify_eq_unknown (h : m.classify dtype = .unknown name) :
    name = dtype ∧ m.object? dtype = none ∧ m.enumeration? dtype = none := by
  obtain ⟨-, -, kind⟩ | ⟨-, -, -, kind⟩ | ⟨noObject, noEnumeration, ⟨_, kind⟩ | kind⟩ :=
    m.classify_cases dtype <;> cases kind.symm.trans h
  exact ⟨rfl, noObject, noEnumeration⟩

theorem classify_ne_unknown (h : (m.resolve dtype).isSome = true) (name : String) :
    m.classify dtype ≠ .unknown name := by
  obtain ⟨found, resolved⟩ := Option.isSome_iff_exists.1 h
  rw [classify, resolved]
  cases found <;> simp

end DataModel

end DocModel
