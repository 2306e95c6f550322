import DocModel.Proofs.Agreement

/-!
# DocModel.Proofs.Registration

A registry after any number of registrations is described by their history alone. The history
says which template of a format came last, and everything that the registry answers follows.

* `LastFor`: the last template of a history for a name;
* `get?_register_iff`: one more registration, and `get?_registerEach_iff`: any number of them;
* `Registry.Shows`: what a registry with such a history lists, finds and detects;
* `registrations_shown`: a registry shows its history, whether it was empty or complete before.
-/

namespace DocModel

/-! ## Histories -/

/-- A template is the last one of a history for a name. -/
def LastFor (name : String) (history : List Template) (t : Template) : Prop :=
  ∃ before after, history = before ++ t :: after ∧ t.target.name = name ∧
    ∀ later ∈ after, later.target.name ≠ name

section

variable {name : String} {history : List Template} {t u : Template}

theorem not_lastFor_nil : ¬ LastFor name [] t := by
  rintro ⟨before, after, same, -⟩
  exact List.append_ne_nil_of_right_ne_nil before (List.cons_ne_nil t after) same.symm

theorem LastFor.of_name (h : u.target.name = name) : LastFor name (history ++ [u]) u :=
  ⟨history, [], rfl, h, fun _ later => absurd later List.not_mem_nil⟩

theorem LastFor.concat (h : LastFor name history t) (other : u.target.name ≠ name) :
    LastFor name (history ++ [u]) t := by
  obtain ⟨before, after, rfl, named, last⟩ := h
  refine ⟨before, after ++ [u], by simp, named, fun later mem => ?_⟩
  rcases List.mem_append.1 mem with mem | mem
  · exact last later mem
  · rw [List.mem_singleton.1 mem]
    exact other

/-- One more template is the last one for its own name and changes nothing for the others. -/
theorem lastFor_concat_iff : LastFor name (history ++ [u]) t ↔
    if u.target.name = name then t = u else LastFor name history t := by
  constructor
  · rintro ⟨before, after, same, named, last⟩
    rcases List.eq_nil_or_concat after with rfl | ⟨earlier, final, rfl⟩
    · obtain ⟨-, singles⟩ := List.append_inj' same rfl
      obtain rfl : u = t := List.singleton_inj.1 singles
      rw [if_pos named]
    · have split : history ++ [u] = (before ++ t :: earlier) ++ [final] := by
        rw [same]
        simp
      obtain ⟨rfl, singles⟩ := List.append_inj' split rfl
      obtain rfl : u = final := List.singleton_inj.1 singles
      rw [if_neg (last u (by simp))]
      exact ⟨before, earlier, rfl, named, fun later mem => last later (by simp [mem])⟩
  · intro h
    split at h
    · next named =>
      rw [h]
      exact .of_name named
    · next other => exact h.concat other

/-- A name has a last template exactly if it has one at all. -/
theorem exists_lastFor_iff :
    (∃ t, LastFor name history t) ↔ ∃ t ∈ history, t.target.name = name := by
  induction history using List.reverseRecOn with
  | nil => simp [not_lastFor_nil]
  | append_singleton history u ih =>
    simp only [lastFor_concat_iff, List.mem_append, List.mem_singleton]
    split
    · next named => exact ⟨fun _ => ⟨u, .inr rfl, named⟩, fun _ => ⟨u, rfl⟩⟩
    · next other =>
      rw [ih]
      constructor
      · rintro ⟨t, mem, named⟩
        exact ⟨t, .inl mem, named⟩
      · rintro ⟨t, mem | rfl, named⟩
        · exact ⟨t, mem, named⟩
        · exact absurd named other

end

/-- The template that a history leaves to a format writes files with an extension. -/
def Writes (history : List Template) (extension : String) (target : Target) : Prop :=
  ∃ t, LastFor target.name history t ∧ t.extension = extension

/-- A format is the first of all whose template writes files with the extension of this one. -/
def FirstWriter (history : List Template) (fileName : String) (target : Target) : Prop :=
  ∃ extension before after, Path.extension? fileName = some extension ∧
    Target.all = before ++ target :: after ∧ Writes history extension target ∧
    ∀ other ∈ before, ¬ Writes history extension other

/-! ## Registries -/

namespace Registry

/-- The registry with some more templates, one after the other. -/
def registerEach (r : Registry) (templates : List Template) : Registry := templates.foldl register r

section

variable {r : Registry} {history : List Template}

/-- One more registration: what a registry finds is what its history leaves to a name. -/
theorem get?_register_iff
    (h : ∀ name t, r.get? name = some t ↔ LastFor name history t) (u : Template) :
    ∀ name t, (r.register u).get? name = some t ↔ LastFor name (history ++ [u]) t := by
  intro name t
  rw [get?_register, lastFor_concat_iff]
  by_cases named : u.target.name = name
  · rw [if_pos named.symm, if_pos named, Option.some.injEq, eq_comm]
  · rw [if_neg (Ne.symm named), if_neg named, h]

theorem get?_registerEach_iff
    (h : ∀ name t, r.get? name = some t ↔ LastFor name history t) (templates : List Template) :
    ∀ name t, (r.registerEach templates).get? name = some t ↔
      LastFor name (history ++ templates) t := by
  induction templates generalizing r history with
  | nil => simpa [registerEach] using h
  | cons u rest ih =>
    rw [List.append_cons]
    exact ih (get?_register_iff h u)

theorem get?_empty_iff (name : String) (t : Template) :
    empty.get? name = some t ↔ LastFor name [] t :=
  iff_of_false (Option.some_ne_none t).symm not_lastFor_nil

theorem complete_eq : complete = empty.registerEach (Target.all.map Target.template) := by
  rw [registerEach, List.foldl_map]
  rfl

theorem get_eq_ok_iff {name : String} {t : Template} :
    r.get name = .ok t ↔ r.get? name = some t := by
  rw [get]
  cases r.get? name <;> simp

theorem mem_names_iff {name : String} : name ∈ r.names ↔ ∃ t, r.get? name = some t := by
  constructor
  · intro h
    obtain ⟨entry, mem, rfl⟩ := List.mem_map.1 h
    exact ⟨entry.2, r.ascending.lookup_of_mem mem⟩
  · rintro ⟨t, found⟩
    obtain ⟨before, after, same, -⟩ := List.lookup_eq_some_iff.1 found
    exact List.mem_map.2 ⟨(name, t), same ▸ List.mem_append_right before List.mem_cons_self, rfl⟩

end

/-- What a registry with a history of registrations lists, finds and detects. -/
structure Shows (r : Registry) (history : List Template) : Prop where
  /-- Every template stands under the name of its format. -/
  named : ∀ entry ∈ r.entries, entry.1 = entry.2.target.name
  /-- The names are listed in order, and each of them once. -/
  ascending : r.names.Pairwise (· < ·)
  /-- The names that are listed are those that were registered. -/
  listed : ∀ name, name ∈ r.names ↔ ∃ t ∈ history, t.target.name = name
  /-- They are those that the registry has. -/
  has_iff : ∀ name, r.has name = true ↔ name ∈ r.names
  /-- They are those that it finds. -/
  found_iff : ∀ name, (∃ t, r.get name = .ok t) ↔ name ∈ r.names
  /-- It finds the template that was registered last. -/
  last : ∀ name t, r.get name = .ok t ↔ LastFor name history t
  /-- For any other name it says that there is none. -/
  missing : ∀ name, name ∉ r.names → r.get name = .error (.templateNotFound name)
  /-- It detects the first format whose template now writes files like this one. -/
  detected : ∀ fileName target, r.detect? fileName = some target ↔
    FirstWriter history fileName target
  /-- It detects nothing if there is no extension, or no template for it. -/
  undetected : ∀ fileName, r.detect? fileName = none ↔
    ∀ extension, Path.extension? fileName = some extension →
      ∀ target, ¬ Writes history extension target

section

variable {r : Registry} {history : List Template}

/-- Whether the template of a format writes files with an extension. -/
def writes (r : Registry) (extension : String) (target : Target) : Bool :=
  match r.get? target.name with
  | some t => t.extension == extension
  | none => false

theorem writes_iff (h : ∀ name t, r.get? name = some t ↔ LastFor name history t)
    (extension : String) (target : Target) :
    r.writes extension target = true ↔ Writes history extension target := by
  rw [writes, Writes]
  simp only [← h]
  cases r.get? target.name <;> simp

theorem detect?_of_extension {fileName extension : String}
    (h : Path.extension? fileName = some extension) :
    r.detect? fileName = Target.all.find? (r.writes extension) := by
  rw [detect?, h]
  rfl

theorem detect?_of_no_extension {fileName : String} (h : Path.extension? fileName = none) :
    r.detect? fileName = none := by
  rw [detect?, h]

theorem detect?_eq_some_iff (h : ∀ name t, r.get? name = some t ↔ LastFor name history t)
    (fileName : String) (target : Target) :
    r.detect? fileName = some target ↔ FirstWriter history fileName target := by
  rw [FirstWriter]
  cases given : Path.extension? fileName with
  | none => simp [detect?_of_no_extension given]
  | some extension =>
    rw [detect?_of_extension given, List.find?_eq_some_iff_append]
    simp only [writes_iff h, Option.some.injEq, Bool.not_eq_true', ← Bool.not_eq_true]
    constructor
    · rintro ⟨here, before, after, same, earlier⟩
      exact ⟨extension, before, after, rfl, same, here, earlier⟩
    · rintro ⟨_, before, after, rfl, same, here, earlier⟩
      exact ⟨here, before, after, same, earlier⟩

theorem detect?_eq_none_iff (h : ∀ name t, r.get? name = some t ↔ LastFor name history t)
    (fileName : String) : r.detect? fileName = none ↔
      ∀ extension, Path.extension? fileName = some extension →
        ∀ target, ¬ Writes history extension target := by
  cases given : Path.extension? fileName with
  | none => simp [detect?_of_no_extension given]
  | some extension =>
    simp [detect?_of_extension given, writes_iff h, Target.mem_all]

theorem shows_of_get? (h : ∀ name t, r.get? name = some t ↔ LastFor name history t) :
    r.Shows history where
  named := r.named
  ascending := List.pairwise_map.2 r.ascending
  listed := by
    intro name
    rw [mem_names_iff, ← exists_lastFor_iff]
    simp only [h]
  has_iff := by
    intro name
    rw [mem_names_iff, has, Option.isSome_iff_exists]
  found_iff := by
    intro name
    rw [mem_names_iff]
    simp only [get_eq_ok_iff]
  last := fun name t => get_eq_ok_iff.trans (h name t)
  missing := by
    intro name unlisted
    rw [mem_names_iff, ← Option.isSome_iff_exists, Option.not_isSome_iff_eq_none] at unlisted
    rw [get, unlisted]
  detected := detect?_eq_some_iff h
  undetected := detect?_eq_none_iff h

end

/-- After any registrations a registry shows their history, behind that of all formats if it was
complete before. -/
theorem registrations_shown (templates : List Template) :
    (empty.registerEach templates).Shows templates ∧
    (complete.registerEach templates).Shows (Target.all.map Target.template ++ templates) := by
  have defaults := get?_registerEach_iff get?_empty_iff (Target.all.map Target.template)
  rw [← complete_eq, List.nil_append] at defaults
  exact ⟨shows_of_get? (get?_registerEach_iff get?_empty_iff templates),
    shows_of_get? (get?_registerEach_iff defaults templates)⟩

/-- A template that replaces another one may leave its files to a later format. -/
example :
    let other : Template := { Target.template .pythonPydanticXml with extension := "xml" }
    complete.detect? "model.py" = some .pythonPydanticXml ∧
      (complete.registerEach [other]).detect? "model.py" = some .pythonPydantic := by decide +kernel

end Registry
end DocModel
