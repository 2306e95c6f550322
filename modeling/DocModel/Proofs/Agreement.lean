import DocModel.Conversion
import DocModel.Proofs.Entries
import DocModel.Proofs.Model.Kinds
import DocModel.Proofs.Validation.WellFormed

/-!
# DocModel.Proofs.Agreement

Converting a document and validating it read the document each for itself, and they agree: a
document is converted into a format exactly if its report is empty.

* `Registry.get_complete`: every format is registered, under its own name;
* `Template.Total`: a template that renders every model when it is given no parameters;
* `DataModel.Typed`: every type of every attribute is known;
* `Agreement`: what a conversion gives, by what the report says.
-/

namespace DocModel

/-! ## Templates by name -/

theorem Target.mem_all (target : Target) : target ∈ Target.all := by
  cases target <;> decide

@[simp]
theorem Target.target_template (target : Target) : target.template.target = target := by
  cases target <;> rfl

theorem Target.ofName?_name (target : Target) : Target.ofName? target.name = some target := by
  cases target <;> decide

theorem Target.name_injective {first second : Target} (h : first.name = second.name) :
    first = second := by
  have same := congrArg Target.ofName? h
  rw [ofName?_name, ofName?_name] at same
  exact Option.some.inj same

namespace Registry

theorem get?_register (r : Registry) (t : Template) (name : String) :
    (r.register t).get? name = if name = t.target.name then some t else r.get? name :=
  lookup_insertEntry t.target.name name t r.entries

/-- The registry with the templates of some formats as well. -/
def registerAll (r : Registry) (targets : List Target) : Registry :=
  targets.foldl (fun r target => r.register target.template) r

theorem get?_registerAll_of_not_mem {target : Target} {targets : List Target}
    (h : target ∉ targets) (r : Registry) :
    (r.registerAll targets).get? target.name = r.get? target.name := by
  induction targets generalizing r with
  | nil => rfl
  | cons first rest ih =>
    have other : target ≠ first := List.ne_of_not_mem_cons h
    have unnamed : target.name ≠ first.template.target.name := by
      intro same
      rw [Target.target_template] at same
      exact other (Target.name_injective same)
    calc ((r.register first.template).registerAll rest).get? target.name
        = (r.register first.template).get? target.name :=
          ih (List.not_mem_of_not_mem_cons h) _
      _ = r.get? target.name := by rw [get?_register, if_neg unnamed]

/-- A format keeps its template while other formats are registered, and gets the same one if it is
registered again. -/
theorem get?_registerAll {target : Target} {targets : List Target} (h : target ∈ targets)
    (r : Registry) : (r.registerAll targets).get? target.name = some target.template := by
  induction targets generalizing r with
  | nil => cases h
  | cons first rest ih =>
    by_cases again : target ∈ rest
    · exact ih again _
    · have here : target = first := (List.mem_cons.1 h).resolve_right again
      subst here
      calc ((r.register target.template).registerAll rest).get? target.name
          = (r.register target.template).get? target.name := get?_registerAll_of_not_mem again _
        _ = some target.template := by simp [get?_register]

theorem get_complete (target : Target) : complete.get target.name = .ok target.template := by
  have found : complete.get? target.name = some target.template :=
    get?_registerAll target.mem_all empty
  rw [get, found]

theorem render_complete (target : Target) (options : Options) (m : DataModel) :
    complete.render target.name options m = target.template.render options m := by
  rw [render, get_complete]
  rfl

end Registry

/-! ## Templates without parameters -/

/-- Whether a template renders every model when it is given no parameters. -/
def Template.Total (t : Template) : Prop := ∀ m, ∃ text, t.render [] m = .ok text

theorem Template.total_withoutOptions (target : Target) (description extension : String)
    (render : DataModel → String) :
    (Template.withoutOptions target description extension render).Total :=
  fun m => ⟨render m, rfl⟩

/-- Without a root that is asked for, the first object is the root, or there is none. -/
theorem Target.JsonSchema.render_without_options (m : DataModel) :
    JsonSchema.render [] m = .ok (documentOf m {} m.objects.head?).pretty := rfl

theorem Target.total_template (target : Target) : target.template.Total := by
  cases target with
  | jsonSchema => exact fun m => ⟨_, JsonSchema.render_without_options m⟩
  | _ => exact Template.total_withoutOptions _ _ _ _

/-! ## Models without findings -/

namespace DataModel

/-- Whether every type of every attribute is known. -/
def Typed (m : DataModel) : Prop :=
  ∀ o ∈ m.objects, ∀ a ∈ o.attributes, ∀ dtype ∈ a.dtypes, ∀ name,
    m.classify dtype ≠ .unknown name

theorem typed_of_wellFormed {reading : Dialect.Reading} (h : Validation.WellFormed reading) :
    reading.model.Typed := by
  intro o ho a ha dtype hd name
  have known := (h.attributes o ho a ha).known dtype hd
  exact classify_ne_unknown (Validation.resolve_isSome_iff.2 known) name

end DataModel

open Validation (validate reportOf)

/-! ## What a conversion gives -/

variable {source : String} {reading : Dialect.Reading} {e : Dialect.FrontMatterError}

theorem validate_of_parse (h : Dialect.parse source = .ok reading) :
    validate source = reportOf reading := by
  rw [validate, h]

theorem validModel_of_valid (h : Dialect.parse source = .ok reading)
    (valid : (reportOf reading).isValid = true) : validModel source = .ok reading.model := by
  rw [validModel, h]
  exact if_pos valid

theorem validModel_of_invalid (h : Dialect.parse source = .ok reading)
    (invalid : (reportOf reading).isValid = false) :
    validModel source = .error (.invalidModel (reportOf reading).findings) := by
  rw [validModel, h]
  exact if_neg (Bool.eq_false_iff.1 invalid)

theorem validModel_of_unreadable (h : Dialect.parse source = .error e) :
    validModel source = .error (.parse e) := by
  rw [validModel, h]

theorem exists_reading_of_validModel {m : DataModel} (h : validModel source = .ok m) :
    ∃ reading, Dialect.parse source = .ok reading ∧ reading.model = m ∧
      (reportOf reading).isValid = true := by
  cases parsed : Dialect.parse source with
  | error e =>
    rw [validModel_of_unreadable parsed] at h
    cases h
  | ok reading =>
    cases valid : (reportOf reading).isValid with
    | false =>
      rw [validModel_of_invalid parsed valid] at h
      cases h
    | true =>
      rw [validModel_of_valid parsed valid] at h
      cases h
      exact ⟨reading, rfl, rfl, valid⟩

theorem convert_of_error {error : ConversionError} (h : validModel source = .error error)
    (target : Target) (options : Options) : convert source target options = .error error := by
  rw [convert, h]
  rfl

theorem convert_of_validModel {m : DataModel} (h : validModel source = .ok m) (target : Target)
    (options : Options) : convert source target options = target.template.render options m := by
  rw [← Registry.render_complete, convert, h]
  rfl

theorem findings_ofFindings_singleton (f : Validation.Finding) :
    (Validation.Report.ofFindings [f]).findings = [f] := List.mergeSort_singleton f

theorem validate_of_unreadable (h : Dialect.parse source = .error e) :
    (validate source).findings = [Validation.parseFinding source e] := by
  rw [validate, h]
  exact findings_ofFindings_singleton _

/-- How a conversion without parameters and the report about the document agree. -/
structure Agreement (source : String) (target : Target) : Prop where
  /-- The document is converted exactly if there are no findings. -/
  converted_iff : (∃ text, convert source target [] = .ok text) ↔ (validate source).isValid = true
  /-- If it cannot be read, the only finding says so in the words of the error. -/
  unreadable : ∀ e, Dialect.parse source = .error e →
    convert source target [] = .error (.parse e) ∧
      ∃ f, (validate source).findings = [f] ∧ f.kind = .parseError ∧ f.message = e.message
  /-- If it can be read, but there are findings, these are the error. -/
  refused : ∀ reading, Dialect.parse source = .ok reading → (validate source).isValid = false →
    convert source target [] = .error (.invalidModel (validate source).findings)
  /-- Only a model with known types is rendered, and the text is the outcome. -/
  rendered : ∀ m, validModel source = .ok m →
    m.Typed ∧ ∃ text, Registry.complete.render target.name [] m = .ok text ∧
      convert source target [] = .ok text

theorem agreement_of_parse_error (h : Dialect.parse source = .error e) (target : Target) :
    Agreement source target := by
  have refused := convert_of_error (validModel_of_unreadable h) target []
  have findings := validate_of_unreadable h
  refine ⟨?converted, ?unreadable, ?refused, ?rendered⟩
  case converted =>
    simp [refused, Validation.Report.isValid, findings]
  case unreadable =>
    intro other parsed
    rw [h, Except.error.injEq] at parsed
    subst parsed
    exact ⟨refused, _, findings, rfl, rfl⟩
  case refused =>
    intro reading parsed
    rw [h] at parsed
    cases parsed
  case rendered =>
    intro m valid
    rw [validModel_of_unreadable h] at valid
    cases valid

theorem agreement_of_parse (h : Dialect.parse source = .ok reading) (target : Target) :
    Agreement source target := by
  have report := validate_of_parse h
  refine ⟨?converted, ?unreadable, ?refused, ?rendered⟩
  case converted =>
    rw [report]
    cases valid : (reportOf reading).isValid with
    | false =>
      simp [convert_of_error (validModel_of_invalid h valid)]
    | true =>
      rw [convert_of_validModel (validModel_of_valid h valid)]
      simpa using target.total_template reading.model
  case unreadable =>
    intro e parsed
    rw [h] at parsed
    cases parsed
  case refused =>
    intro _ _ invalid
    rw [report] at invalid ⊢
    exact convert_of_error (validModel_of_invalid h invalid) target []
  case rendered =>
    intro m valid
    obtain ⟨_, _, same, checked⟩ := exists_reading_of_validModel valid
    obtain ⟨text, written⟩ := target.total_template m
    have wellFormed := Validation.wellFormed_of_isValid checked
    refine ⟨same ▸ DataModel.typed_of_wellFormed wellFormed, text, ?_, ?_⟩
    · rw [Registry.render_complete, written]
    · rw [convert_of_validModel valid, written]

/-- Conversion and validation agree on every document and every format, and every format can be
written for every model that passes validation. -/
theorem conversion_agrees_with_validation :
    (∀ source target, Agreement source target) ∧
    ∀ reading, (reportOf reading).isValid = true → reading.model.Typed ∧
      ∀ target : Target, ∃ text,
        Registry.complete.render target.name [] reading.model = .ok text := by
  constructor
  · intro source target
    cases parsed : Dialect.parse source with
    | error e => exact agreement_of_parse_error parsed target
    | ok reading => exact agreement_of_parse parsed target
  · intro reading valid
    refine ⟨DataModel.typed_of_wellFormed (Validation.wellFormed_of_isValid valid), ?_⟩
    intro target
    rw [Registry.render_complete]
    exact target.total_template reading.model

end DocModel
