import DocModel.Editor.Inspect
import DocModel.Proofs.Entries

/-!
# DocModel.Proofs.Model.RoundTrip

The JSON form of a model loses nothing: what is written for a model is read as that model.

* `ofJson?_toJson` says this of every type that occurs in a model, each from those inside it;
* `Config.LeavesOut`: a setting is left out exactly where its absence is read as its value;
* `model_json_lossless` puts the model, its settings and the view together.

Numbers of places are read within 64 bits; `Fits` says that those of a model are.
-/

namespace DocModel

open Json

/-! ## Values -/

namespace Json

variable {α : Type} {read : Json → Option α}

theorem asNat?_nat {n : Nat} (h : n < Nat.pow 2 64) : asNat? (.nat n) = some n :=
  if_pos h

theorem asList?_array {write : α → Json} {items : List α}
    (h : ∀ x ∈ items, read (write x) = some x) :
    asList? read (.array (items.map write)) = some items := by
  rw [asList?]
  induction items with
  | nil => rfl
  | cons x rest ih =>
    have first := h x List.mem_cons_self
    have later := ih fun y hy => h y (List.mem_cons_of_mem x hy)
    simp [List.mapM_cons, first, later]

theorem asList?_strings (texts : List String) :
    asList? asString? (.array (texts.map .string)) = some texts :=
  asList?_array fun _ _ => rfl

theorem asOption?_optional (text : Option String) :
    asOption? asString? (.optional text) = some text := by
  cases text <;> rfl

/-- A field that is read, on the way through a record. -/
theorem bind_of_read {β : Type} {value : Option α} {x : α} (h : value = some x)
    (rest : α → Option β) : (value >>= rest) = rest x := by
  rw [h]
  rfl

theorem required?_of_lookup {fields : List (String × Json)} {name : String} {value : Json} {x : α}
    (found : fields.lookup name = some value) (h : read value = some x) :
    required? (.object fields) name read = some x := by
  rw [required?, field?, fields?, Option.bind_eq_bind, Option.bind_eq_bind, Option.bind_some,
    found, Option.bind_some, h]

theorem optional?_of_lookup {fields : List (String × Json)} {name : String} {value : Json}
    {absent x : α} (found : fields.lookup name = some value) (h : read value = some x) :
    optional? (.object fields) name absent read = some x := by
  rw [optional?, field?, fields?, Option.bind_eq_bind, Option.bind_some, found]
  exact h

theorem asOption?_object {fields : List (String × Json)} {x : α}
    (h : read (.object fields) = some x) : asOption? read (.object fields) = some (some x) := by
  rw [asOption?, h]
  · rfl
  · intro none
    cases none

end Json

/-! ## Dictionaries -/

theorem Dictionary.ofList_entries (d : Dictionary) : Dictionary.ofList d.entries = d := by
  have same : (Dictionary.ofList d.entries).entries = d.entries := by
    refine ext_of_lookup (Dictionary.ofList d.entries).ascending d.ascending fun name => ?_
    exact (find?_ofList d.entries name).trans (d.ascending.lookup_reverse name)
  obtain ⟨entries, ascending⟩ := d
  cases h : Dictionary.ofList entries with
  | mk others more =>
    rw [h] at same
    cases same
    rfl

theorem Json.asDictionary?_toJson (d : Dictionary) : asDictionary? d.toJson = some d := by
  have texts : ∀ entries : List (String × String),
      (entries.map fun entry => (entry.1, Json.string entry.2)).mapM
        (fun field => (asString? field.2).map fun text => (field.1, text)) = some entries := by
    intro entries
    induction entries with
    | nil => rfl
    | cons entry rest ih =>
      rw [List.map_cons, List.mapM_cons, ih]
      rfl
  simp only [asDictionary?, Dictionary.toJson, texts, Option.map_some, d.ofList_entries]

/-! ## Places -/

structure Span.Fits (s : Span) : Prop where
  start : s.start < Nat.pow 2 64
  stop : s.stop < Nat.pow 2 64

instance (s : Span) : Decidable s.Fits :=
  decidable_of_iff (s.start < Nat.pow 2 64 ∧ s.stop < Nat.pow 2 64)
    ⟨fun ⟨start, stop⟩ => ⟨start, stop⟩, fun h => ⟨h.start, h.stop⟩⟩

/-- Places are counted in 64 bits. -/
structure SourcePosition.Fits (p : SourcePosition) : Prop where
  line : p.line < Nat.pow 2 64
  column : p.column.Fits
  offset : p.offset.Fits

instance (p : SourcePosition) : Decidable p.Fits :=
  decidable_of_iff (p.line < Nat.pow 2 64 ∧ p.column.Fits ∧ p.offset.Fits)
    ⟨fun ⟨line, column, offset⟩ => ⟨line, column, offset⟩, fun h => ⟨h.line, h.column, h.offset⟩⟩

theorem Span.ofJson?_toJson {s : Span} (h : s.Fits) : Span.ofJson? s.toJson = some s := by
  simp [Span.ofJson?, Span.toJson, asRecord?, required?, field?, fields?, asNat?_nat h.start,
    asNat?_nat h.stop, List.lookup_cons]

theorem SourcePosition.ofJson?_toJson {p : SourcePosition} (h : p.Fits) :
    SourcePosition.ofJson? p.toJson = some p := by
  simp [SourcePosition.ofJson?, SourcePosition.toJson, asRecord?, required?, field?, fields?,
    asNat?_nat h.line, Span.ofJson?_toJson h.column, Span.ofJson?_toJson h.offset, List.lookup_cons]

theorem asOption?_optionalPosition {place : Option SourcePosition}
    (h : ∀ p ∈ place, p.Fits) :
    asOption? SourcePosition.ofJson? (optionalPosition place) = some place := by
  cases place with
  | none => rfl
  | some p => exact asOption?_object (SourcePosition.ofJson?_toJson (h p rfl))

/-! ## Attributes -/

theorem XmlHint.ofJson?_toJson (x : XmlHint) : XmlHint.ofJson? x.toJson = some x := by
  simp [XmlHint.ofJson?, XmlHint.toJson, asRecord?, required?, field?, fields?, asBool?, asString?,
    List.lookup_cons]

theorem AttributeOption.ofJson?_toJson (o : AttributeOption) :
    AttributeOption.ofJson? o.toJson = some o := by
  simp [AttributeOption.ofJson?, AttributeOption.toJson, asRecord?, required?, field?, fields?,
    asString?, List.lookup_cons]

structure Attribute.Fits (a : Attribute) : Prop where
  position : a.position.Fits
  typePosition : ∀ p ∈ a.typePosition, p.Fits
  termPosition : ∀ p ∈ a.termPosition, p.Fits

instance (a : Attribute) : Decidable a.Fits :=
  decidable_of_iff (a.position.Fits ∧ (∀ p ∈ a.typePosition, p.Fits) ∧ ∀ p ∈ a.termPosition, p.Fits)
    ⟨fun ⟨position, typePosition, termPosition⟩ => ⟨position, typePosition, termPosition⟩,
      fun h => ⟨h.position, h.typePosition, h.termPosition⟩⟩

theorem Attribute.ofJson?_toJson {a : Attribute} (h : a.Fits) :
    Attribute.ofJson? a.toJson = some a := by
  -- field by field: all of them in one step are too many for the simplifier
  have record : a.toJson.asRecord? Attribute.fieldNames = some a.toJson := rfl
  have name : a.toJson.required? "name" asString? = _ := required?_of_lookup rfl rfl
  have multiple : a.toJson.required? "multiple" asBool? = _ := required?_of_lookup rfl rfl
  have isId : a.toJson.required? "is_id" asBool? = _ := required?_of_lookup rfl rfl
  have dtypes : a.toJson.required? "dtypes" (asList? asString?) = _ :=
    required?_of_lookup rfl (asList?_strings a.dtypes)
  have docstring : a.toJson.required? "docstring" asString? = _ := required?_of_lookup rfl rfl
  have term : a.toJson.optional? "term" none (asOption? asString?) = _ :=
    optional?_of_lookup rfl (asOption?_optional a.term)
  have required : a.toJson.required? "required" asBool? = _ := required?_of_lookup rfl rfl
  have xml : a.toJson.required? "xml" XmlHint.ofJson? = _ :=
    required?_of_lookup rfl (XmlHint.ofJson?_toJson a.xml)
  have options : a.toJson.required? "options" (asList? AttributeOption.ofJson?) = _ :=
    required?_of_lookup rfl (asList?_array fun o _ => AttributeOption.ofJson?_toJson o)
  have isEnum : a.toJson.required? "is_enum" asBool? = _ := required?_of_lookup rfl rfl
  have position : a.toJson.required? "position" SourcePosition.ofJson? = _ :=
    required?_of_lookup rfl (SourcePosition.ofJson?_toJson h.position)
  have typePosition : a.toJson.optional? "type_position" none
      (asOption? SourcePosition.ofJson?) = _ :=
    optional?_of_lookup rfl (asOption?_optionalPosition h.typePosition)
  have termPosition : a.toJson.optional? "term_position" none
      (asOption? SourcePosition.ofJson?) = _ :=
    optional?_of_lookup rfl (asOption?_optionalPosition h.termPosition)
  rw [Attribute.ofJson?, bind_of_read record, bind_of_read name, bind_of_read multiple,
    bind_of_read isId, bind_of_read dtypes, bind_of_read docstring, bind_of_read term,
    bind_of_read required, bind_of_read xml, bind_of_read options, bind_of_read isEnum,
    bind_of_read position, bind_of_read typePosition, bind_of_read termPosition]
  rfl

/-! ## Definitions -/

structure Object.Fits (o : Object) : Prop where
  position : o.position.Fits
  attributes : ∀ a ∈ o.attributes, a.Fits

instance (o : Object) : Decidable o.Fits :=
  decidable_of_iff (o.position.Fits ∧ ∀ a ∈ o.attributes, a.Fits)
    ⟨fun ⟨position, attributes⟩ => ⟨position, attributes⟩, fun h => ⟨h.position, h.attributes⟩⟩

theorem Object.ofJson?_toJson {o : Object} (h : o.Fits) : Object.ofJson? o.toJson = some o := by
  have attributes : asList? Attribute.ofJson? (.array (o.attributes.map (·.toJson))) =
      some o.attributes :=
    asList?_array fun a ha => Attribute.ofJson?_toJson (h.attributes a ha)
  simp [Object.ofJson?, Object.toJson, asRecord?, required?, field?, fields?, asString?, attributes,
    SourcePosition.ofJson?_toJson h.position, List.lookup_cons]

theorem Enumeration.ofJson?_toJson {e : Enumeration} (h : e.position.Fits) :
    Enumeration.ofJson? e.toJson = some e := by
  simp [Enumeration.ofJson?, Enumeration.toJson, asRecord?, required?, field?, fields?, asString?,
    asDictionary?_toJson, SourcePosition.ofJson?_toJson h, List.lookup_cons]

/-! ## Settings -/

namespace Config

variable (c : Config)

theorem lookup_textField (key name : String) (text : Option String) :
    (textField name text).lookup key = if key = name then text.map .string else none := by
  cases text with
  | none => exact (ite_self none).symm
  | some s => rw [textField, lookup_entry]; rfl

theorem lookup_dictionaryField (key name : String) (d : Dictionary) :
    (dictionaryField name d).lookup key =
      if key = name then (if d.isEmpty then none else some d.toJson) else none := by
  rw [dictionaryField]
  by_cases h : d.isEmpty
  · simp [h]
  · rw [if_neg h, if_neg h, lookup_entry]; rfl

theorem lookup_flagField (key name : String) (flag : Bool) :
    (if flag then [(name, Json.bool true)] else []).lookup key =
      if key = name then (if flag then some (.bool true) else none) else none := by
  cases flag with
  | false => exact (ite_self none).symm
  | true => exact lookup_entry key name _ []

theorem field?_toJson (key : String) :
    c.toJson.field? key =
      if key = "id-field" then (if c.idField then some (.bool true) else none)
      else if key = "repo" then c.repo.map .string
      else if key = "prefix" then c.ownPrefix.map .string
      else if key = "prefixes" then (if c.prefixes.isEmpty then none else some c.prefixes.toJson)
      else if key = "nsmap" then (if c.nsmap.isEmpty then none else some c.nsmap.toJson)
      else none := by
  simp only [toJson, field?, fields?, Option.bind_eq_bind, Option.bind_some, List.lookup_append,
    lookup_flagField, lookup_textField, lookup_dictionaryField]
  by_cases idField : key = "id-field"
  · simp [idField]
  by_cases repo : key = "repo"
  · simp [repo]
  by_cases ownPrefix : key = "prefix"
  · simp [ownPrefix]
  by_cases prefixes : key = "prefixes"
  · simp [prefixes]
  simp [idField, repo, ownPrefix, prefixes]

theorem isEmpty_iff {d : Dictionary} : d.isEmpty = true ↔ d = .empty := by
  refine ⟨fun none => ?_, fun none => none ▸ rfl⟩
  obtain ⟨entries, ascending⟩ := d
  obtain rfl : entries = [] := List.isEmpty_iff.1 none
  rfl

theorem optional?_text {name : String} {text : Option String} {record : Json}
    (h : record.field? name = text.map .string) :
    record.optional? name none (asOption? asString?) = some text := by
  rw [optional?, h]
  cases text <;> rfl

theorem optional?_dictionary {name : String} {d : Dictionary} {record : Json}
    (h : record.field? name = if d.isEmpty then none else some d.toJson) :
    record.optional? name .empty asDictionary? = some d := by
  rw [optional?, h]
  by_cases none : d.isEmpty
  · rw [if_pos none, isEmpty_iff.1 none]
  · rw [if_neg none]
    exact asDictionary?_toJson d

theorem ofJson?_toJson : Config.ofJson? c.toJson = some c := by
  have record : Config.asRecord? c.toJson = some c.toJson := rfl
  have idField : c.toJson.optional? "id-field" false asBool? = some c.idField := by
    rw [optional?, c.field?_toJson]
    cases c.idField <;> rfl
  have repo := optional?_text (c.field?_toJson "repo")
  have ownPrefix := optional?_text (c.field?_toJson "prefix")
  have prefixes := optional?_dictionary (c.field?_toJson "prefixes")
  have nsmap := optional?_dictionary (c.field?_toJson "nsmap")
  simp [Config.ofJson?, record, idField, repo, ownPrefix, prefixes, nsmap]

/-- A key is left out exactly where a setting has the value that is read in its absence. -/
structure LeavesOut (unset : Config) : Prop where
  idField : c.toJson.field? "id-field" = none ↔ c.idField = unset.idField
  repo : c.toJson.field? "repo" = none ↔ c.repo = unset.repo
  ownPrefix : c.toJson.field? "prefix" = none ↔ c.ownPrefix = unset.ownPrefix
  prefixes : c.toJson.field? "prefixes" = none ↔ c.prefixes = unset.prefixes
  nsmap : c.toJson.field? "nsmap" = none ↔ c.nsmap = unset.nsmap

theorem ofJson?_empty : Config.ofJson? (.object []) = some {} := rfl

theorem leavesOut : c.LeavesOut {} where
  idField := by simp [field?_toJson]
  repo := by simp [field?_toJson]
  ownPrefix := by simp [field?_toJson]
  prefixes := by simp [field?_toJson, isEmpty_iff]
  nsmap := by simp [field?_toJson, isEmpty_iff]

end Config

/-! ## Models -/

structure DataModel.Fits (m : DataModel) : Prop where
  objects : ∀ o ∈ m.objects, o.Fits
  enums : ∀ e ∈ m.enums, e.position.Fits

instance (m : DataModel) : Decidable m.Fits :=
  decidable_of_iff ((∀ o ∈ m.objects, o.Fits) ∧ ∀ e ∈ m.enums, e.position.Fits)
    ⟨fun ⟨objects, enums⟩ => ⟨objects, enums⟩, fun h => ⟨h.objects, h.enums⟩⟩

theorem DataModel.ofJson?_toJson {m : DataModel} (h : m.Fits) :
    DataModel.ofJson? m.toJson = some m := by
  have objects : asList? Object.ofJson? (.array (m.objects.map (·.toJson))) = some m.objects :=
    asList?_array fun o ho => Object.ofJson?_toJson (h.objects o ho)
  have enums : asList? Enumeration.ofJson? (.array (m.enums.map (·.toJson))) = some m.enums :=
    asList?_array fun e he => Enumeration.ofJson?_toJson (h.enums e he)
  simp [DataModel.ofJson?, DataModel.toJson, asRecord?, required?, optional?, field?, fields?,
    asOption?_optional, objects, enums, m.config.ofJson?_toJson, List.lookup_cons]

/-- The JSON form of a model is read as that model, and so are its settings alone: those that are
left out are the ones that have the value of a missing one. The view of a source is this form. -/
theorem model_json_lossless (m : DataModel) (h : m.Fits) :
    DataModel.ofJson? m.toJson = some m ∧ Config.ofJson? m.config.toJson = some m.config ∧
      (∃ unset, Config.ofJson? (.object []) = some unset ∧ m.config.LeavesOut unset) ∧
      ∀ source, Dialect.readModel source = .ok m →
        Editor.inspect source "model-json" = .ok (Editor.jsonText m.toJson) := by
  refine ⟨DataModel.ofJson?_toJson h, m.config.ofJson?_toJson,
    ⟨{}, Config.ofJson?_empty, m.config.leavesOut⟩, fun source hm => ?_⟩
  have view : Editor.View.ofName? "model-json" = some .model := by decide
  rw [Editor.inspect, view]
  simp only [Editor.View.show, hm]
  rfl

/-- A model with places, options, members and some of the settings. -/
def weatherModel : DataModel where
  name := some "Weather"
  objects := [
    { name := "Station", docstring := "Where it was measured.",
      attributes := [
        { name := "id", isId := true, dtypes := ["string"], xml := .ofAttribute "id",
          options := [{ key := "minimum", value := "0" }, { key := "", value := "" }],
          position := { line := 9, column := { start := 3, stop := 5 } },
          typePosition :=
            some { line := 10, offset := { start := 90, stop := Nat.pow 2 64 - 1 } } },
        { name := "sky", multiple := true, dtypes := ["Sky", "string"], term := some "ex:sky",
          isEnum := true, termPosition := some {} }],
      position := { line := 7 } }]
  enums := [
    { name := "Sky", mappings := .ofList [("GREY", "grey \"and\" dull"), ("BLUE", "")],
      position := { line := 20 } }]
  config := { ownPrefix := some "wx", prefixes := .ofList [("ex", "http://example.org/")] }

theorem model_json_lossless_weatherModel :
    weatherModel.Fits ∧ DataModel.ofJson? weatherModel.toJson = some weatherModel := by
  have fits : weatherModel.Fits := by decide
  exact ⟨fits, (model_json_lossless weatherModel fits).1⟩

end DocModel
