import DocModel.Proofs.Python.Names
import DocModel.Proofs.Python.Numbers

/-!
# DocModel.Proofs.Python.Defaults

The defaults of attributes as literals of Python.

* `Fits` says which literals suit the types of an attribute: a truth value needs a boolean type, a
  number has to be one of the language and needs a type of numbers, and any other text is a string
  that is read back;
* a default becomes a truth value whatever the types are, and a number whatever the language takes
  for one. `default_fits_iff` says what is asked of a default so that its literal fits,
  and `defaults_misfit` that not every default is like this.
-/

namespace DocModel
namespace Target.Python

open Text Number

/-! ## Literals that fit -/

/-- Some type of an attribute is one of these primitive types. -/
def HasType (m : DataModel) (a : Attribute) (ps : List Primitive) : Prop :=
  ∃ p ∈ ps, Kind.primitive p ∈ a.dtypes.map m.classify

/-- A text is one string literal with a value, whatever follows it but a quote. -/
def Denotes (named : List Char → Option Nat) (literal : String) (value : List Char) : Prop :=
  ∀ more : List Char, more.head? ≠ some '"' →
    literalFrom named (literal.toList ++ more) = some (codes value, more)

/-- A text without the quotes around it. -/
def bare (value : String) : List Char := trimWhere (· == '"') value.toList

/-- A literal for a default that suits the types of the attribute. -/
inductive Fits (named : List Char → Option Nat) (m : DataModel) (a : Attribute) (value : String) :
    String → Prop where
  | isTrue : HasType m a [.boolean] → equalsIgnoringCase value "true" = true →
    Fits named m a value "True"
  | isFalse : HasType m a [.boolean] → equalsIgnoringCase value "false" = true →
    Fits named m a value "False"
  | number : HasType m a [.integer, .float, .number] → Signed value.toList →
    Fits named m a value value
  | text {literal : String} : Denotes named literal (bare value) → Fits named m a value literal

/-- A default is spelled like a truth value. -/
def IsTruth (value : String) : Prop :=
  equalsIgnoringCase value "true" = true ∨ equalsIgnoringCase value "false" = true

/-- A default is taken for a number. -/
def IsNumber (m : DataModel) (a : Attribute) (value : String) : Prop :=
  HasType m a [.integer, .float, .number] ∧ (Numeral.read? value.toList).isSome

/-- What is asked of a default so that its literal fits. -/
structure Suitable (m : DataModel) (a : Attribute) (value : String) : Prop where
  truth : IsTruth value → HasType m a [.boolean]
  number : ¬ IsTruth value → IsNumber m a value →
    (∃ d, Numeral.read? value.toList = some (.finite d)) ∧ ¬ ZeroInFront (unsigned value.toList)
  text : ¬ IsTruth value → ¬ IsNumber m a value → '\x00' ∉ bare value

section

variable {named : List Char → Option Nat} {m : DataModel} {a : Attribute} {value : String}

theorem any_isNumeric_iff :
    a.dtypes.any (isNumeric m) = true ↔ HasType m a [.integer, .float, .number] := by
  have kind (dtype : String) : isNumeric m dtype = true ↔
      ∃ p ∈ [Primitive.integer, .float, .number], m.classify dtype = .primitive p := by
    rw [isNumeric]
    cases m.classify dtype <;> simp [numericTypes]
  rw [List.any_eq_true, HasType]
  constructor
  · rintro ⟨dtype, mem, numeric⟩
    obtain ⟨p, number, same⟩ := (kind dtype).1 numeric
    exact ⟨p, number, List.mem_map.2 ⟨dtype, mem, same⟩⟩
  · rintro ⟨p, number, inside⟩
    obtain ⟨dtype, mem, same⟩ := List.mem_map.1 inside
    exact ⟨dtype, mem, (kind dtype).2 ⟨p, number, same⟩⟩

theorem literal_of_number (truth : ¬ IsTruth value) (h : IsNumber m a value) :
    literal m a value = value := by
  obtain ⟨other, no⟩ := not_or.1 truth
  rw [literal, if_neg other, if_neg no, if_pos]
  rw [Bool.and_eq_true_iff, any_isNumeric_iff]
  exact h

theorem literal_of_text (truth : ¬ IsTruth value) (h : ¬ IsNumber m a value) :
    literal m a value = textLiteral (String.ofList (bare value)) := by
  obtain ⟨other, no⟩ := not_or.1 truth
  rw [literal, if_neg other, if_neg no, if_neg]
  · rfl
  · rw [Bool.and_eq_true_iff, any_isNumeric_iff]
    exact h

theorem not_denotes {literal : String} (h : literal.toList.head? ≠ some '"') {text : List Char} :
    ¬ Denotes named literal text := by
  intro read
  have whole := read [] nofun
  rw [List.append_nil, literalFrom.eq_def] at whole
  split at whole
  · cases whole
  · next rest same => exact h (same ▸ rfl)
  · cases whole

theorem word_bare {word : String} (mem : word = "True" ∨ word = "False") :
    word.toList.head? ≠ some '"' ∧ ¬ Signed word.toList := by
  have yes : "True".toList = ['T', 'r', 'u', 'e'] := rfl
  have no : "False".toList = ['F', 'a', 'l', 's', 'e'] := rfl
  rcases mem with rfl | rfl
  · rw [yes]
    exact ⟨by decide, not_numberLiteral_of_letter ⟨'T', rfl, rfl⟩⟩
  · rw [no]
    exact ⟨by decide, not_numberLiteral_of_letter ⟨'F', rfl, rfl⟩⟩

theorem Fits.boolean {literal : String} (h : Fits named m a value literal)
    (word : literal = "True" ∨ literal = "False") : HasType m a [.boolean] := by
  obtain ⟨quote, number⟩ := word_bare word
  cases h with
  | isTrue boolean _ => exact boolean
  | isFalse boolean _ => exact boolean
  | number _ signed => exact absurd signed number
  | text read => exact absurd read (not_denotes quote)

/-- What fits without a quote in front and is no truth value is a number. -/
theorem Fits.signed {literal : String} (h : Fits named m a value literal)
    (truth : ¬ IsTruth value) (quote : literal.toList.head? ≠ some '"') : Signed value.toList := by
  cases h with
  | isTrue _ spelled => exact absurd (.inl spelled) truth
  | isFalse _ spelled => exact absurd (.inr spelled) truth
  | number _ signed => exact signed
  | text read => exact absurd read (not_denotes quote)

theorem Fits.denotes {literal : String} (h : Fits named m a value literal)
    (quote : literal.toList.head? = some '"') : Denotes named literal (bare value) := by
  cases h with
  | isTrue _ _ => exact absurd quote (word_bare (.inl rfl)).1
  | isFalse _ _ => exact absurd quote (word_bare (.inr rfl)).1
  | number _ signed =>
    obtain ⟨rest, same⟩ := List.head?_eq_some_iff.1 quote
    rw [same] at signed
    exact absurd signed (no_number_of_quote rest).1
  | text read => exact read

/-- What is spelled like a truth value fits if there is a boolean type. -/
theorem fits_iff_of_truth (h : IsTruth value) :
    Fits named m a value (literal m a value) ↔ HasType m a [.boolean] := by
  by_cases yes : equalsIgnoringCase value "true" = true
  · have written : literal m a value = "True" := if_pos yes
    rw [written]
    exact ⟨fun fits => fits.boolean (.inl rfl), fun boolean => .isTrue boolean yes⟩
  · have no := h.resolve_left yes
    have written : literal m a value = "False" := by rw [literal, if_neg yes, if_pos no]
    rw [written]
    exact ⟨fun fits => fits.boolean (.inr rfl), fun boolean => .isFalse boolean no⟩

/-- What is taken for a number fits if it is one of the language. -/
theorem fits_iff_of_number (truth : ¬ IsTruth value) (h : IsNumber m a value) :
    Fits named m a value (literal m a value) ↔
      (∃ d, Numeral.read? value.toList = some (.finite d)) ∧
        ¬ ZeroInFront (unsigned value.toList) := by
  obtain ⟨n, read⟩ := Option.isSome_iff_exists.1 h.2
  have quote : value.toList.head? ≠ some '"' := by
    intro begun
    obtain ⟨rest, same⟩ := List.head?_eq_some_iff.1 begun
    rw [same, (no_number_of_quote rest).2] at read
    cases read
  have signed : Fits named m a value value ↔ Signed value.toList :=
    ⟨fun fits => fits.signed truth quote, .number h.1⟩
  rw [literal_of_number truth h, signed, signed_iff_of_read? read, read]
  simp only [Option.some.injEq]

/-- What is written as a text is read back, unless there is a null character in it. -/
theorem fits_iff_of_text (truth : ¬ IsTruth value) (h : ¬ IsNumber m a value) :
    Fits named m a value (literal m a value) ↔ '\x00' ∉ bare value := by
  have denotes : Denotes named (textLiteral (String.ofList (bare value))) (bare value) ↔
      '\x00' ∉ bare value := by
    constructor
    · intro read null
      have last : ([] : List Char).head? ≠ some '"' := nofun
      have whole := read [] last
      rw [literalFrom_textLiteral _ last, String.toList_ofList, if_pos null] at whole
      cases whole
    · intro clean more next
      rw [literalFrom_textLiteral _ next, String.toList_ofList, if_neg clean]
  have quote (text : String) : (textLiteral text).toList.head? = some '"' := by
    rw [textLiteral, String.toList_append, String.toList_append]
    rfl
  rw [literal_of_text truth h, ← denotes]
  exact ⟨fun fits => fits.denotes (quote _), .text⟩

/-- A literal fits exactly if the default is suitable: of the three sorts of literals one is
written. -/
theorem fits_literal_iff :
    Fits named m a value (literal m a value) ↔ Suitable m a value := by
  by_cases truth : IsTruth value
  · rw [fits_iff_of_truth truth]
    exact ⟨fun boolean => ⟨fun _ => boolean, absurd truth, absurd truth⟩, fun h => h.truth truth⟩
  · by_cases number : IsNumber m a value
    · rw [fits_iff_of_number truth number]
      exact ⟨fun legal => ⟨fun h => absurd h truth, fun _ _ => legal, fun _ h => absurd number h⟩,
        fun h => h.number truth number⟩
    · rw [fits_iff_of_text truth number]
      exact ⟨fun clean => ⟨fun h => absurd h truth, fun _ h => absurd h number, fun _ _ => clean⟩,
        fun h => h.text truth number⟩

/-! ## Where literals stand -/

/-- A literal stands in a text, and no quote follows it. -/
def StandsIn (literal text : String) : Prop :=
  ∃ before after, text = before ++ literal ++ after ∧ after.toList.head? ≠ some '"'

/-- The value of an argument stands in the call, and no quote follows it. -/
theorem argument_stands (function key value : String) (front back : List Argument) :
    StandsIn value (Declared.call function (front ++ .named key value :: back)).print := by
  have inside : ∃ before after,
      String.intercalate ", " ((front ++ .named key value :: back).map (·.print)) =
        before ++ value ++ after ∧ (after = "" ∨ ∃ rest, after = ", " ++ rest) := by
    induction front with
    | nil =>
      rw [List.nil_append, List.map_cons, Argument.print]
      cases back with
      | nil => exact ⟨key ++ "=", "", String.append_empty.symm, .inl rfl⟩
      | cons next more =>
        refine ⟨key ++ "=", ", " ++ String.intercalate ", " ((next :: more).map (·.print)), ?_,
          .inr ⟨_, rfl⟩⟩
        rw [String.intercalate_cons_of_ne_nil (by simp), String.append_assoc]
    | cons first rest ih =>
      obtain ⟨before, after, same, ending⟩ := ih
      refine ⟨first.print ++ ", " ++ before, after, ?_, ending⟩
      rw [List.cons_append, List.map_cons, String.intercalate_cons_of_ne_nil (by simp), same]
      simp only [String.append_assoc]
  obtain ⟨before, after, same, ending⟩ := inside
  refine ⟨function ++ "(" ++ before, after ++ ")", ?_, ?_⟩
  · rw [Declared.print, Python.call, same]
    simp only [String.append_assoc]
  · rcases ending with rfl | ⟨rest, rfl⟩
    · decide
    · have comma : ", ".toList = [',', ' '] := rfl
      rw [String.toList_append, String.toList_append, comma]
      exact fun same => absurd (Option.some.inj same) (by decide)

/-- What stands in the value that a field is declared with stands in its declaration. -/
theorem declared_stands {d : Declaration} {declared : Declared} {literal : String}
    (given : d.declared? = some declared)
    (h : StandsIn literal declared.print) : StandsIn literal d.print := by
  obtain ⟨before, after, same, ending⟩ := h
  refine ⟨d.name ++ ": " ++ d.annotation ++ " = " ++ before, after, ?_, ending⟩
  rw [Declaration.print, given]
  simp only [same, String.append_assoc]

/-- The literal of a default is the default of the field, and no quote follows it. -/
theorem default_stands (single : a.multiple = false) (given : a.default? = some value)
    (style : ClassStyle) :
    (declarationOf style m a).default? = some (literal m a value) ∧
    StandsIn (literal m a value) (declarationOf style m a).print := by
  have written : default m a = .value (literal m a value) := by
    rw [default, single, given]
    rfl
  cases style with
  | pydantic =>
    -- the default comes first, and other arguments may follow
    have call : ∃ back, checkedArguments m a = .named "default" (literal m a value) :: back := by
      rw [checkedArguments, written, if_neg Default.noConfusion]
      exact ⟨_, rfl⟩
    obtain ⟨back, same⟩ := call
    have declared : (declarationOf .pydantic m a).declared? =
        some (.call "Field" (.named "default" (literal m a value) :: back)) :=
      congrArg (some ∘ Declared.call "Field") same
    refine ⟨?_, declared_stands declared (argument_stands "Field" "default" _ [] back)⟩
    rw [Declaration.default?, Declaration.argument?, declared]
    rfl
  | pydanticXml =>
    -- the default comes last, behind the name in XML
    have call : ∃ function key text, xmlCall m a =
        .call function [.named key (inQuotes text), .named "default" (literal m a value)] ∧
          key ≠ "default" := by
      rw [xmlCall, written]
      split
      · exact ⟨"attr", "name", _, rfl, by decide⟩
      · exact ⟨"element", "tag", _, rfl, by decide⟩
    obtain ⟨function, key, text, same, other⟩ := call
    have declared : (declarationOf .pydanticXml m a).declared? =
        some (.call function
          ([.named key (inQuotes text)] ++ .named "default" (literal m a value) :: [])) :=
      congrArg some same
    refine ⟨?_, declared_stands declared (argument_stands function "default" _ _ [])⟩
    rw [Declaration.default?, Declaration.argument?, declared]
    simp [Argument.value?, other]
  | dataclass =>
    have declared : (declarationOf .dataclass m a).declared? =
        some (.literal (literal m a value)) := by
      rw [declarationOf, declaredFor?, written]
      rfl
    refine ⟨?_, declared_stands declared ⟨"", "", ?_, by decide⟩⟩
    · rw [Declaration.default?, declared]
    · rw [Declared.print, String.empty_append, String.append_empty]

/-- In every style an attribute that is no list and has a default has a field with its literal as
the default, and the literal fits exactly if there is a boolean type for a truth value, if a number
is finite and no integer with a zero in front, and if there is no null character in a text. -/
theorem default_fits_iff (o : Object) (mem : a ∈ o.attributes) (single : a.multiple = false)
    (given : a.default? = some value) (style : ClassStyle) :
    (moduleOf style m).print = render style m ∧
    (classOf style m o).print style = renderObject style m o ∧
    declarationOf style m a ∈ (classOf style m o).fields ∧
    ((declarationOf style m a).default? = some (literal m a value) ∧
      StandsIn (literal m a value) (declarationOf style m a).print) ∧
    (Fits named m a value (literal m a value) ↔ Suitable m a value) :=
  ⟨print_moduleOf style m, print_classOf style m o,
    List.mem_map_of_mem ((fieldOrder_perm style o.attributes).mem_iff.2 mem),
    default_stands single given style, fits_literal_iff⟩

end

/-- An attribute of integers with a default. -/
def countAttribute : Attribute :=
  { name := "count", dtypes := ["integer"], options := [{ key := "Default", value := "12" }],
    xml := .ofElement "count" }

def stepObject : Object := { name := "Step", attributes := [countAttribute] }

def stepModel : DataModel := { objects := [stepObject] }

theorem default_fits_countAttribute :
    (countAttribute ∈ stepObject.attributes ∧ countAttribute.multiple = false ∧
      countAttribute.default? = some "12") ∧
    (moduleOf .dataclass stepModel).print = render .dataclass stepModel ∧
    (classOf .dataclass stepModel stepObject).print .dataclass =
      renderObject .dataclass stepModel stepObject ∧
    declarationOf .dataclass stepModel countAttribute ∈
      (classOf .dataclass stepModel stepObject).fields ∧
    ((declarationOf .dataclass stepModel countAttribute).default? =
        some (literal stepModel countAttribute "12") ∧
      StandsIn (literal stepModel countAttribute "12")
        (declarationOf .dataclass stepModel countAttribute).print) ∧
    (Fits (fun _ => none) stepModel countAttribute "12"
        (literal stepModel countAttribute "12") ↔
      Suitable stepModel countAttribute "12") :=
  ⟨⟨List.mem_singleton_self _, rfl, by decide⟩,
    default_fits_iff stepObject (List.mem_singleton_self _) rfl (by decide) .dataclass⟩

/-- A document with a truth value where a text should be, an infinity, and a zero in front of an
integer. -/
def strangeDefaults : String :=
  "### A\n- x\n  - Type: string\n  - Default: true\n- y\n  - Type: float\n  - Default: inf\n" ++
    "- z\n  - Type: integer\n  - Default: 007\n"

set_option synthInstance.maxSize 400 in
/-- The document is valid, and none of its defaults has a literal that fits. -/
theorem defaults_misfit :
    ∃ reading, Dialect.parse strangeDefaults = .ok reading ∧
      (Validation.reportOf reading).isValid = true ∧
      ∃ o ∈ reading.model.objects,
        (o.attributes.map fun a =>
          (a.multiple, a.default?, a.dtypes.map reading.model.classify)) =
          [(false, some "true", [.primitive .string]), (false, some "inf", [.primitive .float]),
            (false, some "007", [.primitive .integer])] ∧
        ∀ a ∈ o.attributes, ∀ value ∈ a.default?, ∀ named,
          ¬ Fits named reading.model a value (literal reading.model a value) := by
  have read : (Dialect.parse strangeDefaults).map (fun reading =>
      ((Validation.reportOf reading).isValid, reading.model.objects.map fun o =>
        o.attributes.map fun a =>
          (a.multiple, a.default?, a.dtypes.map reading.model.classify))) =
      .ok (true, [[(false, some "true", [.primitive .string]),
        (false, some "inf", [.primitive .float]),
        (false, some "007", [.primitive .integer])]]) := by
    decide +kernel
  obtain ⟨reading, parsed, same⟩ := exists_of_map_eq_ok read
  obtain ⟨valid, objects⟩ := Prod.mk.inj same
  obtain ⟨o, inside, attributes⟩ := List.mem_map.1 (objects ▸ List.mem_singleton_self _)
  refine ⟨reading, parsed, valid, o, inside, attributes, fun a ha value given named fits => ?_⟩
  have suitable := fits_literal_iff.1 fits
  have row := List.mem_map_of_mem (f := fun a : Attribute =>
    (a.multiple, a.default?, a.dtypes.map reading.model.classify)) ha
  rw [attributes, Option.mem_def.1 given] at row
  simp only [List.mem_cons, Prod.mk.injEq, Option.some.injEq, List.not_mem_nil, or_false] at row
  rcases row with ⟨-, rfl, types⟩ | ⟨-, rfl, types⟩ | ⟨-, rfl, types⟩
  · obtain ⟨p, boolean, listed⟩ := suitable.truth (.inl (by decide))
    rw [types, List.mem_singleton] at listed
    cases List.mem_singleton.1 boolean
    cases listed
  · have numeric : HasType reading.model a [.integer, .float, .number] :=
      ⟨.float, by decide, types ▸ List.mem_singleton_self _⟩
    have infinite : Numeral.read? "inf".toList = some (.infinite false) := by decide
    obtain ⟨⟨d, finite⟩, -⟩ := suitable.number (not_or.2 (by decide)) ⟨numeric, infinite ▸ rfl⟩
    rw [infinite] at finite
    cases finite
  · have numeric : HasType reading.model a [.integer, .float, .number] :=
      ⟨.integer, by decide, types ▸ List.mem_singleton_self _⟩
    have zeros : unsigned "007".toList = ['0', '0', '7'] := rfl
    obtain ⟨-, legal⟩ := suitable.number (not_or.2 (by decide)) ⟨numeric, by decide⟩
    refine legal ?_
    rw [zeros]
    exact ⟨rfl, List.all_eq_true.1 rfl, '7', by simp, by decide⟩

end Target.Python
end DocModel
