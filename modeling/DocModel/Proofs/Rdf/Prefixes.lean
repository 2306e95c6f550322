import DocModel.Proofs.Validation.WellFormed
import DocModel.Target.Shacl
import DocModel.Target.Shex

/-!
# DocModel.Proofs.Rdf.Prefixes

What the prefixes of an RDF document mean. Readers of such a document let a later declaration of a
prefix replace an earlier one.

* `PrefixTable.meaning?_ofModel`: the prefix of the model itself comes first, then the fixed ones,
  then `prefixes`, then `nsmap`;
* `prefix_tables_are_functions`: no prefix is declared twice, unless that of the model is a fixed
  one;
* `declared_predicates_resolve`: a term with a declared prefix means what the settings say, unless
  the prefix is reserved.
-/

namespace DocModel
namespace Target.Rdf

open Text

/-! ## Meaning -/

namespace PrefixTable

variable (ns : PrefixTable)

/-- What a prefix stands for. The last declaration counts. -/
def meaning? (name : String) : Option String := ns.bindings.reverse.lookup name

/-- The IRI of a predicate: the one between angle brackets, or a prefixed name in full. -/
def iriOf? (predicate : String) : Option String :=
  match predicate.toList with
  | '<' :: iri => some (String.ofList iri.dropLast)
  | text =>
    match splitOnce ':' text with
    | some (name, rest) => (ns.meaning? (String.ofList name)).map (· ++ String.ofList rest)
    | none => none

end PrefixTable

/-! ## Declarations that are added -/

theorem any_name_iff {bindings : List (String × String)} {name : String} :
    bindings.any (·.1 == name) = true ↔ name ∈ bindings.map (·.1) := by
  simp

theorem lookup_isSome_iff {bindings : List (String × String)} {name : String} :
    (bindings.lookup name).isSome = true ↔ name ∈ bindings.map (·.1) := by
  induction bindings with
  | nil => simp
  | cons entry rest ih =>
    rw [lookup_entry, List.map_cons, List.mem_cons]
    by_cases h : name = entry.1 <;> simp [h, ih]

/-- What is bound already stays as it is; of several new entries of a name the first counts. -/
theorem lookup_reverse_bindMissing (bindings entries : List (String × String)) (name : String) :
    (bindMissing bindings entries).reverse.lookup name =
      (bindings.reverse.lookup name).or (entries.lookup name) := by
  induction entries generalizing bindings with
  | nil => simp [bindMissing]
  | cons entry rest ih =>
    obtain ⟨key, value⟩ := entry
    rw [bindMissing, lookup_entry]
    by_cases bound : bindings.any (·.1 == key) = true
    · rw [if_pos bound, ih]
      by_cases h : name = key
      · have found : (bindings.reverse.lookup name).isSome = true := by
          rw [lookup_isSome_iff, List.map_reverse, List.mem_reverse, h]
          exact any_name_iff.1 bound
        rw [Option.or_of_isSome found, Option.or_of_isSome found]
      · rw [if_neg h]
    · rw [if_neg bound, ih, List.reverse_append, List.reverse_singleton, List.singleton_append,
        lookup_entry]
      by_cases h : name = key
      · have missing : bindings.reverse.lookup name = none := by
          rw [← Option.not_isSome_iff_eq_none, lookup_isSome_iff, List.map_reverse,
            List.mem_reverse, h]
          exact fun mem => bound (any_name_iff.2 mem)
        simp [h ▸ missing, h]
      · rw [if_neg h, if_neg h]

theorem nodup_concat {names : List String} {name : String} :
    (names ++ [name]).Nodup ↔ name ∉ names ∧ names.Nodup :=
  (List.perm_append_singleton name names).nodup_iff.trans List.nodup_cons

theorem nodup_bindMissing {bindings entries : List (String × String)} :
    ((bindMissing bindings entries).map (·.1)).Nodup ↔ (bindings.map (·.1)).Nodup := by
  induction entries generalizing bindings with
  | nil => rfl
  | cons entry rest ih =>
    rw [bindMissing]
    by_cases bound : bindings.any (·.1 == entry.1) = true
    · rw [if_pos bound, ih]
    · rw [if_neg bound, ih, List.map_append, List.map_singleton, nodup_concat]
      exact and_iff_right fun mem => bound (any_name_iff.2 mem)

/-! ## The table of a model -/

/-- What is declared whatever the settings say. -/
def reserved (m : DataModel) (leading : List (String × String)) : List (String × String) :=
  leading ++ [(m.config.ownPrefix.getD "md", baseIri m)]

namespace PrefixTable

variable {m : DataModel} {leading : List (String × String)}

theorem meaning?_ofModel (name : String) :
    (ofModel m leading).meaning? name =
      ((reserved m leading).reverse.lookup name).or (m.config.base? name) := by
  rw [meaning?, ofModel, lookup_reverse_bindMissing, List.lookup_append]
  rfl

theorem lookup_reserved (name : String) :
    (reserved m leading).reverse.lookup name =
      if name = (ofModel m leading).basePrefix then some (baseIri m)
      else leading.reverse.lookup name := by
  rw [reserved, List.reverse_append, List.reverse_singleton, List.singleton_append, lookup_entry]
  rfl

theorem meaning?_basePrefix :
    (ofModel m leading).meaning? (ofModel m leading).basePrefix = some (baseIri m) := by
  rw [meaning?_ofModel, lookup_reserved, if_pos rfl, Option.some_or]

theorem base?_isSome_iff {c : Config} {name : String} :
    (c.base? name).isSome = true ↔ name ∈ c.prefixes.names ∨ name ∈ c.nsmap.names := by
  rw [← Validation.Dictionary.contains_iff, ← Validation.Dictionary.contains_iff]
  simp [Config.base?, Dictionary.contains]

theorem meaning?_isSome {name : String}
    (h : name ∈ m.config.prefixes.names ∨ name ∈ m.config.nsmap.names) :
    ((ofModel m leading).meaning? name).isSome = true := by
  rw [meaning?_ofModel, Option.isSome_or, base?_isSome_iff.2 h, Bool.or_true]

/-- What is asked of the prefixes of a document with some fixed ones. -/
structure IsFunction (ns : PrefixTable) (m : DataModel) (leading : List (String × String)) :
    Prop where
  once : (ns.bindings.map (·.1)).Nodup
  fixed : ∀ name iri, (name, iri) ∈ leading → ns.meaning? name = some iri
  own : ns.meaning? ns.basePrefix = some (baseIri m)
  declared : ∀ name, name ∈ m.config.prefixes.names ∨ name ∈ m.config.nsmap.names →
    (ns.meaning? name).isSome = true

theorem lookup_reverse_of_mem {bindings : List (String × String)}
    (h : (bindings.map (·.1)).Nodup) {name iri : String} (mem : (name, iri) ∈ bindings) :
    bindings.reverse.lookup name = some iri := by
  induction bindings with
  | nil => cases mem
  | cons entry rest ih =>
    obtain ⟨new, distinct⟩ := List.nodup_cons.1 h
    rw [List.reverse_cons, List.lookup_append]
    rcases List.mem_cons.1 mem with rfl | mem
    · have missing : rest.reverse.lookup name = none := by
        rw [← Option.not_isSome_iff_eq_none, lookup_isSome_iff, List.map_reverse, List.mem_reverse]
        exact new
      simp [missing]
    · rw [ih distinct mem, Option.some_or]

theorem isFunction_ofModel_iff (h : (leading.map (·.1)).Nodup) :
    (ofModel m leading).IsFunction m leading ↔
      (ofModel m leading).basePrefix ∉ leading.map (·.1) := by
  have once_iff : ((ofModel m leading).bindings.map (·.1)).Nodup ↔
      (ofModel m leading).basePrefix ∉ leading.map (·.1) := by
    rw [ofModel, nodup_bindMissing, List.map_append, List.map_singleton, nodup_concat]
    exact and_iff_left h
  refine ⟨fun function => once_iff.1 function.once, fun free => ?_⟩
  refine ⟨once_iff.2 free, fun name iri mem => ?_, meaning?_basePrefix, fun _ => meaning?_isSome⟩
  have other : name ≠ (ofModel m leading).basePrefix := fun same =>
    free (same ▸ List.mem_map_of_mem mem)
  rw [meaning?_ofModel, lookup_reserved, if_neg other, lookup_reverse_of_mem h mem, Option.some_or]

end PrefixTable

/-- The prefixes of a document are a function of their names unless the model's own prefix is one
of the fixed ones. Its own prefix and all prefixes of the settings are bound in any case. -/
theorem prefix_tables_are_functions (m : DataModel) :
    ((Shacl.namespaces m).IsFunction m [("sh", shaclNamespace), ("xsd", xsdNamespace)] ↔
      m.config.ownPrefix ≠ some "sh" ∧ m.config.ownPrefix ≠ some "xsd") ∧
    ((Shex.namespaces m).IsFunction m [("xsd", xsdNamespace)] ↔
      m.config.ownPrefix ≠ some "xsd") ∧
    ∀ ns ∈ [Shacl.namespaces m, Shex.namespaces m],
      ns.meaning? ns.basePrefix = some (baseIri m) ∧
      ∀ name, name ∈ m.config.prefixes.names ∨ name ∈ m.config.nsmap.names →
        (ns.meaning? name).isSome = true := by
  refine ⟨?_, ?_, fun ns hns => ?_⟩
  · rw [Shacl.namespaces, PrefixTable.isFunction_ofModel_iff (by decide)]
    cases h : m.config.ownPrefix <;> simp [PrefixTable.ofModel, h]
  · rw [Shex.namespaces, PrefixTable.isFunction_ofModel_iff (by decide)]
    cases h : m.config.ownPrefix <;> simp [PrefixTable.ofModel, h]
  · simp only [List.mem_cons, List.not_mem_nil, or_false] at hns
    rcases hns with rfl | rfl
    · exact ⟨PrefixTable.meaning?_basePrefix, fun _ => PrefixTable.meaning?_isSome⟩
    · exact ⟨PrefixTable.meaning?_basePrefix, fun _ => PrefixTable.meaning?_isSome⟩

/-- A model whose own prefix is the one of the types of XML Schema. -/
def schemaPrefixModel : DataModel where
  objects :=
    [{ name := "Box", attributes := [{ name := "size", dtypes := ["float"],
                                       xml := .ofElement "size" }] }]
  config := { ownPrefix := some "xsd" }

theorem schemaPrefixModel_bound_twice :
    (Validation.reportOf { model := schemaPrefixModel }).isValid = true ∧
      (Shex.namespaces schemaPrefixModel).bindings =
        [("xsd", xsdNamespace), ("xsd", "https://w3id.org/mdmodels/model/")] ∧
      ¬ (Shex.namespaces schemaPrefixModel).IsFunction schemaPrefixModel
        [("xsd", xsdNamespace)] := by
  refine ⟨?_, by decide, fun function => absurd function.once (by decide)⟩
  refine Validation.isValid_of_rules (.inl (by simp [schemaPrefixModel])) ?_ ?_ <;> decide

/-! ## Predicates -/

/-- How a predicate with a prefix is read in a document with some fixed prefixes. Nothing is said
of a model that has one of these as its own. -/
structure Resolves (m : DataModel) (leading : List (String × String)) (ns : PrefixTable)
    (predicate : String) (term name rest : String) : Prop where
  free : name ∉ leading.map (·.1) → name ≠ ns.basePrefix →
    ns.iriOf? predicate = m.config.expand? term
  own : name ∉ leading.map (·.1) → name = ns.basePrefix →
    ns.iriOf? predicate = some (baseIri m ++ rest)
  fixed : ∀ iri, (name, iri) ∈ leading → name ≠ ns.basePrefix →
    ns.iriOf? predicate = some (iri ++ rest)

namespace PrefixTable

variable {m : DataModel} {leading : List (String × String)}

theorem iriOf?_curie {ns : PrefixTable} {term : String} {name rest : List Char}
    (prefixed : Validation.PrefixName name) (written : term.toList = name ++ ':' :: rest) :
    ns.iriOf? term = (ns.meaning? (String.ofList name)).map (· ++ String.ofList rest) := by
  have noColon : ':' ∉ name := prefixed.colon_not_mem
  obtain @⟨c, later, start, -⟩ := prefixed
  have noBracket : c ≠ '<' := by
    rintro rfl
    exact absurd start (by unfold Validation.WordStart Validation.Letter; decide)
  rw [iriOf?, written]
  split
  · next h => exact absurd (List.cons.inj h).1 noBracket
  · rw [splitOnce_append noColon]

theorem isBound_curie {ns : PrefixTable} {term : String} {name rest : List Char}
    (split : splitOnce ':' term.toList = some (name, rest))
    (bound : (ns.meaning? (String.ofList name)).isSome = true) : ns.isBound term = true := by
  rw [isBound, split]
  refine any_name_iff.2 ?_
  rwa [meaning?, lookup_isSome_iff, List.map_reverse, List.mem_reverse] at bound

theorem predicateOf_term {ns : PrefixTable} {a : Attribute} {term : String}
    (ht : a.term = some term) (plain : contains "://".toList term.toList = false)
    (bound : ns.isBound term = true) : ns.predicateOf a = term := by
  rw [predicateOf, ht]
  simp only [plain, bound, Bool.false_eq_true, if_false, if_true]

theorem resolves_ofModel (distinct : (leading.map (·.1)).Nodup) {a : Attribute} {term : String}
    {name rest : List Char} (ht : a.term = some term)
    (plain : contains "://".toList term.toList = false)
    (prefixed : Validation.PrefixName name) (written : term.toList = name ++ ':' :: rest)
    (declared : String.ofList name ∈ m.config.prefixes.names ∨
      String.ofList name ∈ m.config.nsmap.names) :
    Resolves m leading (ofModel m leading) ((ofModel m leading).predicateOf a) term
      (String.ofList name) (String.ofList rest) := by
  have split : splitOnce ':' term.toList = some (name, rest) :=
    written ▸ splitOnce_append prefixed.colon_not_mem rest
  have same : (ofModel m leading).predicateOf a = term :=
    predicateOf_term ht plain (isBound_curie split (meaning?_isSome declared))
  rw [same]
  constructor
  · intro unfixed other
    have missing : leading.reverse.lookup (String.ofList name) = none := by
      rw [← Option.not_isSome_iff_eq_none, lookup_isSome_iff, List.map_reverse, List.mem_reverse]
      exact unfixed
    rw [iriOf?_curie prefixed written, meaning?_ofModel, lookup_reserved, if_neg other, missing,
      Option.none_or, Config.expand?, split]
  · intro _ own
    rw [iriOf?_curie prefixed written, own, meaning?_basePrefix, Option.map_some]
  · intro iri mem other
    rw [iriOf?_curie prefixed written, meaning?_ofModel, lookup_reserved, if_neg other,
      lookup_reverse_of_mem distinct mem, Option.some_or, Option.map_some]

end PrefixTable

/-- The predicate of an attribute whose term has a declared prefix, in both documents of a valid
model. The prefix goes up to the first colon. The IRI of the predicate is the term in full, as the
settings have it, unless they declare a prefix that the document reserves. -/
theorem declared_predicates_resolve (reading : Dialect.Reading)
    (valid : (Validation.reportOf reading).isValid = true) {o : Object} {a : Attribute}
    {term : String} (ho : o ∈ reading.model.objects) (ha : a ∈ o.attributes)
    (ht : a.term = some term) (notUri : ¬ Validation.Uri term.toList)
    (plain : contains "://".toList term.toList = false) :
    ∃ name rest, term = name ++ ":" ++ rest ∧ ':' ∉ name.toList ∧
      Validation.DeclaredPrefix reading.model.config name ∧
      (name ∈ reading.model.config.prefixes.names ∨ name ∈ reading.model.config.nsmap.names →
        (reading.model.config.expand? term).isSome = true ∧
        Resolves reading.model [("sh", shaclNamespace), ("xsd", xsdNamespace)]
          (Shacl.namespaces reading.model)
          (Shacl.property reading.model (Shacl.namespaces reading.model) a).path term name rest ∧
        Resolves reading.model [("xsd", xsdNamespace)] (Shex.namespaces reading.model)
          (Shex.triple reading.model (Shex.namespaces reading.model) a).predicate term name
          rest) := by
  have known := ((Validation.wellFormed_of_isValid valid).attributes o ho a ha).term term ht
  obtain ⟨name, ⟨rest, written, prefixed, -⟩, declared⟩ := known.resolve_left notUri
  refine ⟨String.ofList name, String.ofList rest, ?_, ?_, declared, fun key => ⟨?_, ?_, ?_⟩⟩
  · refine String.toList_inj.1 ?_
    simp [written]
  · rw [String.toList_ofList]
    exact prefixed.colon_not_mem
  · rw [Config.expand?, written, splitOnce_append prefixed.colon_not_mem]
    simpa using PrefixTable.base?_isSome_iff.2 key
  · exact PrefixTable.resolves_ofModel (by decide) ht plain prefixed written key
  · exact PrefixTable.resolves_ofModel (by decide) ht plain prefixed written key

/-- An attribute whose prefix only the settings declare. -/
def sizeAttribute : Attribute :=
  { name := "size", dtypes := ["float"], term := some "ex:size", xml := .ofElement "size" }

/-- An attribute whose prefix is fixed. -/
def kindAttribute : Attribute :=
  { name := "kind", dtypes := ["string"], term := some "xsd:kind", xml := .ofElement "kind" }

/-- A model that declares a fixed prefix and another one. -/
def borrowedPrefixModel : DataModel where
  objects := [{ name := "Box", attributes := [sizeAttribute, kindAttribute] }]
  config :=
    { prefixes := .ofList [("ex", "http://example.org/"), ("xsd", "http://example.com/")] }

theorem isValid_borrowedPrefixModel :
    (Validation.reportOf { model := borrowedPrefixModel }).isValid = true := by
  refine Validation.isValid_of_rules (.inl (by simp [borrowedPrefixModel])) ?_ ?_ <;> decide

theorem not_uri {term : String} (h : Validation.isUri term.toList = false) :
    ¬ Validation.Uri term.toList := by
  rw [← Validation.isUri_iff, h]
  exact Bool.false_ne_true

theorem sizeAttribute_resolves :
    ((Validation.reportOf { model := borrowedPrefixModel }).isValid = true ∧
      sizeAttribute ∈ (borrowedPrefixModel.objects.flatMap (·.attributes)) ∧
      ¬ Validation.Uri "ex:size".toList ∧ contains "://".toList "ex:size".toList = false) ∧
    ∃ name rest, "ex:size" = name ++ ":" ++ rest ∧ ':' ∉ name.toList ∧
      Validation.DeclaredPrefix borrowedPrefixModel.config name ∧
      (name ∈ borrowedPrefixModel.config.prefixes.names ∨
          name ∈ borrowedPrefixModel.config.nsmap.names →
        (borrowedPrefixModel.config.expand? "ex:size").isSome = true ∧
        Resolves borrowedPrefixModel [("sh", shaclNamespace), ("xsd", xsdNamespace)]
          (Shacl.namespaces borrowedPrefixModel)
          (Shacl.property borrowedPrefixModel (Shacl.namespaces borrowedPrefixModel)
            sizeAttribute).path "ex:size" name rest ∧
        Resolves borrowedPrefixModel [("xsd", xsdNamespace)] (Shex.namespaces borrowedPrefixModel)
          (Shex.triple borrowedPrefixModel (Shex.namespaces borrowedPrefixModel)
            sizeAttribute).predicate "ex:size" name rest) := by
  have notUri : ¬ Validation.Uri "ex:size".toList := not_uri (by decide)
  exact ⟨⟨isValid_borrowedPrefixModel, by decide, notUri, by decide⟩,
    declared_predicates_resolve { model := borrowedPrefixModel } isValid_borrowedPrefixModel
      List.mem_cons_self List.mem_cons_self rfl notUri (by decide)⟩

theorem kindAttribute_resolves_otherwise :
    (Validation.reportOf { model := borrowedPrefixModel }).isValid = true ∧
      kindAttribute ∈ (borrowedPrefixModel.objects.flatMap (·.attributes)) ∧
      ¬ Validation.Uri "xsd:kind".toList ∧
      "xsd" ∈ borrowedPrefixModel.config.prefixes.names ∧
      (Shacl.namespaces borrowedPrefixModel).iriOf?
          (Shacl.property borrowedPrefixModel (Shacl.namespaces borrowedPrefixModel)
            kindAttribute).path =
        some "http://www.w3.org/2001/XMLSchema#kind" ∧
      borrowedPrefixModel.config.expand? "xsd:kind" = some "http://example.com/kind" :=
  ⟨isValid_borrowedPrefixModel, by decide, not_uri (by decide), by decide, by decide, by decide⟩

end Target.Rdf
end DocModel
