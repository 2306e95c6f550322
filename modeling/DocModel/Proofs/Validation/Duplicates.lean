import DocModel.Proofs.Validation.TypeFindings
import Mathlib.Data.List.Basic
import Mathlib.Data.List.Nodup

/-!
# DocModel.Proofs.Validation.Duplicates

Names that are given more than once. Objects and enumerations share one set of names, and so do the
attributes of an object.

* `repeated_eq_extras`: one pass with the names seen so far finds what has an earlier namesake;
* `repeated_eq_filter`: among items in the order of their lines this is a namesake further up;
* `perm_duplicates`: nothing but the rule for duplicates finds any;
* `duplicates_reported_once` says which definitions and attributes are reported, each once.
-/

namespace DocModel
namespace Validation

/-! ## One pass over names -/

section

variable {α : Type} {name : α → String} {seen other : List String} {items before after : List α}

theorem repeatedAfter_congr (h : ∀ x, x ∈ seen ↔ x ∈ other) :
    repeatedAfter name seen items = repeatedAfter name other items := by
  induction items generalizing seen other with
  | nil => rfl
  | cons item rest ih =>
    have same : seen.contains (name item) = other.contains (name item) := by
      rw [Bool.eq_iff_iff, List.contains_iff_mem, List.contains_iff_mem, h]
    have grown : ∀ x, x ∈ name item :: seen ↔ x ∈ name item :: other := by simp [h]
    rw [repeatedAfter, repeatedAfter, same, ih h, ih grown]

/-- Which names were seen is all that is kept of the items before. -/
theorem repeatedAfter_append : repeatedAfter name seen (before ++ after) =
    repeatedAfter name seen before ++ repeatedAfter name (before.map name ++ seen) after := by
  induction before generalizing seen with
  | nil => rfl
  | cons item rest ih =>
    rw [List.cons_append, repeatedAfter, repeatedAfter]
    split
    · next known =>
      rw [ih, List.cons_append]
      refine congrArg (item :: repeatedAfter name seen rest ++ ·) (repeatedAfter_congr fun x => ?_)
      have own : name item ∈ seen := List.contains_iff_mem.1 known
      simp only [List.map_cons, List.cons_append, List.mem_cons, List.mem_append]
      constructor
      · exact .inr
      · rintro (rfl | found)
        · exact .inr own
        · exact found
    · rw [ih]
      refine congrArg (repeatedAfter name (name item :: seen) rest ++ ·)
        (repeatedAfter_congr fun x => ?_)
      simp only [List.map_cons, List.cons_append, List.mem_cons, List.mem_append]
      exact or_left_comm

/-- An item is taken if one of those before it has its name. -/
theorem repeated_split (item : α) : ∃ seen, repeated name (before ++ item :: after) =
    repeated name before ++ ((if ∃ first ∈ before, name first = name item then [item] else []) ++
      repeatedAfter name seen after) := by
  have known : (before.map name ++ []).contains (name item) = true ↔
      ∃ first ∈ before, name first = name item := by
    rw [List.append_nil, List.contains_iff_mem, List.mem_map]
  rw [repeated, repeatedAfter_append, repeatedAfter]
  split
  · next h =>
    rw [if_pos (known.1 h)]
    exact ⟨_, rfl⟩
  · next h =>
    rw [if_neg (mt known.2 h)]
    exact ⟨_, rfl⟩

theorem repeated_concat (item : α) : repeated name (before ++ [item]) =
    repeated name before ++ if ∃ first ∈ before, name first = name item then [item] else [] := by
  obtain ⟨seen, split⟩ := @repeated_split α name before [] item
  rw [split]
  exact congrArg _ (List.append_nil _)

/-- The items with the name of one that stands before them. -/
def extras (name : α → String) (items : List α) : List α :=
  (items.zipIdx.filter fun entry =>
    (items.take entry.2).any fun first => name first == name entry.1).map (·.1)

theorem extras_concat (item : α) : extras name (before ++ [item]) =
    extras name before ++ if ∃ first ∈ before, name first = name item then [item] else [] := by
  rw [extras, List.zipIdx_append, List.filter_append, List.map_append]
  congr 1
  · refine congrArg _ (List.filter_congr fun entry he => ?_)
    have inside := List.snd_lt_of_mem_zipIdx he
    rw [List.take_append_of_le_length (by omega)]
  · have known : (before.any fun first => name first == name item) =
        decide (∃ first ∈ before, name first = name item) := by
      rw [Bool.eq_iff_iff]
      simp
    rw [List.zipIdx_singleton, Nat.zero_add, List.filter_singleton, List.take_left, known,
      Bool.cond_decide]
    split <;> rfl

theorem repeated_eq_extras : repeated name items = extras name items := by
  induction items using List.reverseRecOn with
  | nil => rfl
  | append_singleton before item ih => rw [repeated_concat, extras_concat, ih]

theorem repeated_eq_filter {line : α → Nat} (h : items.Pairwise fun a b => line a < line b) :
    repeated name items = items.filter fun item =>
      decide (∃ first ∈ items, name first = name item ∧ line first < line item) := by
  induction items using List.reverseRecOn with
  | nil => rfl
  | append_singleton before item ih =>
    obtain ⟨ordered, -, last⟩ := List.pairwise_append.1 h
    have below : ∀ first ∈ before, line first < line item := fun first hf =>
      last first hf item List.mem_cons_self
    rw [repeated_concat, ih ordered, List.filter_append]
    congr 1
    · -- the last item is above none of the others
      refine List.filter_congr fun other ho => decide_eq_decide.2 ?_
      simp only [List.mem_append, List.mem_singleton]
      constructor
      · rintro ⟨first, hf, above⟩
        exact ⟨first, .inl hf, above⟩
      · rintro ⟨first, hf | rfl, same, above⟩
        · exact ⟨first, hf, same, above⟩
        · exact absurd (below other ho) (Nat.lt_asymm above)
    · have own : (∃ first ∈ before ++ [item], name first = name item ∧ line first < line item) ↔
          ∃ first ∈ before, name first = name item := by
        simp only [List.mem_append, List.mem_singleton]
        constructor
        · rintro ⟨first, hf | rfl, same, above⟩
          · exact ⟨first, hf, same⟩
          · exact absurd above (Nat.lt_irrefl _)
        · rintro ⟨first, hf, same⟩
          exact ⟨first, .inl hf, same, below first hf⟩
      rw [List.filter_singleton, Bool.cond_decide]
      exact if_congr own.symm rfl rfl

/-- Of the items with one name all but the first are taken. -/
theorem countP_repeated (x : String) : (repeated name items).countP (name · == x) =
    items.countP (name · == x) - 1 := by
  induction items using List.reverseRecOn with
  | nil => rfl
  | append_singleton before item ih =>
    rw [repeated_concat, List.countP_append, List.countP_append, ih]
    by_cases own : name item = x
    · subst own
      by_cases known : ∃ first ∈ before, name first = name item
      · have positive : 0 < before.countP (name · == name item) := by
          obtain ⟨first, hf, same⟩ := known
          exact List.countP_pos_iff.2 ⟨first, hf, beq_iff_eq.2 same⟩
        rw [if_pos known, List.countP_singleton, if_pos (beq_self_eq_true _)]
        omega
      · have none : before.countP (name · == name item) = 0 :=
          List.countP_eq_zero.2 fun first hf same => known ⟨first, hf, beq_iff_eq.1 same⟩
        rw [if_neg known, List.countP_singleton, if_pos (beq_self_eq_true _), none]
        rfl
    · have bare : [item].countP (name · == x) = 0 := by
        rw [List.countP_singleton, if_neg (by simpa using own)]
      split
      · rw [bare]
        rfl
      · rw [bare]
        rfl

end

/-! ## Definitions in the order of their lines -/

/-- The definitions of a model, objects first. -/
def definitions (m : DataModel) : List Heading :=
  m.objects.map Heading.ofObject ++ m.enums.map Heading.ofEnumeration

/-- A definition with the name of one that stands further up, whatever that defines. -/
def Extra (m : DataModel) (h : Heading) : Prop :=
  ∃ first ∈ definitions m, first.name = h.name ∧ first.position.line < h.position.line

instance (m : DataModel) (h : Heading) : Decidable (Extra m h) :=
  inferInstanceAs (Decidable (∃ first ∈ definitions m, _))

/-- No two definitions of a model begin on one line. -/
def LinesDistinct (m : DataModel) : Prop := ((definitions m).map (·.position.line)).Nodup

section

variable {m : DataModel}

theorem perm_headings : (headings m).Perm (definitions m) := List.mergeSort_perm _ _

theorem headings_ordered (h : LinesDistinct m) :
    (headings m).Pairwise fun a b => a.position.line < b.position.line := by
  have sorted : (headings m).Pairwise fun a b => a.position.line ≤ b.position.line :=
    (List.pairwise_mergeSort (by simpa using fun a b c => Nat.le_trans)
      (by simpa using fun a b => Nat.le_total _ _) (definitions m)).imp of_decide_eq_true
  have apart : ((headings m).map (·.position.line)).Nodup :=
    (List.Perm.nodup_iff (perm_headings.map _)).2 h
  refine (sorted.and (List.pairwise_map.1 apart)).imp ?_
  rintro a b ⟨upTo, other⟩
  exact Nat.lt_of_le_of_ne upTo other

/-- The pass over the sorted definitions finds those with a namesake further up. -/
theorem perm_repeated_headings (h : LinesDistinct m) :
    (repeated (·.name) (headings m)).Perm ((definitions m).filter (Extra m ·)) := by
  have extra : ∀ d, (∃ first ∈ headings m, first.name = d.name ∧
      first.position.line < d.position.line) ↔ Extra m d := fun d =>
    exists_congr fun first => and_congr_left' perm_headings.mem_iff
  rw [repeated_eq_filter (headings_ordered h)]
  simp only [extra]
  exact perm_headings.filter _

theorem filter_position {h : Heading} (distinct : LinesDistinct m) (hm : h ∈ definitions m)
    (p : Heading → Bool) :
    ((definitions m).filter p).filter (·.position == h.position) = if p h then [h] else [] := by
  -- a definition is alone on its line
  have own : ∀ d ∈ (definitions m).filter p, (d.position == h.position) = (d == h) := by
    intro d hd
    rw [Bool.eq_iff_iff, beq_iff_eq, beq_iff_eq]
    refine ⟨fun same => ?_, congrArg _⟩
    exact List.inj_on_of_nodup_map distinct (List.mem_of_mem_filter hd) hm (congrArg (·.line) same)
  have once : ((definitions m).filter p).Nodup := (List.Nodup.of_map _ distinct).filter _
  rw [List.filter_congr own, List.filter_beq]
  by_cases hp : p h
  · rw [if_pos hp, List.count_eq_one_of_mem once (List.mem_filter.2 ⟨hm, hp⟩)]
    rfl
  · have none : h ∉ (definitions m).filter p := fun found => hp (List.mem_filter.1 found).2
    rw [if_neg hp, List.count_eq_zero_of_not_mem none]
    rfl

end

/-! ## What is reported -/

/-- The findings about names that occur more than once. -/
def Report.duplicates (r : Report) : List Finding :=
  r.findings.filter (·.kind == .duplicateError)

section

variable {reading : Dialect.Reading} {m : DataModel} {f : Finding}

theorem filter_kind {findings : List Finding} {kind : FindingKind}
    (h : ∀ f ∈ findings, Placed kind f) (other : kind ≠ .duplicateError) :
    findings.filter (·.kind == .duplicateError) = [] := by
  refine List.filter_eq_nil_iff.2 fun f hf same => other ?_
  rw [← (h f hf).kind]
  exact beq_iff_eq.1 same

theorem duplicates_allFindings :
    (allFindings reading).filter (·.kind == .duplicateError) = duplicateRule reading.model := by
  have own : (duplicateRule reading.model).filter (·.kind == .duplicateError) =
      duplicateRule reading.model :=
    List.filter_eq_self.2 fun f hf => beq_iff_eq.2 (placedIn_duplicateRule hf).kind
  simp only [allFindings, List.filter_append]
  rw [own, filter_kind (fun f hf => (placedIn_diagnosticRule hf).toPlaced) (by decide),
    filter_kind (fun f hf => (placedIn_nameRule hf).toPlaced) (by decide),
    filter_kind (fun f hf => (placedIn_typeRule hf).toPlaced) (by decide),
    filter_kind (fun f hf => (placedIn_termRule hf).toPlaced) (by decide),
    filter_kind (fun f hf => (placedIn_xmlRule hf).toPlaced) (by decide),
    filter_kind (fun f hf => (placedIn_enumerationRule hf).toPlaced) (by decide)]
  simp only [List.nil_append, List.append_nil]

/-- Nothing but the rule for duplicates finds any, and all it finds are reported. -/
theorem perm_duplicates : (reportOf reading).duplicates.Perm (duplicateRule reading.model) := by
  rw [← duplicates_allFindings, Report.duplicates, reportOf]
  split
  · next empty =>
    rw [Bool.and_eq_true, DataModel.isEmpty, Bool.and_eq_true] at empty
    obtain ⟨⟨objects, enums⟩, -⟩ := empty
    have none : duplicateRule reading.model = [] := by
      simp [duplicateRule, headings, List.isEmpty_iff.1 objects, List.isEmpty_iff.1 enums, repeated,
        repeatedAfter]
    rw [duplicates_allFindings, none]
    have one : (Report.ofFindings [Finding.emptyDocument]).findings = [Finding.emptyDocument] :=
      List.mergeSort_singleton _
    rw [one]
    exact .refl []
  · exact (List.mergeSort_perm _ _).filter _

end

/-- What is to be said of a model: the definitions with a namesake further up, and the attributes
with one before them in their object. -/
def extraFindings (m : DataModel) : List Finding :=
  ((definitions m).filter (Extra m ·)).map duplicateHeading ++
    m.objects.flatMap fun o => (extras (·.name) o.attributes).map (duplicateAttribute o)

/-- Those of some findings that are about a definition in a place. -/
def definitionsAt (position : SourcePosition) (findings : List Finding) : List Finding :=
  findings.filter fun f => f.property.isNone && f.positions == [position]

/-- Those of some findings that are about an attribute in a place. -/
def attributesAt (position : SourcePosition) (findings : List Finding) : List Finding :=
  findings.filter fun f => f.property.isSome && f.positions == [position]

section

variable {m : DataModel} {findings : List Finding}

theorem filter_extraFindings (p : Finding → Bool) :
    (extraFindings m).filter (fun f => f.property.isNone && p f) =
      (((definitions m).filter (Extra m ·)).filter fun d => p (duplicateHeading d)).map
        duplicateHeading := by
  have about : ((fun f : Finding => f.property.isNone && p f) ∘ duplicateHeading) =
      fun d => p (duplicateHeading d) := by
    funext d
    exact Bool.true_and _
  have none : (m.objects.flatMap fun o =>
      (extras (·.name) o.attributes).map (duplicateAttribute o)).filter
        (fun f => f.property.isNone && p f) = [] := by
    refine List.filter_eq_nil_iff.2 fun f hf => ?_
    obtain ⟨o, -, hf⟩ := List.mem_flatMap.1 hf
    obtain ⟨a, -, rfl⟩ := List.mem_map.1 hf
    exact Bool.false_ne_true
  rw [extraFindings, List.filter_append, none, List.append_nil, List.filter_map, about]

theorem definitionsAt_extraFindings (distinct : LinesDistinct m) {h : Heading}
    (hm : h ∈ definitions m) :
    definitionsAt h.position (extraFindings m) =
      if Extra m h then [duplicateHeading h] else [] := by
  have place : (fun d => (duplicateHeading d).positions == [h.position]) =
      fun d => d.position == h.position := by
    funext d
    simp [duplicateHeading, findingAt]
  rw [definitionsAt, filter_extraFindings fun f => f.positions == [h.position], place,
    filter_position distinct hm]
  by_cases extra : Extra m h <;> simp [extra]

theorem length_named_extraFindings (distinct : LinesDistinct m) (name : String) :
    ((extraFindings m).filter fun f => f.property.isNone && f.definition == some name).length =
      ((definitions m).filter (·.name == name)).length - 1 := by
  have named : (fun d => (duplicateHeading d).definition == some name) =
      fun d => d.name == name := by
    funext d
    simp [duplicateHeading, findingAt]
  rw [filter_extraFindings fun f => f.definition == some name, named, List.length_map,
    ← List.countP_eq_length_filter, ← List.countP_eq_length_filter,
    ← (perm_repeated_headings distinct).countP_eq, countP_repeated, perm_headings.countP_eq]

theorem attributesAt_map {o : Object} {attributes : List Attribute} {position : SourcePosition}
    (h : ∀ a ∈ attributes, a.position ≠ position) :
    attributesAt position (attributes.map (duplicateAttribute o)) = [] := by
  refine List.filter_eq_nil_iff.2 fun f hf => ?_
  obtain ⟨a, ha, rfl⟩ := List.mem_map.1 hf
  simpa [duplicateAttribute, findingAt] using h a ha

theorem attributesAt_append (first last : List Finding) (position : SourcePosition) :
    attributesAt position (first ++ last) =
      attributesAt position first ++ attributesAt position last := List.filter_append ..

theorem attributesAt_flatMap {objects : List Object} {position : SourcePosition}
    (h : ∀ o ∈ objects, ∀ a ∈ o.attributes, a.position ≠ position) :
    attributesAt position (objects.flatMap fun o =>
      (extras (·.name) o.attributes).map (duplicateAttribute o)) = [] := by
  rw [attributesAt, List.filter_flatMap, List.flatMap_eq_nil_iff]
  intro o ho
  refine attributesAt_map fun a ha => h o ho a ?_
  rw [← repeated_eq_extras] at ha
  exact repeated_sublist.mem ha

theorem attributesAt_extraFindings
    (distinct : ((m.objects.flatMap (·.attributes)).map (·.position)).Nodup) {o : Object}
    (ho : o ∈ m.objects) {before after : List Attribute} {a : Attribute}
    (ha : o.attributes = before ++ a :: after) :
    attributesAt a.position (extraFindings m) =
      if ∃ first ∈ before, first.name = a.name then [duplicateAttribute o a] else [] := by
  obtain ⟨objects, others, cut⟩ := List.append_of_mem ho
  -- no other attribute of the model has the place
  have alone : a.position ∉ ((objects.flatMap (·.attributes) ++ before) ++
      (after ++ others.flatMap (·.attributes))).map (·.position) := by
    have regroup : m.objects.flatMap (·.attributes) =
        (objects.flatMap (·.attributes) ++ before) ++
          a :: (after ++ others.flatMap (·.attributes)) := by
      rw [cut, List.flatMap_append, List.flatMap_cons, ha]
      simp only [List.append_assoc, List.cons_append]
    rw [regroup, List.map_append, List.map_cons, List.nodup_middle, List.nodup_cons] at distinct
    rw [List.map_append]
    exact distinct.1
  have elsewhere : ∀ b, (b ∈ objects.flatMap (·.attributes) ∨ b ∈ before) ∨
      (b ∈ after ∨ b ∈ others.flatMap (·.attributes)) → b.position ≠ a.position := by
    intro b hb same
    refine alone (List.mem_map.2 ⟨b, ?_, same⟩)
    simpa only [List.mem_append] using hb
  have definitions : attributesAt a.position
      (((definitions m).filter (Extra m ·)).map duplicateHeading) = [] := by
    refine List.filter_eq_nil_iff.2 fun f hf => ?_
    obtain ⟨d, -, rfl⟩ := List.mem_map.1 hf
    exact Bool.false_ne_true
  have first := @attributesAt_flatMap objects a.position fun o ho b hb =>
    elsewhere b (.inl (.inl (List.mem_flatMap.2 ⟨o, ho, hb⟩)))
  have last := @attributesAt_flatMap others a.position fun o ho b hb =>
    elsewhere b (.inr (.inr (List.mem_flatMap.2 ⟨o, ho, hb⟩)))
  obtain ⟨seen, taken⟩ := @repeated_split Attribute (·.name) before after a
  have above := @attributesAt_map o (repeated (·.name) before) a.position fun b hb =>
    elsewhere b (.inl (.inr (repeated_sublist.mem hb)))
  have below := @attributesAt_map o (repeatedAfter (·.name) seen after) a.position fun b hb =>
    elsewhere b (.inr (.inl (repeatedAfter_sublist.mem hb)))
  rw [extraFindings, attributesAt_append, definitions, cut, List.flatMap_append, List.flatMap_cons,
    attributesAt_append, attributesAt_append, first, last, ha, ← repeated_eq_extras, taken,
    List.map_append, List.map_append, attributesAt_append, attributesAt_append, above, below]
  simp only [List.nil_append, List.append_nil]
  split
  · simp [attributesAt, duplicateAttribute, findingAt]
  · rfl

end

/-- Each definition and attribute that is not the first of its name is reported once, in its own
place, and nothing else is. -/
structure ReportsExtras (m : DataModel) (findings : List Finding) : Prop where
  /-- In some order, these are all. -/
  all : findings.Perm (extraFindings m)
  object : ∀ o ∈ m.objects, definitionsAt o.position findings =
    if Extra m (.ofObject o) then
      [{ kind := .duplicateError
         message := "Object '" ++ o.name ++ "' is defined more than once"
         definition := some o.name
         positions := [o.position] }]
    else []
  enumeration : ∀ e ∈ m.enums, definitionsAt e.position findings =
    if Extra m (.ofEnumeration e) then
      [{ kind := .duplicateError
         message := "Enumeration '" ++ e.name ++ "' is defined more than once"
         definition := some e.name
         positions := [e.position] }]
    else []
  /-- So of the definitions with one name all but one are reported. -/
  names : ∀ name, (findings.filter fun f => f.property.isNone && f.definition == some name).length =
    ((definitions m).filter (·.name == name)).length - 1
  /-- Attributes are told apart by their places where these differ. -/
  attributes : ((m.objects.flatMap (·.attributes)).map (·.position)).Nodup →
    ∀ o ∈ m.objects, ∀ before a after, o.attributes = before ++ a :: after →
      attributesAt a.position findings =
        if ∃ first ∈ before, first.name = a.name then
          [{ kind := .duplicateError
             message := "Attribute '" ++ a.name ++ "' is defined more than once in object '" ++
               o.name ++ "'"
             definition := some o.name
             property := some a.name
             positions := [a.position] }]
        else []

theorem eq_of_perm_ite {findings : List Finding} {c : Prop} [Decidable c] {f : Finding}
    (h : findings.Perm (if c then [f] else [])) : findings = if c then [f] else [] := by
  split
  · next holds =>
    rw [if_pos holds] at h
    exact List.perm_singleton.1 h
  · next fails =>
    rw [if_neg fails] at h
    exact List.perm_nil.1 h

/-- Where definitions are on lines of their own, each that is not the first of its name is reported
once, whatever the order in which objects and enumerations are kept. -/
theorem duplicates_reported_once (reading : Dialect.Reading)
    (distinct : LinesDistinct reading.model) :
    ReportsExtras reading.model (reportOf reading).duplicates := by
  have all : (reportOf reading).duplicates.Perm (extraFindings reading.model) := by
    refine perm_duplicates.trans (((perm_repeated_headings distinct).map _).append ?_)
    simp only [repeated_eq_extras]
    exact .refl _
  have definition : ∀ h ∈ definitions reading.model,
      definitionsAt h.position (reportOf reading).duplicates =
        if Extra reading.model h then [duplicateHeading h] else [] := by
    intro h hm
    refine eq_of_perm_ite ?_
    rw [← definitionsAt_extraFindings distinct hm]
    exact all.filter _
  refine ⟨all, fun o ho => ?object, fun e he => ?enumeration, fun name => ?names,
    fun places o ho before a after ha => ?attributes⟩
  case object =>
    exact definition (.ofObject o) (List.mem_append_left _ (List.mem_map_of_mem ho))
  case enumeration =>
    exact definition (.ofEnumeration e) (List.mem_append_right _ (List.mem_map_of_mem he))
  case names =>
    rw [← length_named_extraFindings distinct name]
    exact (all.filter _).length_eq
  case attributes =>
    refine eq_of_perm_ite ?_
    have own := attributesAt_extraFindings places ho ha
    have found := all.filter fun f => f.property.isSome && f.positions == [a.position]
    exact found.trans (List.Perm.of_eq own)

/-- Objects out of order, an enumeration of their name above them, and a repeated attribute. -/
def sharedName : Dialect.Reading where
  model :=
    { objects :=
        [{ name := "A", position := { line := 9 }
           attributes :=
            [{ name := "x", position := { line := 10 } },
              { name := "y", position := { line := 11 } },
              { name := "x", position := { line := 12 } }] },
          { name := "A", position := { line := 5 } }]
      enums := [{ name := "A", position := { line := 3 } }] }

theorem sharedName_reports : LinesDistinct sharedName.model ∧
    (extraFindings sharedName.model).map (fun f => (f.line, f.message)) =
      [(9, "Object 'A' is defined more than once"), (5, "Object 'A' is defined more than once"),
        (12, "Attribute 'x' is defined more than once in object 'A'")] ∧
    ReportsExtras sharedName.model (reportOf sharedName).duplicates := by
  have distinct : LinesDistinct sharedName.model := by
    unfold LinesDistinct
    decide
  exact ⟨distinct, by decide, duplicates_reported_once sharedName distinct⟩

end Validation
end DocModel
