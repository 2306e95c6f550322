import DocModel.Proofs.Validation.Duplicates
import DocModel.Proofs.Validation.WellFormed

/-!
# DocModel.Proofs.Validation.Reordering

What is found in a model does not depend on the order in which its definitions are kept, if no two
of them begin on one line. No rule looks at that order, but each for a reason of its own.

* A rule for attributes moves with the objects (`perm_forAttributes`), and so do the rules for names
  and enumerations.
* Which definition a type resolves to may change, but not whether there is one
  (`resolve_isNone_reordered`).
* Duplicates are looked for in the order of the lines, and there is one such order only
  (`headings_reordered`).
* The report sorts its findings, which changes neither their number nor what they are
  (`reordered_report`).
-/

namespace DocModel
namespace Validation

/-- The same objects and the same enumerations in another order, under the same settings. -/
structure Reordered (m other : DataModel) : Prop where
  objects : other.objects.Perm m.objects
  enums : other.enums.Perm m.enums
  config : other.config = m.config

section

variable {m other : DataModel} (h : Reordered m other)
include h

theorem isEmpty_reordered : other.isEmpty = m.isEmpty := by
  rw [DataModel.isEmpty, DataModel.isEmpty, h.objects.isEmpty_eq, h.enums.isEmpty_eq]

/-! ## Rules that look at one definition at a time -/

theorem perm_forAttributes {rule rule' : Object → Attribute → List Finding}
    (same : ∀ o a, rule' o a = rule o a) :
    (forAttributes other rule').Perm (forAttributes m rule) := by
  have rules : rule' = rule := funext fun o => funext fun a => same o a
  subst rules
  exact h.objects.flatMap_right _

theorem nameRule_reordered : (nameRule other).Perm (nameRule m) :=
  (h.objects.flatMap_right _).append (h.enums.flatMap_right _)

theorem termRule_reordered : (termRule other).Perm (termRule m) := by
  refine perm_forAttributes h fun o a => ?_
  rw [termFindings, termFindings, h.config]

theorem xmlRule_reordered : (xmlRule other).Perm (xmlRule m) :=
  perm_forAttributes h fun _ _ => rfl

theorem enumerationRule_reordered : (enumerationRule other).Perm (enumerationRule m) :=
  (h.enums.filter _).map _

/-! ## Types -/

/-- A name has a meaning or has none, whatever the meaning is. -/
theorem resolve_isNone_reordered (dtype : String) :
    (other.resolve dtype).isNone = (m.resolve dtype).isNone := by
  have known : KnownType other dtype ↔ KnownType m dtype := by
    simp only [KnownType, h.objects.mem_iff, h.enums.mem_iff]
  have found : (other.resolve dtype).isSome = (m.resolve dtype).isSome := by
    rw [Bool.eq_iff_iff, resolve_isSome_iff, resolve_isSome_iff, known]
  rw [← Option.not_isSome, ← Option.not_isSome, found]

theorem typeRule_reordered : (typeRule other).Perm (typeRule m) := by
  refine perm_forAttributes h fun o a => ?_
  simp only [typeFindings, resolve_isNone_reordered h]

/-! ## Duplicates -/

theorem definitions_reordered : (definitions other).Perm (definitions m) :=
  (h.objects.map _).append (h.enums.map _)

theorem linesDistinct_reordered (distinct : LinesDistinct m) : LinesDistinct other :=
  ((definitions_reordered h).map _).nodup_iff.2 distinct

/-- Where lines differ there is one way to sort by them. -/
theorem headings_reordered (distinct : LinesDistinct m) : headings other = headings m := by
  have same : (headings other).Perm (headings m) :=
    perm_headings.trans ((definitions_reordered h).trans perm_headings.symm)
  refine same.eq_of_pairwise ?_ (headings_ordered (linesDistinct_reordered h distinct))
    (headings_ordered distinct)
  intro a b _ _ above below
  exact absurd above (Nat.lt_asymm below)

theorem duplicateRule_reordered (distinct : LinesDistinct m) :
    (duplicateRule other).Perm (duplicateRule m) := by
  rw [duplicateRule, headings_reordered h distinct]
  exact (h.objects.flatMap_right _).append_left _

/-! ## Reports -/

theorem allFindings_reordered (distinct : LinesDistinct m) (diagnostics : List Dialect.Diagnostic) :
    (allFindings ⟨other, diagnostics⟩).Perm (allFindings ⟨m, diagnostics⟩) := by
  have duplicates := duplicateRule_reordered h distinct
  have read : (diagnosticRule diagnostics).Perm (diagnosticRule diagnostics) := .refl _
  exact (((((read.append duplicates).append (nameRule_reordered h)).append
    (typeRule_reordered h)).append (termRule_reordered h)).append (xmlRule_reordered h)).append
      (enumerationRule_reordered h)

end

theorem findings_ofFindings_perm {findings others : List Finding} (h : findings.Perm others) :
    (Report.ofFindings findings).findings.Perm (Report.ofFindings others).findings :=
  (List.mergeSort_perm _ _).trans (h.trans (List.mergeSort_perm _ _).symm)

/-- Whatever order the definitions of a model are kept in, the same is found, and so the model is
valid in each of them or in none. -/
theorem reordered_report (reading : Dialect.Reading) (distinct : LinesDistinct reading.model)
    {other : DataModel} (h : Reordered reading.model other) :
    (reportOf { reading with model := other }).isValid = (reportOf reading).isValid ∧
      (reportOf { reading with model := other }).findings.Perm (reportOf reading).findings := by
  have findings : (reportOf { reading with model := other }).findings.Perm
      (reportOf reading).findings := by
    simp only [reportOf, isEmpty_reordered h]
    split
    · exact .refl _
    · exact findings_ofFindings_perm (allFindings_reordered h distinct reading.diagnostics)
  exact ⟨findings.isEmpty_eq, findings⟩

/-- The objects of `sharedName` the other way round. -/
def sharedNameReversed : DataModel :=
  { sharedName.model with objects := sharedName.model.objects.reverse }

/-- Now a repeated name comes before the one that it repeats. -/
theorem reordered_report_sharedName :
    LinesDistinct sharedName.model ∧ Reordered sharedName.model sharedNameReversed ∧
    (reportOf sharedName).isValid = false ∧
    (reportOf { sharedName with model := sharedNameReversed }).isValid =
      (reportOf sharedName).isValid ∧
    (reportOf { sharedName with model := sharedNameReversed }).findings.Perm
      (reportOf sharedName).findings := by
  have distinct : LinesDistinct sharedName.model := by
    unfold LinesDistinct
    decide
  have reversed : Reordered sharedName.model sharedNameReversed :=
    ⟨List.reverse_perm _, .refl _, rfl⟩
  have found : (reportOf sharedName).isValid = false := by
    rw [Bool.eq_false_iff, Ne, isValid_reportOf, allFindings_eq_nil_iff]
    rintro ⟨-, -, -, -, types, -⟩
    exact absurd types (by decide)
  exact ⟨distinct, reversed, found, reordered_report sharedName distinct reversed⟩

end Validation
end DocModel
