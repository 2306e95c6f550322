import DocModel.Editor.Lint
import DocModel.Proofs.Validation.TypeFindings

/-!
# DocModel.Proofs.Validation.EmptyNotice

The notice that a document is empty is exclusive: it stands alone, and it is given exactly for a
document that can be read and has no heading of level three.

* `isEmpty_ofDocument_iff`: a model is empty exactly if no such heading is there to define anything;
* `diagnostics_of_undefined`: what cannot be read is always inside a definition;
* `isEmptyDocument_of_mem`: no other finding looks like the notice, whatever names it quotes;
* `emptyNotice_exclusive` puts these together, for the report and for what an editor shows of it.
-/

namespace DocModel

/-! ## Documents that define nothing -/

namespace Dialect

variable {table : LineTable} {document : Document}

theorem headingsOf_eq_nil_iff {blocks : List Block} :
    headingsOf blocks = [] ↔ ∀ block ∈ blocks, ∀ name, block.content ≠ .heading 3 name := by
  induction blocks with
  | nil => simp [headingsOf, Heading.first?]
  | cons block rest ih =>
    rw [headingsOf_cons, List.append_eq_nil_iff, ih, List.forall_mem_cons]
    refine and_congr_left fun _ => ?_
    rcases block.role with ⟨name, three⟩ | ⟨text, two⟩ | inner
    · simp [first?_three three, three]
    · simp [first?_two two, two]
    · rw [first?_inner inner]
      refine iff_of_true rfl fun name three => ?_
      simp [Block.closes, three] at inner

theorem isEmpty_ofDocument_iff :
    (Reading.ofDocument table document).model.isEmpty = true ↔ headingsOf document.blocks = [] := by
  have grouped := @grouped_ofDocument table document
  rw [DataModel.isEmpty, Bool.and_eq_true, List.isEmpty_iff_length_eq_zero,
    List.isEmpty_iff_length_eq_zero, ← grouped.objects.length_eq, ← grouped.enums.length_eq,
    List.length_eq_zero_iff, List.length_eq_zero_iff, objectHeadings, enumerationHeadings,
    List.filter_eq_nil_iff, List.filter_eq_nil_iff, List.eq_nil_iff_forall_not_mem]
  constructor
  · rintro ⟨noObject, noEnumeration⟩ h hh
    exact noObject h hh (by simpa using noEnumeration h hh)
  · intro none
    exact ⟨fun h hh => absurd hh (none h), fun h hh => absurd hh (none h)⟩

theorem diagnostics_of_undefined (h : headingsOf document.blocks = []) :
    (Reading.ofDocument table document).diagnostics = [] := by
  have sections : sectionsOf document.blocks = [] := by rw [sectionsOf_eq, h, List.map_nil]
  simp only [Reading.ofDocument, sections, List.map_nil, List.flatMap_nil]

/-- A text that can be read and has no heading of level three. -/
def DefinesNothing (source : String) : Prop :=
  ∃ document, Document.ofSource source.toList = .ok document ∧
    ∀ block ∈ document.blocks, ∀ name, block.content ≠ .heading 3 name

end Dialect

namespace Validation

open Dialect (DefinesNothing)

variable {source : String} {reading : Dialect.Reading} {f : Finding}

/-! ## Findings that are not the notice -/

/-- Of the rules only the last one finds anything about a definition as a whole. -/
theorem mem_enumerationRule (h : f ∈ allFindings reading) (kind : f.kind = .globalError) :
    f ∈ enumerationRule reading.model := by
  simp only [allFindings, List.mem_append] at h
  rcases h with (((((h | h) | h) | h) | h) | h) | h
  · cases (placedIn_diagnosticRule h).kind.symm.trans kind
  · cases (placedIn_duplicateRule h).kind.symm.trans kind
  · cases (placedIn_nameRule h).kind.symm.trans kind
  · cases (placedIn_typeRule h).kind.symm.trans kind
  · cases (placedIn_termRule h).kind.symm.trans kind
  · cases (placedIn_xmlRule h).kind.symm.trans kind
  · exact h

/-- The words for an enumeration without members begin otherwise than the notice, whatever its
name. -/
theorem message_ne_of_mem_enumerationRule {m : DataModel} (h : f ∈ enumerationRule m) :
    f.message ≠ emptyMessage := by
  obtain ⟨e, -, rfl⟩ := List.mem_map.1 h
  intro same
  have own : (findingAt .globalError ("Enumeration '" ++ e.name ++ "' has no members") e.name none
      e.position).message.toList.head? = some 'E' :=
    Dialect.head?_append _ (Dialect.head?_append _ (by decide))
  have notice : emptyMessage.toList.head? = some 'T' := by decide
  rw [same, notice] at own
  cases own

theorem isEmptyDocument_of_mem (h : f ∈ allFindings reading) : f.isEmptyDocument = false := by
  rw [Finding.isEmptyDocument, Bool.and_eq_false_imp, beq_iff_eq]
  intro kind
  exact beq_eq_false_iff_ne.2 (message_ne_of_mem_enumerationRule (mem_enumerationRule h kind))

theorem place_of_mem (h : f ∈ allFindings reading) : ∃ position, f.positions = [position] := by
  simp only [allFindings, List.mem_append] at h
  rcases h with (((((h | h) | h) | h) | h) | h) | h
  · exact (placedIn_diagnosticRule h).place
  · exact (placedIn_duplicateRule h).place
  · exact (placedIn_nameRule h).place
  · exact (placedIn_typeRule h).place
  · exact (placedIn_termRule h).place
  · exact (placedIn_xmlRule h).place
  · exact (placedIn_enumerationRule h).place

/-! ## Reports -/

namespace Report

def HasEmptyNotice (r : Report) : Prop := ∃ f ∈ r.findings, f.isEmptyDocument = true

/-- Findings are in the order of their lines. -/
def InOrder (findings : List Finding) : Prop := findings.Pairwise fun a b => a.line ≤ b.line

theorem inOrder_ofFindings (findings : List Finding) : InOrder (ofFindings findings).findings := by
  have ordered : (ofFindings findings).findings.Pairwise
      fun a b => decide (a.line ≤ b.line) = true :=
    List.pairwise_mergeSort (by simpa using fun a b c => Nat.le_trans)
      (by simpa using fun a b => Nat.le_total _ _) findings
  exact ordered.imp of_decide_eq_true

theorem findings_of_inOrder {findings : List Finding} (h : InOrder findings) :
    (ofFindings findings).findings = findings :=
  List.mergeSort_of_pairwise (h.imp decide_eq_true)

theorem findings_withoutEmptyNotice {r : Report} (h : InOrder r.findings) :
    r.withoutEmptyNotice.findings = r.findings.filter (!·.isEmptyDocument) :=
  findings_of_inOrder (h.filter _)

theorem findings_withoutEmptyNotice_of_not {r : Report} (h : InOrder r.findings)
    (none : ¬ r.HasEmptyNotice) : r.withoutEmptyNotice.findings = r.findings := by
  rw [findings_withoutEmptyNotice h, List.filter_eq_self]
  intro f hf
  simpa using fun notice => none ⟨f, hf, notice⟩

end Report

theorem inOrder_validate (source : String) : Report.InOrder (validate source).findings := by
  unfold validate reportOf
  split
  · split <;> exact Report.inOrder_ofFindings _
  · exact Report.inOrder_ofFindings _

/-! ## When the notice is given -/

theorem validate_of_definesNothing (h : DefinesNothing source) :
    (validate source).findings = [Finding.emptyDocument] := by
  obtain ⟨document, read, bare⟩ := h
  have none := Dialect.headingsOf_eq_nil_iff.2 bare
  rw [validate, Dialect.parse, read]
  dsimp only [Except.map]
  rw [reportOf, Dialect.isEmpty_ofDocument_iff.2 none, Dialect.diagnostics_of_undefined none]
  exact List.mergeSort_singleton _

theorem mem_findings (h : ¬ DefinesNothing source) (hf : f ∈ (validate source).findings) :
    (∃ error, f = parseFinding source error) ∨ ∃ reading, f ∈ allFindings reading := by
  rcases mem_validate hf with ⟨error, -, own⟩ | ⟨reading, parsed, ⟨empty, -⟩ | all⟩
  · exact .inl ⟨error, own⟩
  · obtain ⟨document, read, rfl⟩ := Dialect.document_of_parse parsed
    rw [Dialect.isEmpty_ofDocument_iff] at empty
    exact absurd ⟨document, read, Dialect.headingsOf_eq_nil_iff.1 empty⟩ h
  · exact .inr ⟨reading, all⟩

theorem not_hasEmptyNotice (h : ¬ DefinesNothing source) :
    ¬ (validate source).HasEmptyNotice := by
  rintro ⟨f, hf, notice⟩
  rcases mem_findings h hf with ⟨error, rfl⟩ | ⟨reading, all⟩
  · cases notice
  · rw [isEmptyDocument_of_mem all] at notice
    cases notice

theorem hasEmptyNotice_iff : (validate source).HasEmptyNotice ↔ DefinesNothing source := by
  refine ⟨fun given => by_contra fun h => not_hasEmptyNotice h given, fun h => ?_⟩
  rw [Report.HasEmptyNotice, validate_of_definesNothing h]
  exact ⟨_, List.mem_singleton_self _, by decide⟩

theorem isEmptyDocument_validate_iff :
    (validate source).isEmptyDocument = true ↔ DefinesNothing source := by
  constructor
  · intro empty
    refine hasEmptyNotice_iff.1 ?_
    unfold Report.isEmptyDocument at empty
    split at empty
    · next f single => exact ⟨f, single ▸ List.mem_singleton_self f, empty⟩
    · cases empty
  · intro h
    rw [Report.isEmptyDocument, validate_of_definesNothing h]
    decide

theorem isValid_withoutEmptyNotice_iff : (validate source).withoutEmptyNotice.isValid = true ↔
    (validate source).isValid = true ∨ (validate source).HasEmptyNotice := by
  rw [Report.isValid]
  by_cases h : DefinesNothing source
  · rw [Report.findings_withoutEmptyNotice (inOrder_validate source),
      validate_of_definesNothing h]
    exact iff_of_true (by decide) (.inr (hasEmptyNotice_iff.2 h))
  · have none := not_hasEmptyNotice h
    rw [Report.findings_withoutEmptyNotice_of_not (inOrder_validate source) none, Report.isValid]
    exact (or_iff_left none).symm

theorem messages_flatMap {findings : List Finding}
    (placed : ∀ f ∈ findings, ∃ position, f.positions = [position]) :
    (findings.flatMap (Editor.messagesOf source)).map (·.message) = findings.map (·.message) := by
  induction findings with
  | nil => rfl
  | cons f findings ih =>
    obtain ⟨position, place⟩ := placed f List.mem_cons_self
    have one : (Editor.messagesOf source f).map (·.message) = [f.message] := by
      simp [Editor.messagesOf, place]
    rw [List.flatMap_cons, List.map_append, one,
      ih fun f hf => placed f (List.mem_cons_of_mem _ hf)]
    rfl

theorem message_editorMessages (h : ¬ DefinesNothing source) :
    (Editor.editorMessages source).map (·.message) =
      (validate source).findings.map (·.message) := by
  rw [Editor.editorMessages, Editor.panelFindings,
    Report.findings_withoutEmptyNotice_of_not (inOrder_validate source) (not_hasEmptyNotice h)]
  refine messages_flatMap fun f hf => ?_
  rcases mem_findings h hf with ⟨error, rfl⟩ | ⟨reading, all⟩
  · exact ⟨_, rfl⟩
  · exact place_of_mem all

/-- The notice that a document is empty is given exactly for a document that can be read and has no
heading of level three, and nothing else is said then. Only such a document is no model. A report
without the notice is empty exactly if it was empty or the notice was given; where it was not,
nothing is left out of the report, and an editor shows a message for each finding. -/
theorem emptyNotice_exclusive (source : String) :
    ((validate source).HasEmptyNotice ↔ DefinesNothing source) ∧
    (DefinesNothing source → (validate source).findings = [Finding.emptyDocument]) ∧
    (Editor.isModel source = false ↔ DefinesNothing source) ∧
    ((validate source).withoutEmptyNotice.isValid = true ↔
      (validate source).isValid = true ∨ (validate source).HasEmptyNotice) ∧
    (¬ DefinesNothing source →
      (validate source).withoutEmptyNotice.findings = (validate source).findings ∧
      Editor.panelFindings source = (validate source).findings ∧
      (Editor.editorMessages source).map (·.message) =
        (validate source).findings.map (·.message)) := by
  refine ⟨hasEmptyNotice_iff, validate_of_definesNothing, ?model, isValid_withoutEmptyNotice_iff,
    fun h => ?kept⟩
  case model => rw [Editor.isModel, Bool.not_eq_false', isEmptyDocument_validate_iff]
  case kept =>
    have same := Report.findings_withoutEmptyNotice_of_not (inOrder_validate source)
      (not_hasEmptyNotice h)
    exact ⟨same, same, message_editorMessages h⟩

end Validation
end DocModel
