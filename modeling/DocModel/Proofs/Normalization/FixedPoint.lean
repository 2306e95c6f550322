import DocModel.Proofs.Dialect.FrontMatterLines
import DocModel.Proofs.Normalization.ReadBack

/-!
# DocModel.Proofs.Normalization.FixedPoint

The normal form of a document, normalized again.

* `Restorable` says that the texts of a model mean the same in its normal form;
* `settingsReadBack_of_lines`: what it takes of settings, shown of some that use every kind of them;
* `convert_normal_iff`: then that is normal exactly if the title is read back;
* `hashedTitle_not_fixed`: a title whose last word is a run of hash marks is not.
-/

namespace DocModel

open Dialect Target.Markdown Text Validation

/-- The texts of a model mean the same where the normal form puts them. -/
structure Restorable (m : DataModel) : Prop where
  /-- The settings are read back from their front matter. -/
  settings : m.config.isDefault = true ∨ SettingsReadBack m.config
  /-- The description of an object is the same wherever it stands. -/
  objects : ∀ o ∈ m.objects, WritableDocstring o.docstring
  /-- So is that of an enumeration. -/
  enums : ∀ e ∈ m.enums, WritableDocstring e.docstring
  /-- No white space stands at the ends of a type. -/
  types : ∀ o ∈ m.objects, ∀ a ∈ o.attributes, ∀ dtype ∈ a.dtypes, Trimmed dtype.toList
  /-- The text of an option opens neither a list nor a quotation. -/
  options : ∀ o ∈ m.objects, ∀ a ∈ o.attributes, ∀ option ∈ a.options, OpensNothing option
  /-- Lines end at line feeds only. -/
  unreturned : '\r' ∉ (render m).toList

/-! ## Settings -/

/-- Settings are read back if no line that is written for them is a delimiter and these lines give
them again. -/
theorem settingsReadBack_of_lines {c : Config} {yaml : List (List Char)}
    (written : (Yaml.write (configValue c)).toList = terminated yaml)
    (inner : ∀ line ∈ yaml, '\n' ∉ line ∧ isDelimiter (line ++ ['\n']) = false)
    (read : FrontMatter.config { yaml := terminated yaml, endLine := yaml.length + 2 } = .ok c) :
    SettingsReadBack c := by
  have mark : "---\n".toList = terminated [['-', '-', '-']] := by decide
  have text : (frontText c).toList =
      terminated (['-', '-', '-'] :: (yaml ++ [['-', '-', '-']])) := by
    rw [frontText, String.toList_append, String.toList_append, written, mark, ← terminated_append,
      ← terminated_append, List.singleton_append, List.cons_append]
  have single : ∀ line ∈ ['-', '-', '-'] :: (yaml ++ [['-', '-', '-']]), '\n' ∉ line := by
    simp only [List.forall_mem_cons, List.forall_mem_append]
    exact ⟨by decide, fun line hl => (inner line hl).1, by decide, List.forall_mem_nil _⟩
  have pieces := terminatedLines_terminated single []
  rw [List.append_nil] at pieces
  have cut : splitAtDelimiter ((yaml ++ [['-', '-', '-']]).map (· ++ ['\n'])) =
      some (yaml.map (· ++ ['\n']), []) := by
    rw [List.map_append]
    exact splitAtDelimiter_eq_some_iff.2
      ⟨_, rfl, by decide, List.forall_mem_map.2 fun line hl => (inner line hl).2⟩
  refine ⟨_, yaml.length + 2, ?_, read⟩
  rw [text, partsOf, pieces]
  simp only [List.map_cons, List.cons_append, terminatedLines, List.append_nil, cut,
    List.length_map]
  rfl

/-- Settings of every kind, with a value that is written between quotes. -/
def labSettings : Config where
  idField := true
  repo := some "https://example.org/lab"
  ownPrefix := some "lab"
  prefixes := .ofList [("ex", "http://example.org/"), ("schema", "https://schema.org/")]
  nsmap := .ofList [("xs", "a: b # 'c'")]

/-- The lines that are written for them. -/
def labLines : List String :=
  ["id-field: true", "repo: https://example.org/lab", "prefix: lab", "prefixes:",
    "  ex: http://example.org/", "  schema: https://schema.org/", "nsmap:", "  xs: 'a: b # ''c'''"]

theorem settingsReadBack_labSettings :
    labSettings.isDefault = false ∧ SettingsReadBack labSettings := by
  refine ⟨by decide,
    @settingsReadBack_of_lines _ (labLines.map String.toList) ?written ?inner ?read⟩
  case written => decide +kernel
  case inner => decide +kernel
  case read => decide +kernel

/-! ## Models that are read -/

section

variable {source : String} {reading : Reading}

theorem writableType_of_known {diagnostics : List Diagnostic} {m : DataModel}
    (valid : WellFormed { model := m, diagnostics }) {dtype : String} (h : KnownType m dtype)
    (trimmed : Trimmed dtype.toList) : WritableType m dtype := by
  rcases h with ⟨o, ho, rfl⟩ | ⟨e, he, rfl⟩ | ⟨p, word, hw, same⟩
  · exact .inl ⟨List.mem_append_left _ (List.mem_map_of_mem ho), valid.objectsNamed o ho⟩
  · exact .inl ⟨List.mem_append_right _ (List.mem_map_of_mem he), valid.enumsNamed e he⟩
  · have bare : onChars trim dtype = dtype := by
      rw [onChars, show trim dtype.toList = dtype.toList from trimmed, String.ofList_toList]
    rw [bare] at same
    exact .inr ⟨p, word, hw, same⟩

/-- An attribute of a valid model that is read can be written. -/
theorem writableAttribute_of_read {m : DataModel} {diagnostics : List Diagnostic}
    (valid : WellFormed { model := m, diagnostics }) {o : Object} (ho : o ∈ m.objects)
    {a : Attribute} (ha : a ∈ o.attributes) (read : ReadAttribute a)
    (types : ∀ dtype ∈ a.dtypes, Trimmed dtype.toList) : WritableAttribute m a := by
  have ok := valid.attributes o ho a ha
  exact ⟨ok.named, read.unmarked,
    fun dtype hd => writableType_of_known valid (ok.known dtype hd) (types dtype hd), read.term,
    read.docstring, ok.xml, read.options⟩

/-- A valid model that is read can be written where its texts mean the same. -/
theorem writableModel_of_parse (parsed : parse source = .ok reading) (valid : WellFormed reading)
    (h : Restorable reading.model) : WritableModel reading.model := by
  have attributes := attributes_of_parse parsed
  have members := members_of_parse parsed
  refine ⟨h.settings, fun title ht => ?_, ?_, fun d hd => ?_, h.unreturned⟩
  · obtain ⟨titled, single⟩ := title_of_parse parsed ht
    exact ⟨titled, single⟩
  · intro none
    obtain ⟨objects, enums⟩ := List.append_eq_nil_iff.1 none
    rw [List.map_eq_nil_iff] at objects enums
    exact valid.defined.elim (· objects) (· enums)
  · rcases List.mem_append.1 hd with hd | hd
    · obtain ⟨o, ho, rfl⟩ := List.mem_map.1 hd
      exact ⟨valid.objectsNamed o ho, h.objects o ho,
        fun a ha =>
          writableAttribute_of_read valid ho ha (attributes o ho a ha) (h.types o ho a ha),
        h.options o ho⟩
    · obtain ⟨e, he, rfl⟩ := List.mem_map.1 hd
      exact ⟨valid.enumsNamed e he, h.enums e he,
        fun entry hm => (members e he entry hm).writable,
        fun entry hm => (members e he entry hm).single,
        fun entry hm => (members e he entry hm).clean⟩

end

/-! ## Normal forms -/

theorem parse_of_validModel {source : String} {m : DataModel} (h : validModel source = .ok m) :
    ∃ reading, parse source = .ok reading ∧ reading.model = m ∧ WellFormed reading := by
  obtain ⟨reading, parsed, same, valid⟩ := exists_reading_of_validModel h
  exact ⟨reading, parsed, same, wellFormed_of_isValid valid⟩

/-- Where the other texts of a model mean the same in its normal form, that is normal exactly if the
line of the title gives the title again. -/
theorem convert_normal_iff {source text : String} (h : convert source .markdown [] = .ok text)
    (restorable : ∀ m, validModel source = .ok m → Restorable m) :
    convert text .markdown [] = .ok text ↔
      ∀ m title, validModel source = .ok m → m.name = some title →
        titleAgain title = some title := by
  obtain ⟨m, valid, rfl⟩ := validModel_of_convert h
  obtain ⟨reading, parsed, rfl, wellFormed⟩ := parse_of_validModel valid
  have writable := writableModel_of_parse parsed wellFormed (restorable _ valid)
  obtain ⟨model, diagnostics⟩ := reading
  have quiet : diagnostics = [] := wellFormed.read
  subst quiet
  rw [convert_render wellFormed writable, Except.ok.injEq, render_retitled_iff writable]
  constructor
  · intro back m title hm
    rw [valid] at hm
    cases hm
    exact back title
  · exact fun back title => back model title valid

/-! ## A normal form that is normal -/

/-- What it takes for texts to mean the same does not depend on places. -/
theorem restorable_of_unplaced {m : DataModel} (h : Restorable m.unplaced) : Restorable m := by
  have objects : ∀ o ∈ m.objects, o.unplaced ∈ m.unplaced.objects :=
    fun o ho => List.mem_map_of_mem ho
  have enums : ∀ e ∈ m.enums, e.unplaced ∈ m.unplaced.enums :=
    fun e he => List.mem_map_of_mem he
  have attributes : ∀ o : Object, ∀ a ∈ o.attributes, a.unplaced ∈ o.unplaced.attributes :=
    fun o a ha => List.mem_map_of_mem ha
  have unreturned := h.unreturned
  rw [render_unplaced] at unreturned
  exact ⟨h.settings, fun o ho => h.objects o.unplaced (objects o ho),
    fun e he => h.enums e.unplaced (enums e he),
    fun o ho a ha => h.types o.unplaced (objects o ho) a.unplaced (attributes o a ha),
    fun o ho a ha => h.options o.unplaced (objects o ho) a.unplaced (attributes o a ha),
    unreturned⟩

/-- A document with a title, a description of two lines and an option. -/
def linkedBox : String := "# T\n### B\na\nb\n- x\n  - Type: B\n  - k: v\n"

def linkedBoxModel : DataModel :=
  { name := some "T"
    objects := [{
      name := "B"
      docstring := "a\nb"
      attributes := [{
        name := "x"
        dtypes := ["B"]
        xml := XmlHint.ofElement "x"
        options := [{ key := "k", value := "v" }] }] }] }

def linkedBoxOnce : String := "# T\n\n### B\n\na\nb\n\n- x\n  - Type: [B](#b)\n  - k: v\n"

theorem linkedBox_read : (validModel linkedBox).map DataModel.unplaced = .ok linkedBoxModel := by
  decide +kernel

theorem linkedBox_standsAlone : StandsAlone "a\nb" := by
  have blocks : blocksAlone "a\nb".toList = [.node .paragraph 1 2 []] := by rfl
  refine ⟨by decide, ⟨_, _, by rfl, by rfl⟩, ?_, by decide +kernel⟩
  rw [blocks]
  intro block hb
  rw [List.mem_singleton.1 hb]
  exact ⟨rfl, by decide, by decide⟩

theorem linkedBox_restorable : Restorable linkedBoxModel := by
  have text : render linkedBoxModel = linkedBoxOnce := by decide +kernel
  refine ⟨.inl (by rfl), fun o ho => ?_, fun e he => (List.not_mem_nil he).elim,
    fun o ho a ha dtype hd => ?_, fun o ho a ha option hm => ?_, by rw [text]; decide⟩
  · rw [List.mem_singleton.1 ho]
    exact .inr linkedBox_standsAlone
  · rw [List.mem_singleton.1 ho] at ha
    rw [List.mem_singleton.1 ha] at hd
    rw [List.mem_singleton.1 hd]
    decide
  · rw [List.mem_singleton.1 ho] at ha
    rw [List.mem_singleton.1 ha] at hm
    rw [List.mem_singleton.1 hm]
    decide

theorem linkedBox_normal :
    convert linkedBox .markdown [] = .ok linkedBoxOnce ∧
      (∀ m, validModel linkedBox = .ok m → Restorable m) ∧
      convert linkedBoxOnce .markdown [] = .ok linkedBoxOnce := by
  have models : ∀ m, validModel linkedBox = .ok m → m.unplaced = linkedBoxModel := by
    intro m hm
    have read := linkedBox_read
    rw [hm] at read
    exact Except.ok.inj read
  have once : convert linkedBox .markdown [] = .ok linkedBoxOnce := by decide +kernel
  have restorable : ∀ m, validModel linkedBox = .ok m → Restorable m := by
    intro m hm
    refine restorable_of_unplaced ?_
    rw [models m hm]
    exact linkedBox_restorable
  have title : ∀ m title, validModel linkedBox = .ok m → m.name = some title →
      titleAgain title = some title := by
    intro m title hm ht
    have own : m.name = some "T" := congrArg DataModel.name (models m hm)
    rw [own] at ht
    cases ht
    decide
  exact ⟨once, restorable, (convert_normal_iff once restorable).2 title⟩

/-! ## A normal form that is not -/

/-- A document whose title ends in a hash mark: another one closes the heading. -/
def hashedTitle : String := "# a # #\n### B\n- x\n  - Type: string\n"

/-- Its normal form, where the hash mark of the title closes the heading. -/
def hashedTitleOnce : String := "# a #\n\n### B\n\n- x\n  - Type: string\n"

def hashedTitleTwice : String := "# a\n\n### B\n\n- x\n  - Type: string\n"

/-- A normal form need not be normal. -/
theorem hashedTitle_not_fixed :
    convert hashedTitle .markdown [] = .ok hashedTitleOnce ∧
      convert hashedTitleOnce .markdown [] = .ok hashedTitleTwice ∧
      hashedTitleTwice ≠ hashedTitleOnce := by
  refine ⟨?_, ?_, by decide⟩ <;> decide +kernel

end DocModel
