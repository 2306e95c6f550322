import DocModel.Proofs.Dialect.MemberGrammar
import DocModel.Proofs.Entries

/-!
# DocModel.Proofs.Dialect.Faults

A line that cannot be read changes nothing and is reported once.

* `Rejected` says of which nested bullets this holds, and `ChangedBy` what any other bullet changes
  of an attribute: the fields that its key stands for, and no others;
* `OptionRead` puts this together for one bullet, whatever is nested in it;
* `Reported` goes through the lines of an enumeration and says which of them leave a diagnostic,
  and `FirstOf` which of them count;
* `faults_reported` is the result for bullets and lines.
-/

namespace DocModel
namespace Dialect

open Text

/-! ## Nested bullets -/

/-- A text is cut at its first colon. -/
structure CutAtColon (text : String) (before after : List Char) : Prop where
  whole : text.toList = before ++ ':' :: after
  first : ':' ∉ before

/-- A text gives a value for a key: neither is blank, and a colon is between them. -/
structure Gives (text key value : String) : Prop where
  cut : ∃ before after, CutAtColon text before after ∧
    key.toList = trim before ∧ value.toList = trim after
  keyed : key ≠ ""
  valued : value ≠ ""

def truthWords : List String := ["true", "yes", "1", "false", "no", "0"]

/-- The text of a nested bullet that gives no property. -/
inductive Rejected (text : String) : Prop where
  | noColon (h : ':' ∉ text.toList)
  | noKey {before after : List Char} (cut : CutAtColon text before after) (blank : trim before = [])
  | noValue {before after : List Char} (cut : CutAtColon text before after)
    (blank : trim after = [])
  | notBoolean {key value : String} (gives : Gives text key value)
    (required : asciiLowercase key = "required")
    (other : asciiLowercase (onChars trim value) ∉ truthWords)

/-- An attribute is another one with a value for a key that a place gives: only the fields that the
key stands for are changed, whatever the case of its letters. -/
structure ChangedBy (key value : String) (place : SourcePosition) (a b : Attribute) : Prop where
  name : b.name = a.name
  isId : b.isId = a.isId
  isEnum : b.isEnum = a.isEnum
  position : b.position = a.position
  /-- Types are added, and the first place of them is kept. -/
  types : if asciiLowercase key = "type" then
      b.dtypes = a.dtypes ++ (typeValue value.toList).1 ∧
      b.multiple = (a.multiple || (typeValue value.toList).2) ∧
      b.typePosition = a.typePosition.or (some place)
    else b.dtypes = a.dtypes ∧ b.multiple = a.multiple ∧ b.typePosition = a.typePosition
  term : if asciiLowercase key = "term" then b.term = some value ∧ b.termPosition = some place
    else b.term = a.term ∧ b.termPosition = a.termPosition
  docstring : b.docstring =
    if asciiLowercase key = "description" then extended a.docstring value else a.docstring
  xml : b.xml = if asciiLowercase key = "xml" then XmlHint.read value else a.xml
  required : if asciiLowercase key = "required" then boolValue? value = some b.required
    else b.required = a.required
  /-- Any other key is kept as it is written. -/
  options : b.options = a.options ++ if asciiLowercase key ∈ ownKeys then [] else [⟨key, value⟩]

/-- An attribute of a definition is read further from a nested bullet, with diagnostics of what is
nested in the bullet and of the bullet itself. -/
structure OptionRead (table : LineTable) (definition : String) (a : Attribute) (item : ListItem)
    (b : Attribute) (inner own : List Diagnostic) : Prop where
  /-- Each bullet in it is reported at its line. -/
  nested : inner.map (·.position) = item.children.map fun child => table.positionOf child.line
  /-- If it gives no property it changes nothing and is reported once, at its line. -/
  rejected : Rejected item.text → b = a ∧ own.map (·.position) = [table.positionOf item.line]
  /-- If it gives one it is not reported and changes what the key stands for. -/
  accepted : ¬ Rejected item.text → own = [] ∧ ∃ key value, Gives item.text key value ∧
    ChangedBy key value (table.positionOf item.line) a b
  /-- The diagnostics name the attribute. -/
  named : ∀ d ∈ inner ++ own, d.definition = definition ∧ d.property = some a.name

theorem boolValue?_eq_none_iff {value : String} :
    boolValue? value = none ↔ asciiLowercase (onChars trim value) ∉ truthWords := by
  have words : truthWords = ["true", "yes", "1"] ++ ["false", "no", "0"] := rfl
  rw [words, List.mem_append, ← List.contains_iff_mem, ← List.contains_iff_mem, boolValue?]
  generalize ["true", "yes", "1"].contains (asciiLowercase (onChars trim value)) = yes
  generalize ["false", "no", "0"].contains (asciiLowercase (onChars trim value)) = no
  cases yes <;> cases no <;> simp

/-! ## Cutting a bullet -/

theorem CutAtColon.splitOnce_eq {text : String} {before after : List Char}
    (h : CutAtColon text before after) : splitOnce ':' text.toList = some (before, after) :=
  splitOnce_eq_some_iff.2 ⟨h.whole, h.first⟩

theorem gives_of_splitOption {text key value : String} (h : splitOption text = .ok (key, value)) :
    Gives text key value := by
  rw [splitOption] at h
  split at h
  · cases h
  · next before after cut =>
    obtain ⟨whole, first⟩ := splitOnce_eq_some_iff.1 cut
    dsimp only at h
    split at h
    · cases h
    · next keyed =>
      split at h
      · cases h
      · next valued =>
        cases h
        exact ⟨⟨before, after, ⟨whole, first⟩, String.toList_ofList, String.toList_ofList⟩,
          by simpa using keyed, by simpa using valued⟩

theorem rejected_of_splitOption {text : String} {fault : OptionFault}
    (h : splitOption text = .error fault) : Rejected text := by
  rw [splitOption] at h
  split at h
  · next uncut => exact .noColon (splitOnce_eq_none_iff.1 uncut)
  · next before after cut =>
    obtain ⟨whole, first⟩ := splitOnce_eq_some_iff.1 cut
    dsimp only at h
    split at h
    · next blank => exact .noKey ⟨whole, first⟩ (by simpa using blank)
    · split at h
      · next blank => exact .noValue ⟨whole, first⟩ (by simpa using blank)
      · cases h

theorem Gives.unique {text key value other word : String} (h : Gives text key value)
    (h' : Gives text other word) : key = other ∧ value = word := by
  obtain ⟨before, after, cut, key_eq, value_eq⟩ := h.cut
  obtain ⟨before', after', cut', other_eq, word_eq⟩ := h'.cut
  have same := Option.some.inj (cut.splitOnce_eq.symm.trans cut'.splitOnce_eq)
  cases same
  exact ⟨String.ext (key_eq.trans other_eq.symm), String.ext (value_eq.trans word_eq.symm)⟩

theorem Gives.rejected_iff {text key value : String} (h : Gives text key value) :
    Rejected text ↔ asciiLowercase key = "required" ∧
      asciiLowercase (onChars trim value) ∉ truthWords := by
  obtain ⟨before, after, cut, key_eq, value_eq⟩ := h.cut
  constructor
  · rintro (none | @⟨before', after', cut', blank⟩ | @⟨before', after', cut', blank⟩ |
      @⟨other, word, gives, required, notBoolean⟩)
    · exact absurd (cut.whole ▸ by simp) none
    · cases Option.some.inj (cut.splitOnce_eq.symm.trans cut'.splitOnce_eq)
      exact absurd (key_eq.trans blank) (toList_ne_nil h.keyed)
    · cases Option.some.inj (cut.splitOnce_eq.symm.trans cut'.splitOnce_eq)
      exact absurd (value_eq.trans blank) (toList_ne_nil h.valued)
    · obtain ⟨rfl, rfl⟩ := h.unique gives
      exact ⟨required, notBoolean⟩
  · rintro ⟨required, other⟩
    exact .notBoolean h required other

/-! ## Giving an attribute a property -/

/-- Only whether a value is required may be said in a way that is not understood. -/
theorem withProperty_error_iff (a : Attribute) {key value : String} (place : SourcePosition) :
    (∃ fault, withProperty a key value place = .error fault) ↔
      asciiLowercase key = "required" ∧ asciiLowercase (onChars trim value) ∉ truthWords := by
  rw [← boolValue?_eq_none_iff, withProperty]
  by_cases required : asciiLowercase key = "required"
  · rw [required]
    cases boolValue? value <;> simp
  · refine iff_of_false ?_ fun h => required h.1
    rintro ⟨fault, failed⟩
    split at failed
    case h_5 word => exact required word
    all_goals cases failed

theorem changedBy_of_withProperty {a b : Attribute} {key value : String} {place : SourcePosition}
    (h : withProperty a key value place = .ok b) : ChangedBy key value place a b := by
  rw [withProperty] at h
  split at h
  · next word =>
    cases h
    constructor <;> simp [word, ownKeys, typeValue]
  · next word =>
    cases h
    constructor <;> simp [word, ownKeys]
  · next word =>
    cases h
    constructor <;> simp [word, ownKeys]
  · next word =>
    cases h
    constructor <;> simp [word, ownKeys]
  · next word =>
    split at h
    · next required found =>
      cases h
      constructor <;> simp [word, ownKeys, found]
    · cases h
  · next types term description xml required =>
    cases h
    constructor <;> simp_all [ownKeys]

section

variable {table : LineTable} {definition : String}

def tooDeepReports (table : LineTable) (definition : String) (a : Attribute) (item : ListItem) :
    List Diagnostic :=
  item.children.map fun child =>
    { message := tooDeep child.text, definition, property := some a.name
      position := table.positionOf child.line }

def faultReport (table : LineTable) (definition : String) (a : Attribute) (item : ListItem)
    (fault : OptionFault) : Diagnostic :=
  { message := fault.message item.text, definition, property := some a.name
    position := table.positionOf item.line }

variable (table definition) in
theorem takeOption_of_rejected (a : Attribute) {item : ListItem} (h : Rejected item.text) :
    ∃ fault, takeOption table definition a item =
      (a, tooDeepReports table definition a item ++
        [faultReport table definition a item fault]) := by
  cases cut : splitOption item.text with
  | error fault =>
    refine ⟨fault, ?_⟩
    simp only [takeOption, cut]
    rfl
  | ok entry =>
    obtain ⟨key, value⟩ := entry
    obtain ⟨fault, failed⟩ := (withProperty_error_iff a (table.positionOf item.line)).2
      ((gives_of_splitOption cut).rejected_iff.1 h)
    refine ⟨fault, ?_⟩
    simp only [takeOption, cut, bind, Except.bind, failed]
    rfl

variable (table definition) in
theorem takeOption_of_not_rejected (a : Attribute) {item : ListItem} (h : ¬ Rejected item.text) :
    ∃ key value b, Gives item.text key value ∧
      ChangedBy key value (table.positionOf item.line) a b ∧
      takeOption table definition a item = (b, tooDeepReports table definition a item) := by
  cases cut : splitOption item.text with
  | error fault => exact absurd (rejected_of_splitOption cut) h
  | ok entry =>
    obtain ⟨key, value⟩ := entry
    have gives := gives_of_splitOption cut
    cases changed : withProperty a key value (table.positionOf item.line) with
    | error fault =>
      exact absurd (gives.rejected_iff.2 ((withProperty_error_iff a _).1 ⟨fault, changed⟩)) h
    | ok b =>
      refine ⟨key, value, b, gives, changedBy_of_withProperty changed, ?_⟩
      simp only [takeOption, cut, bind, Except.bind, changed]
      rfl

theorem optionRead (a : Attribute) (item : ListItem) :
    ∃ b inner own, takeOption table definition a item = (b, inner ++ own) ∧
      OptionRead table definition a item b inner own := by
  have nested : (tooDeepReports table definition a item).map (·.position) =
      item.children.map fun child => table.positionOf child.line := by
    simp [tooDeepReports, Function.comp_def]
  have named : ∀ d ∈ tooDeepReports table definition a item,
      d.definition = definition ∧ d.property = some a.name := by
    intro d hd
    obtain ⟨child, -, rfl⟩ := List.mem_map.1 hd
    exact ⟨rfl, rfl⟩
  by_cases rejected : Rejected item.text
  · obtain ⟨fault, taken⟩ := takeOption_of_rejected table definition a rejected
    refine ⟨a, _, _, taken, nested, fun _ => ⟨rfl, rfl⟩, fun h => absurd rejected h, fun d hd => ?_⟩
    rcases List.mem_append.1 hd with hd | hd
    · exact named d hd
    · rw [List.mem_singleton.1 hd]
      exact ⟨rfl, rfl⟩
  · obtain ⟨key, value, b, gives, changed, taken⟩ :=
      takeOption_of_not_rejected table definition a rejected
    refine ⟨b, _, [], by rw [taken, List.append_nil], nested, fun h => absurd h rejected,
      fun _ => ⟨rfl, key, value, gives, changed⟩, fun d hd => ?_⟩
    rw [List.append_nil] at hd
    exact named d hd

theorem takeOptions_append_eq (a : Attribute) (first second : List ListItem) :
    takeOptions table definition a (first ++ second) =
      ((takeOptions table definition (takeOptions table definition a first).1 second).1,
        (takeOptions table definition a first).2 ++
          (takeOptions table definition (takeOptions table definition a first).1 second).2) := by
  induction first generalizing a with
  | nil => rfl
  | cons item rest ih =>
    simp only [List.cons_append, takeOptions, ih, List.append_assoc]

/-- A rejected bullet may be left out anywhere: the attribute is the same, and so are the other
diagnostics. -/
theorem takeOptions_without_rejected (a : Attribute) (before : List ListItem) {item : ListItem}
    (after : List ListItem) (h : Rejected item.text) :
    ∃ b first last reports,
      takeOptions table definition a (before ++ after) = (b, first ++ last) ∧
      takeOptions table definition a (before ++ item :: after) = (b, first ++ reports ++ last) ∧
      reports.map (·.position) = (item.children.map fun child => table.positionOf child.line) ++
        [table.positionOf item.line] := by
  obtain ⟨fault, taken⟩ :=
    takeOption_of_rejected table definition (takeOptions table definition a before).1 h
  refine ⟨_, _, _, tooDeepReports table definition (takeOptions table definition a before).1 item ++
      [faultReport table definition (takeOptions table definition a before).1 item fault],
    takeOptions_append_eq a before after, ?_, ?_⟩
  · rw [takeOptions_append_eq]
    simp only [takeOptions, taken, List.append_assoc]
  · simp [tooDeepReports, faultReport, Function.comp_def]

end

/-! ## Lines of an enumeration -/

/-- A line gives a member a value. -/
def Defines (line : Nat × String) (key value : String) : Prop :=
  MemberText key.toList value.toList line.2.toList

/-- A line after others cannot be read, or it gives a member that one of them gives. -/
inductive Faulty (before : List (Nat × String)) (line : Nat × String) : Prop where
  | malformed (visible : ¬ Ignored line.2.toList) (unread : ∀ key value, ¬ Defines line key value)
  | repeated {key value : String} (given : Defines line key value)
    (again : ∃ earlier ∈ before, ∃ other, Defines earlier key other)

/-- The diagnostics of lines after others: one at each that is faulty, and none at the others. -/
inductive Reported (table : LineTable) :
    List (Nat × String) → List (Nat × String) → List Diagnostic → Prop where
  | done {before : List (Nat × String)} : Reported table before [] []
  | report {before rest : List (Nat × String)} {line : Nat × String} {d : Diagnostic}
    {diagnostics : List Diagnostic} (faulty : Faulty before line)
    (place : d.position = table.positionOf line.1)
    (later : Reported table (before ++ [line]) rest diagnostics) :
    Reported table before (line :: rest) (d :: diagnostics)
  | silent {before rest : List (Nat × String)} {line : Nat × String}
    {diagnostics : List Diagnostic} (sound : ¬ Faulty before line)
    (later : Reported table (before ++ [line]) rest diagnostics) :
    Reported table before (line :: rest) diagnostics

/-- The first value that some lines give a member. -/
inductive FirstValue (key value : String) : List (Nat × String) → Prop where
  | here {line : Nat × String} {rest : List (Nat × String)} (given : Defines line key value) :
    FirstValue key value (line :: rest)
  | later {line : Nat × String} {rest : List (Nat × String)}
    (other : ∀ value, ¬ Defines line key value) (found : FirstValue key value rest) :
    FirstValue key value (line :: rest)

/-- Members are those that some lines give: the first value of each counts. -/
def FirstOf (members : Dictionary) (lines : List (Nat × String)) : Prop :=
  ∀ key value, members.find? key = some value ↔ FirstValue key value lines

theorem Defines.unique {line : Nat × String} {key value name other : String}
    (h : Defines line key value) (h' : Defines line name other) : key = name ∧ value = other := by
  obtain ⟨keys, values⟩ := MemberText.unique h h'
  exact ⟨String.ext keys, String.ext values⟩

theorem FirstValue.exists_line {key value : String} {lines : List (Nat × String)}
    (h : FirstValue key value lines) : ∃ line ∈ lines, Defines line key value := by
  induction h with
  | here given => exact ⟨_, List.mem_cons_self, given⟩
  | later _ _ ih =>
    obtain ⟨line, hl, given⟩ := ih
    exact ⟨line, List.mem_cons_of_mem _ hl, given⟩

theorem exists_firstValue_iff {key : String} {lines : List (Nat × String)} :
    (∃ value, FirstValue key value lines) ↔ ∃ line ∈ lines, ∃ value, Defines line key value := by
  constructor
  · rintro ⟨value, first⟩
    obtain ⟨line, hl, given⟩ := first.exists_line
    exact ⟨line, hl, value, given⟩
  · rintro ⟨line, hl, value, given⟩
    induction lines with
    | nil => cases hl
    | cons head rest ih =>
      by_cases found : ∃ other, Defines head key other
      · exact found.imp fun _ => .here
      · cases hl with
        | head => exact absurd ⟨value, given⟩ found
        | tail _ hl => exact (ih hl).imp fun _ => .later (not_exists.1 found)

theorem firstValue_concat_iff {key value : String} {before : List (Nat × String)}
    {line : Nat × String} : FirstValue key value (before ++ [line]) ↔ FirstValue key value before ∨
      (¬ ∃ other, FirstValue key other before) ∧ Defines line key value := by
  induction before with
  | nil =>
    constructor
    · rintro (given | ⟨-, found⟩)
      · exact .inr ⟨fun ⟨_, found⟩ => (nomatch found), given⟩
      · cases found
    · rintro (found | ⟨-, given⟩)
      · cases found
      · exact .here given
  | cons head rest ih =>
    constructor
    · rintro (given | ⟨other, found⟩)
      · exact .inl (.here given)
      · refine (ih.1 found).imp (.later other) fun ⟨missing, given⟩ => ⟨?_, given⟩
        rintro ⟨value, given | ⟨-, found⟩⟩
        · exact other value given
        · exact missing ⟨value, found⟩
    · rintro ((given | ⟨other, found⟩) | ⟨missing, given⟩)
      · exact .here given
      · exact .later other (ih.2 (.inl found))
      · have other : ∀ value, ¬ Defines head key value := fun value given =>
          missing ⟨value, .here given⟩
        exact .later other (ih.2 (.inr
          ⟨fun ⟨value, found⟩ => missing ⟨value, .later other found⟩, given⟩))

section

variable {table : LineTable} {definition : String} {members : Dictionary}
  {before lines : List (Nat × String)}

theorem FirstOf.contains_iff (h : FirstOf members before) (key : String) :
    members.contains key = true ↔ ∃ value, FirstValue key value before := by
  rw [Dictionary.contains, Option.isSome_iff_exists]
  exact exists_congr (h key)

theorem FirstOf.concat_of_none (h : FirstOf members before) {line : Nat × String}
    (none : ∀ key value, ¬ Defines line key value) : FirstOf members (before ++ [line]) := by
  intro key value
  rw [h key value, firstValue_concat_iff, or_iff_left fun later => none key value later.2]

theorem FirstOf.concat_of_known (h : FirstOf members before) {line : Nat × String}
    {name other : String} (given : Defines line name other)
    (known : members.contains name = true) : FirstOf members (before ++ [line]) := by
  intro key value
  rw [h key value, firstValue_concat_iff, or_iff_left]
  rintro ⟨missing, again⟩
  obtain ⟨rfl, -⟩ := given.unique again
  exact missing ((h.contains_iff name).1 known)

theorem FirstOf.concat_of_new (h : FirstOf members before) {line : Nat × String}
    {name other : String} (given : Defines line name other)
    (new : ¬ members.contains name = true) :
    FirstOf (members.insert name other) (before ++ [line]) := by
  intro key value
  have missing := mt (h.contains_iff name).2 new
  have found : (members.insert name other).find? key =
      if key = name then some other else members.find? key := lookup_insertEntry ..
  rw [found, firstValue_concat_iff]
  by_cases same : key = name
  · subst same
    rw [if_pos rfl, or_iff_right fun first => missing ⟨value, first⟩]
    constructor
    · rintro ⟨rfl⟩
      exact ⟨missing, given⟩
    · rintro ⟨-, again⟩
      rw [(given.unique again).2]
  · rw [if_neg same, h key value, or_iff_left]
    rintro ⟨-, again⟩
    exact same (again.unique given).1

theorem readMembers_spec (h : FirstOf members before) :
    FirstOf (readMembers table definition members lines).1 (before ++ lines) ∧
      Reported table before lines (readMembers table definition members lines).2 := by
  -- on the lines, with any before them: which members are known is what those lines have given
  induction lines generalizing members before with
  | nil =>
    rw [List.append_nil]
    exact ⟨h, .done⟩
  | cons line rest ih =>
    obtain ⟨number, text⟩ := line
    have regroup : before ++ (number, text) :: rest = before ++ [(number, text)] ++ rest := by
      rw [List.append_assoc, List.singleton_append]
    rw [regroup, readMembers]
    cases read : readMemberLine text.toList with
    | skip =>
      -- a line with a fault is neither empty nor a comment
      have ignored := readMemberLine_eq_skip_iff.1 read
      have none : ∀ key value, ¬ Defines (number, text) key value := fun _ _ given =>
        given.not_ignored ignored
      obtain ⟨first, reports⟩ := ih (h.concat_of_none none)
      refine ⟨first, .silent ?_ reports⟩
      rintro (⟨visible, -⟩ | ⟨given, -⟩)
      · exact visible ignored
      · exact none _ _ given
    | malformed =>
      obtain ⟨visible, unread⟩ := readMemberLine_eq_malformed_iff.1 read
      have none : ∀ key value, ¬ Defines (number, text) key value := unread
      obtain ⟨first, reports⟩ := ih (h.concat_of_none none)
      exact ⟨first, .report (.malformed visible none) rfl reports⟩
    | mapping key value =>
      have given : Defines (number, text) key value := readMemberLine_eq_mapping_iff.1 read
      dsimp only
      by_cases known : members.contains key = true
      · rw [if_pos known]
        obtain ⟨first, reports⟩ := ih (h.concat_of_known given known)
        have again := exists_firstValue_iff.1 ((h.contains_iff key).1 known)
        exact ⟨first, .report (.repeated given again) rfl reports⟩
      · rw [if_neg known]
        obtain ⟨first, reports⟩ := ih (h.concat_of_new given known)
        refine ⟨first, .silent ?_ reports⟩
        rintro (⟨-, none⟩ | ⟨member, again⟩)
        · exact none key value given
        · obtain ⟨rfl, -⟩ := given.unique member
          exact known ((h.contains_iff key).2 (exists_firstValue_iff.2 again))

end

/-! ## Bullets and lines with faults -/

/-- Nested bullets and lines of enumerations with faults change nothing and are reported once. -/
structure FaultsReported (table : LineTable) : Prop where
  /-- A nested bullet, whatever the attribute is that it stands below. -/
  bullet : ∀ (definition : String) (a : Attribute) (item : ListItem), ∃ b inner own,
    takeOption table definition a item = (b, inner ++ own) ∧
      OptionRead table definition a item b inner own
  /-- Without a bullet that is rejected the attribute is the same, and so are the diagnostics of the
  other bullets. -/
  without : ∀ (definition : String) (a : Attribute) (before : List ListItem) (item : ListItem)
    (after : List ListItem), Rejected item.text → ∃ b first last reports,
      takeOptions table definition a (before ++ after) = (b, first ++ last) ∧
      takeOptions table definition a (before ++ item :: after) = (b, first ++ reports ++ last) ∧
      reports.map (·.position) = (item.children.map fun child => table.positionOf child.line) ++
        [table.positionOf item.line]
  /-- The first value of a member is kept. -/
  members : ∀ s : Section, FirstOf (readEnumeration table s).1.mappings s.codeBlocks.flatten
  /-- Each line of an enumeration that cannot be read or repeats a member is reported. -/
  lines : ∀ s : Section, Reported table [] s.codeBlocks.flatten (readEnumeration table s).2

theorem firstOf_empty : FirstOf .empty [] := fun _ _ => iff_of_false nofun nofun

theorem faults_reported (table : LineTable) : FaultsReported table where
  bullet _ a item := optionRead a item
  without _ a before _ after h := takeOptions_without_rejected a before after h
  members _ := (readMembers_spec firstOf_empty).1
  lines _ := (readMembers_spec firstOf_empty).2

end Dialect
end DocModel
