import DocModel.Editor.Lint
import DocModel.Proofs.Dialect.BulletOrder
import DocModel.Proofs.Source.Offsets
import DocModel.Proofs.Validation.TypeFindings

/-!
# DocModel.Proofs.Editor.TypeMessages

Where an editor shows what is wrong with the type of an attribute. The place is moved to the line
that gives the type, which is searched for among the raw lines.

* `TypeLine` says which line this is, `typeLine?_eq_some_iff` that the search finds it;
* `type_message_place`: the message starts on the line of the bullet or below, if the document has
  this line, and before the next outer bullet or heading unless the search escapes.

Bullets and headings stop the search if they begin at the margin with a hyphen or a hash mark. What
is indented, or has another marker, does not stop it.
-/

namespace DocModel
namespace Editor

open Text Dialect Validation

/-! ## The search -/

/-- The first of `n` lines to give a type; none before it stops the search. -/
structure Finds (table : LineTable) (anchor first n line : Nat) : Prop where
  start : first ≤ line
  near : line < first + n
  gives : givesType (trimStart (table.textOf line)) = true
  earliest : ∀ k, first ≤ k → k < line → givesType (trimStart (table.textOf k)) = false
  unstopped : ∀ k, first ≤ k → k < line → anchor < k → beginsItem (table.textOf k) = false

/-- The line that gives the type of what is at `anchor`. -/
def TypeLine (table : LineTable) (anchor line : Nat) : Prop :=
  Finds table anchor anchor typeLineReach line

/-- The range of a line that gives a type. -/
def typeRange (table : LineTable) (line : Nat) : Span :=
  let text := table.textOf line
  ⟨table.startOf line + (byteLength text - byteLength (trimStart text)),
    table.startOf line + byteLength (trimEnd text)⟩

section

variable {table : LineTable} {anchor first n line : Nat} {range : Span}

theorem not_finds_zero : ¬ Finds table anchor first 0 line := by
  intro h
  have near := h.near
  have start := h.start
  omega

theorem finds_of_gives (h : givesType (trimStart (table.textOf first)) = true) :
    Finds table anchor first (n + 1) line ↔ line = first := by
  constructor
  · intro found
    by_contra other
    have later : first < line := Nat.lt_of_le_of_ne found.start (Ne.symm other)
    have none := found.earliest first (Nat.le_refl first) later
    rw [h] at none
    cases none
  · rintro rfl
    exact ⟨Nat.le_refl _, by omega, h, fun k _ _ => by omega, fun k _ _ => by omega⟩

/-- Past a line that gives no type and does not stop the search. -/
theorem finds_succ (h : givesType (trimStart (table.textOf first)) = false)
    (goes : anchor < first → beginsItem (table.textOf first) = false) :
    Finds table anchor first (n + 1) line ↔ Finds table anchor (first + 1) n line := by
  constructor
  · intro found
    have later : first ≠ line := by
      rintro rfl
      have gives := found.gives
      rw [h] at gives
      cases gives
    have start := found.start
    have near := found.near
    exact ⟨by omega, by omega, found.gives, fun k hk => found.earliest k (by omega),
      fun k hk => found.unstopped k (by omega)⟩
  · intro found
    have start := found.start
    have near := found.near
    refine ⟨by omega, by omega, found.gives, fun k hk hl => ?_, fun k hk hl behind => ?_⟩
    · rcases Nat.eq_or_lt_of_le hk with rfl | later
      · exact h
      · exact found.earliest k later hl
    · rcases Nat.eq_or_lt_of_le hk with rfl | later
      · exact goes behind
      · exact found.unstopped k later hl behind

theorem not_finds_of_stop (h : givesType (trimStart (table.textOf first)) = false)
    (behind : anchor < first) (stops : beginsItem (table.textOf first) = true) :
    ¬ Finds table anchor first n line := by
  intro found
  rcases Nat.eq_or_lt_of_le found.start with rfl | later
  · have gives := found.gives
    rw [h] at gives
    cases gives
  · have goes := found.unstopped first (Nat.le_refl first) later behind
    rw [stops] at goes
    cases goes

theorem typeLineFrom_eq_some_iff :
    typeLineFrom table anchor first n = some range ↔
      ∃ line, Finds table anchor first n line ∧ range = typeRange table line := by
  induction n generalizing first with
  | zero => simp [typeLineFrom, not_finds_zero]
  | succ n ih =>
    rw [typeLineFrom]
    dsimp only
    cases hg : givesType (trimStart (table.textOf first)) with
    | true =>
      simp only [finds_of_gives hg, exists_eq_left]
      exact ⟨fun h => (Option.some.inj h).symm, fun h => congrArg some h.symm⟩
    | false =>
      rw [if_neg Bool.false_ne_true]
      by_cases stop : anchor < first ∧ beginsItem (table.textOf first) = true
      · have stopped : (decide (anchor < first) && beginsItem (table.textOf first)) = true := by
          simpa using stop
        rw [if_pos stopped]
        simp [not_finds_of_stop hg stop.1 stop.2]
      · have goes : anchor < first → beginsItem (table.textOf first) = false := by
          intro behind
          simpa [behind] using stop
        have unstopped : ¬ (decide (anchor < first) && beginsItem (table.textOf first)) = true := by
          simpa using goes
        rw [if_neg unstopped, ih]
        simp only [finds_succ hg goes]

theorem typeLine?_eq_some_iff :
    typeLine? table anchor = some range ↔
      ∃ line, TypeLine table anchor line ∧ range = typeRange table line :=
  typeLineFrom_eq_some_iff

theorem TypeLine.unique {other : Nat} (h : TypeLine table anchor line)
    (ho : TypeLine table anchor other) : line = other := by
  have least : ∀ {first second}, TypeLine table anchor first → TypeLine table anchor second →
      ¬ first < second := by
    intro first second hf hs earlier
    have none := hs.earliest first hf.start earlier
    rw [hf.gives] at none
    cases none
  exact Nat.le_antisymm (Nat.not_lt.1 (least ho h)) (Nat.not_lt.1 (least h ho))

end

/-! ## Messages -/

/-- The range that is shown for a place on the line `anchor`. -/
def shownRange (table : LineTable) (anchor : Nat) : Span :=
  (typeLine? table anchor).getD (table.positionOf anchor).offset

theorem messagesOf_typeError {source : String} {f : Finding} {anchor : Nat}
    (kind : f.kind = .typeError)
    (place : f.positions = [(LineTable.ofSource source.toList).positionOf anchor]) :
    messagesOf source f =
      [{ start := (shownRange (LineTable.ofSource source.toList) anchor).start
         stop := (shownRange (LineTable.ofSource source.toList) anchor).stop
         message := f.message }] := by
  rw [messagesOf, place, List.map_singleton, kind]
  rfl

section

variable {source : List Char} {anchor line : Nat}

/-- The range of a line that gives a type starts on this line. -/
theorem lineAt_typeRange (h : TypeLine (LineTable.ofSource source) anchor line) :
    (LineTable.ofSource source).lineAt (typeRange (LineTable.ofSource source) line).start =
      line := by
  have shows : (LineTable.ofSource source).textOf line ≠ [] := by
    intro empty
    have gives := h.gives
    rw [empty] at gives
    exact absurd gives (by decide)
  obtain ⟨placed, hp⟩ := LineTable.exists_line shows
  exact LineTable.lineAt_within hp (Nat.sub_le _ _)

/-- A range starts on the line that gives the type, or on its own if there is none. -/
theorem lineAt_shownRange (positive : 0 < anchor) :
    TypeLine (LineTable.ofSource source) anchor ((LineTable.ofSource source).lineAt
        (shownRange (LineTable.ofSource source) anchor).start) ∨
      (∀ line, ¬ TypeLine (LineTable.ofSource source) anchor line) ∧
        (LineTable.ofSource source).lineAt (shownRange (LineTable.ofSource source) anchor).start =
          min anchor (LineTable.ofSource source).lines.size := by
  rw [shownRange]
  cases found : typeLine? (LineTable.ofSource source) anchor with
  | some range =>
    obtain ⟨line, own, rfl⟩ := typeLine?_eq_some_iff.1 found
    refine .inl ?_
    rw [Option.getD_some, lineAt_typeRange own]
    exact own
  | none =>
    refine .inr ⟨fun line own => ?_, LineTable.lineAt_positionOf positive⟩
    rw [typeLine?_eq_some_iff.2 ⟨line, own, rfl⟩] at found
    cases found

end

/-- The search for the type of a bullet, begun on the line `anchor`, goes on to the next outer
bullet or heading, or past it. -/
def Escapes (source : String) (document : Document) (item : ListItem) (anchor : Nat) : Prop :=
  ∃ stop ∈ stopLines document.blocks, item.line < stop ∧
    ∃ line, stop ≤ line ∧ TypeLine (LineTable.ofSource source.toList) anchor line

/-- A line that stops the search: it begins at the margin and gives no type itself. -/
def StopsSearch (source : String) (stop : Nat) : Prop :=
  beginsItem ((LineTable.ofSource source.toList).textOf stop) = true ∧
    givesType (trimStart ((LineTable.ofSource source.toList).textOf stop)) = false

section

variable {source : String} {document : Document} {item : ListItem} {anchor : Nat}

theorem not_escapes_of_stops
    (above : ∀ stop ∈ stopLines document.blocks, item.line < stop → anchor < stop)
    (h : ∀ stop ∈ stopLines document.blocks, item.line < stop → StopsSearch source stop) :
    ¬ Escapes source document item anchor := by
  rintro ⟨stop, hs, later, line, past, found⟩
  obtain ⟨stops, givesNone⟩ := h stop hs later
  rcases Nat.eq_or_lt_of_le past with rfl | past
  · have gives := found.gives
    rw [givesNone] at gives
    cases gives
  · have before := above stop hs later
    have goes := found.unstopped stop (Nat.le_of_lt before) past before
    rw [stops] at goes
    cases goes

theorem before_stop_iff (positive : 0 < anchor)
    (above : ∀ stop ∈ stopLines document.blocks, item.line < stop → anchor < stop) :
    (∀ stop ∈ stopLines document.blocks, item.line < stop →
      (LineTable.ofSource source.toList).lineAt
        (shownRange (LineTable.ofSource source.toList) anchor).start < stop) ↔
      ¬ Escapes source document item anchor := by
  rcases @lineAt_shownRange source.toList anchor positive with found | ⟨none, place⟩
  · constructor
    · rintro before ⟨stop, hs, later, line, past, own⟩
      have own := found.unique own ▸ before stop hs later
      omega
    · intro stays stop hs later
      by_contra past
      exact stays ⟨stop, hs, later, _, Nat.not_lt.1 past, found⟩
  · rw [place]
    refine iff_of_true (fun stop hs later => ?_) fun ⟨_, _, _, line, _, own⟩ => none line own
    exact Nat.lt_of_le_of_lt (Nat.min_le_left _ _) (above stop hs later)

theorem not_before_bullet_iff (positive : 0 < anchor) (below : item.line ≤ anchor) :
    item.line ≤ (LineTable.ofSource source.toList).lineAt
        (shownRange (LineTable.ofSource source.toList) anchor).start ↔
      item.line ≤ (LineTable.ofSource source.toList).lines.size := by
  refine ⟨fun h => Nat.le_trans h (LineTable.lineAt_le_size _ _), fun inside => ?_⟩
  rcases @lineAt_shownRange source.toList anchor positive with found | ⟨-, place⟩
  · exact Nat.le_trans below found.start
  · rw [place]
    exact Nat.le_min.2 ⟨below, inside⟩

end

/-- What an editor shows about the type of an attribute is one message. It starts not before the
line of the bullet of this attribute, unless this line is none of the document; and before the next
outer bullet or heading exactly if the search does not escape. Where these stop the search, it does
not; and the line is one of the document where each carriage return is followed by a line feed. -/
theorem type_message_place (source : String) (f : Finding) (h : f ∈ (validate source).findings)
    (kind : f.kind = .typeError) :
    ∃ document item anchor message,
      Document.ofSource source.toList = .ok document ∧
      AboutBullet source document item anchor f ∧ messagesOf source f = [message] ∧
      (item.line ≤ (LineTable.ofSource source.toList).lineAt message.start ↔
        item.line ≤ (LineTable.ofSource source.toList).lines.size) ∧
      ((∀ stop ∈ stopLines document.blocks, item.line < stop →
          (LineTable.ofSource source.toList).lineAt message.start < stop) ↔
        ¬ Escapes source document item anchor) ∧
      ((∀ stop ∈ stopLines document.blocks, item.line < stop → StopsSearch source stop) →
        ¬ Escapes source document item anchor) ∧
      ((∀ parts, partsOf source.toList = .ok parts → pairedReturns parts.body = true) →
        item.line ≤ (LineTable.ofSource source.toList).lines.size) := by
  obtain ⟨document, item, anchor, lexed, about⟩ := bullet_of_finding h kind
  obtain ⟨heading, hh, -, hi⟩ := about.bullet
  obtain ⟨block, hb, items, listed, mem⟩ := list_of_heading (List.mem_of_mem_filter hh) hi
  -- the place of the finding is on the bullet or inside it
  have inside : item.line ≤ anchor ∧
      ∀ stop ∈ stopLines document.blocks, item.line < stop → anchor < stop := by
    rcases about.within with rfl | ⟨child, hc, rfl⟩
    · exact ⟨Nat.le_refl _, fun _ _ later => later⟩
    · exact nested_between lexed hb listed mem hc
  obtain ⟨below, above⟩ := inside
  have positive : 0 < anchor := Nat.lt_of_lt_of_le (line_pos lexed hb listed mem) below
  refine ⟨document, item, anchor, _, lexed, about, messagesOf_typeError kind about.place,
    not_before_bullet_iff positive below, before_stop_iff positive above,
    not_escapes_of_stops above, fun paired => ?_⟩
  obtain ⟨line, hl⟩ := LineTable.exists_line (shows_bullet lexed paired hb listed mem)
  exact LineTable.le_size_of_line hl

/-! ## Hyphens and asterisks -/

/-- What is found about an attribute on the second line that has no type. -/
def noTypeFinding : Finding where
  kind := .typeError
  message := "Attribute 'x' in object 'A' has no type"
  definition := some "A"
  property := some "x"
  positions := [⟨2, ⟨1, 4⟩, ⟨6, 9⟩⟩]

def hyphenBullets : String := "### A\n- x\n- y\n  - Type: string\n"

/-- The next bullet stops the search. -/
theorem hyphenBullets_message_place :
    noTypeFinding ∈ (validate hyphenBullets).findings ∧ noTypeFinding.kind = .typeError ∧
      ∃ document item anchor message,
        Document.ofSource hyphenBullets.toList = .ok document ∧
        AboutBullet hyphenBullets document item anchor noTypeFinding ∧
        messagesOf hyphenBullets noTypeFinding = [message] ∧
        item.line ≤ (LineTable.ofSource hyphenBullets.toList).lineAt message.start ∧
        ∀ stop ∈ stopLines document.blocks, item.line < stop →
          (LineTable.ofSource hyphenBullets.toList).lineAt message.start < stop := by
  have findings : (validate hyphenBullets).findings = [noTypeFinding] := by decide +kernel
  have found : noTypeFinding ∈ (validate hyphenBullets).findings := by
    rw [findings]
    exact List.mem_singleton_self _
  obtain ⟨document, item, anchor, message, lexed, about, shown, start, before, stays, inside⟩ :=
    type_message_place hyphenBullets noTypeFinding found rfl
  have lines : (Document.ofSource hyphenBullets.toList).map (stopLines ·.blocks) =
      .ok [1, 2, 3] := by decide +kernel
  rw [lexed] at lines
  have stops : ∀ stop ∈ stopLines document.blocks, StopsSearch hyphenBullets stop := by
    have own : stopLines document.blocks = [1, 2, 3] := Except.ok.inj lines
    rw [own]
    simp only [StopsSearch]
    decide
  have paired : ∀ parts, partsOf hyphenBullets.toList = .ok parts →
      pairedReturns parts.body = true := by
    have own : (partsOf hyphenBullets.toList).map (pairedReturns ·.body) = .ok true := by
      decide +kernel
    intro parts hp
    rw [hp] at own
    exact Except.ok.inj own
  exact ⟨found, rfl, document, item, anchor, message, lexed, about, shown,
    start.2 (inside paired), before.2 (stays fun stop hs _ => stops stop hs)⟩

def starredBullets : String := "### A\n* x\n* y\n  - Type: string\n"

/-- A message about the first attribute on the line that gives the type of the second one. -/
theorem starredBullets_message_escapes :
    noTypeFinding ∈ (validate starredBullets).findings ∧ noTypeFinding.kind = .typeError ∧
      ∃ document item message,
        Document.ofSource starredBullets.toList = .ok document ∧
        AboutBullet starredBullets document item 2 noTypeFinding ∧
        messagesOf starredBullets noTypeFinding = [message] ∧
        ∃ stop ∈ stopLines document.blocks, item.line < stop ∧
          ¬ (LineTable.ofSource starredBullets.toList).lineAt message.start < stop := by
  have findings : (validate starredBullets).findings = [noTypeFinding] := by decide +kernel
  have found : noTypeFinding ∈ (validate starredBullets).findings := by
    rw [findings]
    exact List.mem_singleton_self _
  have lines : (Document.ofSource starredBullets.toList).map (stopLines ·.blocks) =
      .ok [1, 2, 3] := by decide +kernel
  have bullets : (Document.ofSource starredBullets.toList).map (fun document =>
        (objectHeadings document.blocks).map fun h => (h.name, h.items)) =
      .ok [("A", [.mk "x" 2 [], .mk "y" 3 [.mk "Type: string" 4 []]])] := by decide +kernel
  have place : noTypeFinding.positions =
      [(LineTable.ofSource starredBullets.toList).positionOf 2] := by decide
  have shown : messagesOf starredBullets noTypeFinding =
      [⟨16, 30, "Attribute 'x' in object 'A' has no type"⟩] := by decide
  have fourth : (LineTable.ofSource starredBullets.toList).lineAt 16 = 4 := by decide
  cases lexed : Document.ofSource starredBullets.toList with
  | error error =>
    rw [lexed] at lines
    cases lines
  | ok document =>
    rw [lexed] at lines bullets
    have headings := Except.ok.inj bullets
    have mem : ("A", _) ∈ (objectHeadings document.blocks).map fun h => (h.name, h.items) :=
      headings ▸ List.mem_singleton_self _
    obtain ⟨heading, hh, own⟩ := List.mem_map.1 mem
    obtain ⟨name, items⟩ := Prod.mk.inj own
    have stops : stopLines document.blocks = [1, 2, 3] := Except.ok.inj lines
    have about : AboutBullet starredBullets document (.mk "x" 2 []) 2 noTypeFinding :=
      ⟨⟨heading, hh, congrArg some name.symm, items ▸ List.mem_cons_self⟩, by decide +kernel,
        .inl rfl, place⟩
    refine ⟨found, rfl, document, _, _, rfl, about, shown, 3, ?_, by decide, ?_⟩
    · rw [stops]
      decide
    · rw [fourth]
      decide

end Editor
end DocModel
