import DocModel.Text.Escape

/-!
# DocModel.Proofs.Xml.Entities

Entities of XML read back.

* `unescape` puts a character for every entity and rejects any other ampersand;
* `escapeXml` leaves no mark of the format in a text (`escaped_escapeXml`) and loses nothing
  (`unescape_escapeXml`).
-/

namespace DocModel
namespace Xml

open Text

/-- The entities that every document may use. -/
def entities : List (List Char × Char) :=
  [("amp".toList, '&'), ("lt".toList, '<'), ("gt".toList, '>'), ("quot".toList, '"'),
    ("apos".toList, '\'')]

/-- A text with a character for every entity; the text may begin inside of one. -/
def unescapeFrom : Option (List Char) → List Char → Option (List Char)
  | none, [] => some []
  | none, c :: cs =>
    if c = '&' then unescapeFrom (some []) cs else (unescapeFrom none cs).map (c :: ·)
  | some _, [] => none
  | some name, c :: cs =>
    if c = ';' then
      (entities.lookup name).bind fun e => (unescapeFrom none cs).map (e :: ·)
    else unescapeFrom (some (name ++ [c])) cs

/-- The text that a written text stands for; there is none if an ampersand begins no entity. -/
def unescape (s : String) : Option String := (unescapeFrom none s.toList).map String.ofList

/-- A text without marks: no angle bracket opens, no quote closes, every ampersand begins an
entity. -/
structure Escaped (s : String) : Prop where
  open_not_mem : '<' ∉ s.toList
  quote_not_mem : '"' ∉ s.toList
  entities : (unescape s).isSome

theorem unescapeFrom_entity (name : List Char) {e : Char} (found : entities.lookup name = some e)
    (letters : ';' ∉ name) (cs : List Char) :
    unescapeFrom none ('&' :: name ++ ';' :: cs) = (unescapeFrom none cs).map (e :: ·) := by
  have inside : ∀ (before after : List Char), ';' ∉ after →
      unescapeFrom (some before) (after ++ ';' :: cs) =
        (entities.lookup (before ++ after)).bind fun e => (unescapeFrom none cs).map (e :: ·) := by
    intro before after plain
    induction after generalizing before with
    | nil => simp [unescapeFrom]
    | cons c after ih =>
      obtain ⟨other, plain⟩ := not_or.1 (mt List.mem_cons.2 plain)
      rw [List.cons_append, unescapeFrom, if_neg (Ne.symm other), ih _ plain, List.append_assoc,
        List.singleton_append]
  rw [List.cons_append, unescapeFrom, if_pos rfl, inside [] name letters, List.nil_append, found]
  rfl

theorem unescapeFrom_xmlImage (c : Char) (cs : List Char) :
    unescapeFrom none (xmlImage c ++ cs) = (unescapeFrom none cs).map (c :: ·) := by
  unfold xmlImage
  split
  · exact unescapeFrom_entity "amp".toList (by decide) (by decide) cs
  · exact unescapeFrom_entity "lt".toList (by decide) (by decide) cs
  · exact unescapeFrom_entity "gt".toList (by decide) (by decide) cs
  · exact unescapeFrom_entity "quot".toList (by decide) (by decide) cs
  · exact unescapeFrom_entity "apos".toList (by decide) (by decide) cs
  · next ampersand _ _ _ _ => rw [List.singleton_append, unescapeFrom, if_neg ampersand]

theorem unescape_escapeXml (s : String) : unescape (escapeXml s) = some s := by
  have chars : ∀ cs : List Char, unescapeFrom none (cs.flatMap xmlImage) = some cs := by
    intro cs
    induction cs with
    | nil => rfl
    | cons c cs ih => rw [List.flatMap_cons, unescapeFrom_xmlImage, ih, Option.map_some]
  rw [unescape, escapeXml, onChars, String.toList_ofList, chars, Option.map_some,
    String.ofList_toList]

theorem not_mem_xmlImage {mark : Char} (h : mark = '<' ∨ mark = '"') (c : Char) :
    mark ∉ xmlImage c := by
  unfold xmlImage
  rcases h with rfl | rfl <;> split <;> first | decide | simp_all [eq_comm]

theorem not_mem_escapeXml {mark : Char} (h : mark = '<' ∨ mark = '"') (s : String) :
    mark ∉ (escapeXml s).toList := by
  rw [escapeXml, onChars, String.toList_ofList, List.mem_flatMap]
  rintro ⟨c, -, hc⟩
  exact not_mem_xmlImage h c hc

theorem escaped_escapeXml (s : String) : Escaped (escapeXml s) where
  open_not_mem := not_mem_escapeXml (.inl rfl) s
  quote_not_mem := not_mem_escapeXml (.inr rfl) s
  entities := by rw [unescape_escapeXml, Option.isSome_some]

/-- A text without any of the characters that have an entity stays as it is. -/
theorem escapeXml_eq_self {s : String} (plain : ∀ c ∈ s.toList, xmlImage c = [c]) :
    escapeXml s = s := by
  have chars : s.toList.flatMap xmlImage = s.toList.flatMap fun c => [c] := by
    rw [List.flatMap_def, List.flatMap_def, List.map_congr_left plain]
  rw [escapeXml, onChars, chars, List.flatMap_singleton', String.ofList_toList]

theorem escapeXml_isEmpty (s : String) : (escapeXml s).isEmpty = s.isEmpty := by
  have image : ∀ c, xmlImage c ≠ [] := by
    intro c
    unfold xmlImage
    split <;> simp
  rw [Bool.eq_iff_iff, String.isEmpty_iff, String.isEmpty_iff, ← String.toList_inj,
    ← String.toList_inj, escapeXml, onChars, String.toList_ofList]
  cases s.toList <;> simp [image]

end Xml
end DocModel
