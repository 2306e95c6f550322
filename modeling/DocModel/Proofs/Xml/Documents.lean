import DocModel.Xml.Element
import DocModel.Proofs.Splitting
import DocModel.Proofs.Xml.Tokens

/-!
# DocModel.Proofs.Xml.Documents

The text of a document has the tags and texts of its tree, whatever the values and texts in it are.

* `Element.tokens` and `Document.tokens` are the tags and texts of a tree, `Token.written` has them
  as they are written and `Token.read?` reads them back;
* `reads_element` is the text of one element, between others, and `scan_render` that of a document;
* every element is closed where it has to be (`nested_tokens`).
-/

namespace DocModel
namespace Xml

open Text

/-! ## The tokens of a tree -/

/-- The ends of a line and of the empty lines after it. -/
def feeds (empty : Nat) : List Char := List.replicate (empty + 1) '\n'

/-- What stands before a tag at a level, after the end of another line and some empty lines. -/
def layout (empty level : Nat) : String := String.ofList (feeds empty) ++ indentation level

mutual

/-- The tokens of an element at a level, after some empty lines. -/
def Element.tokens (empty level : Nat) : Element → List Token
  | .empty name attributes => [.text (layout empty level), .empty ⟨name, attributes⟩]
  | .text name content =>
    [.text (layout empty level), .start ⟨name, []⟩] ++ textTokens content ++ [.close name]
  | .parent name attributes children =>
    [.text (layout empty level), .start ⟨name, attributes⟩] ++ childTokens (level + 1) children
      ++ [.text (layout 0 level), .close name]

/-- The tokens of several elements at a level. -/
def childTokens (level : Nat) : List Element → List Token
  | [] => []
  | child :: children => child.tokens 0 level ++ childTokens level children

end

def Document.tokens (d : Document) : List Token :=
  [.instruction "xml version=\"1.0\" encoding=\"UTF-8\"", .text (layout 0 0),
      .start ⟨d.name, d.attributes⟩]
    ++ d.children.flatMap (·.tokens 1 1)
    ++ [.text (layout 1 0), .close d.name, .text (layout 0 0)]

/-- The name of an element and those of its attributes are names, and no two are the same. -/
structure Tag.Named (tag : Tag) : Prop where
  name : isName tag.name
  keys : ∀ a ∈ tag.attributes, isName a.1
  distinct : (tag.attributes.map (·.1)).Nodup

/-- The names in an element are names. -/
inductive Element.Named : Element → Prop where
  | empty {name : String} {attributes : List (String × String)} :
      Tag.Named ⟨name, attributes⟩ → Named (.empty name attributes)
  | text {name content : String} : Tag.Named ⟨name, []⟩ → Named (.text name content)
  | parent {name : String} {attributes : List (String × String)} {children : List Element} :
      Tag.Named ⟨name, attributes⟩ → (∀ child ∈ children, Named child) →
      Named (.parent name attributes children)

/-- The names in a document are names. -/
structure Document.Named (d : Document) : Prop where
  root : Tag.Named ⟨d.name, d.attributes⟩
  children : ∀ child ∈ d.children, child.Named

/-! ## Tokens as they are written -/

/-- A tag as it is written. -/
def Tag.written (tag : Tag) : Tag :=
  { tag with attributes := tag.attributes.map fun a => (a.1, escapeXml a.2) }

/-- A token as it is written. -/
def Token.written : Token → Token
  | .start tag => .start tag.written
  | .empty tag => .empty tag.written
  | .text content => .text (escapeXml content)
  | .instruction content => .instruction content
  | .close name => .close name

def Tag.read? (tag : Tag) : Option Tag :=
  (tag.attributes.mapM fun a => (unescape a.2).map (a.1, ·)).map (⟨tag.name, ·⟩)

def Token.read? : Token → Option Token
  | .start tag => tag.read?.map .start
  | .empty tag => tag.read?.map .empty
  | .text content => (unescape content).map .text
  | .instruction content => some (.instruction content)
  | .close name => some (.close name)

/-- The values and the text in a token. -/
def Token.texts : Token → List String
  | .start tag => tag.attributes.map (·.2)
  | .empty tag => tag.attributes.map (·.2)
  | .text content => [content]
  | .instruction _ => []
  | .close _ => []

theorem Tag.read?_written (tag : Tag) : tag.written.read? = some tag := by
  have values (attributes : List (String × String)) :
      (attributes.map fun a => (a.1, escapeXml a.2)).mapM
        (fun a => (unescape a.2).map (a.1, ·)) = some attributes := by
    induction attributes with
    | nil => rfl
    | cons a attributes ih => simp [unescape_escapeXml, ih]
  rw [Tag.read?, Tag.written, values, Option.map_some]

theorem Token.read?_written (token : Token) : token.written.read? = some token := by
  cases token <;> simp [Token.written, Token.read?, Tag.read?_written, unescape_escapeXml]

theorem mapM_read?_written (tokens : List Token) :
    (tokens.map Token.written).mapM Token.read? = some tokens := by
  induction tokens with
  | nil => rfl
  | cons token tokens ih => simp [Token.read?_written, ih]

theorem escaped_written {token : Token} {s : String} (h : s ∈ token.written.texts) : Escaped s := by
  have escaped : ∃ t, s = escapeXml t := by
    cases token <;> simp [Token.written, Token.texts, Tag.written] at h
    · obtain ⟨_, value, -, rfl⟩ := h
      exact ⟨value, rfl⟩
    · obtain ⟨_, value, -, rfl⟩ := h
      exact ⟨value, rfl⟩
    · exact ⟨_, h⟩
  obtain ⟨t, rfl⟩ := escaped
  exact escaped_escapeXml t

theorem textTokens_escapeXml (s : String) :
    textTokens (escapeXml s) = (textTokens s).map Token.written := by
  unfold textTokens
  rw [escapeXml_isEmpty]
  split <;> rfl

theorem toList_layout (empty level : Nat) :
    (layout empty level).toList = feeds empty ++ (indentation level).toList := by
  simp [layout]

theorem xmlImage_layout (empty level : Nat) :
    ∀ c ∈ (layout empty level).toList, xmlImage c = [c] := by
  intro c hc
  simp only [toList_layout, feeds, indentation, String.toList_ofList, List.mem_append,
    List.mem_replicate] at hc
  rcases hc with ⟨-, rfl⟩ | ⟨-, rfl⟩ <;> rfl

@[simp]
theorem escapeXml_layout (empty level : Nat) :
    escapeXml (layout empty level) = layout empty level :=
  escapeXml_eq_self (xmlImage_layout empty level)

theorem textTokens_layout (empty level : Nat) :
    textTokens (String.ofList (feeds empty ++ (indentation level).toList)) =
      [.text (layout empty level)] := by
  have same : String.ofList (feeds empty ++ (indentation level).toList) = layout empty level := by
    rw [← toList_layout, String.ofList_toList]
  have content : (layout empty level).isEmpty = false := by
    rw [Bool.eq_false_iff, ne_eq, String.isEmpty_iff, ← String.toList_inj, toList_layout]
    simp [feeds, List.replicate_succ]
  rw [same, textTokens, content, if_neg Bool.false_ne_true]

/-! ## Reading tags -/

section

variable (empty level : Nat) {name : String} {attributes : List (String × String)}

/-- Where the name of an element or an attribute of it has ended. -/
def AtEnd (mode : Mode) (tag : Tag) : Prop :=
  ∀ c, isNameChar c = false → step mode c = afterPiece tag c

theorem atEnd_name (name : String) : AtEnd (.name name.toList) ⟨name, []⟩ := by
  intro c hc
  rw [step, if_neg (by simp [hc]), String.ofList_toList]

theorem atEnd_valued (tag : Tag) : AtEnd (.valued tag) tag := fun _ _ => rfl

theorem reads_char {before after : Mode} {tokens : List Token} {c : Char}
    (h : step before c = some (tokens, after)) :
    Reads before (String.ofList [c]) tokens after := by
  rw [Reads, String.toList_ofList]
  simp [run, h]

theorem reads_elementName (named : isName name) : Reads .opened name [] (.name name.toList) := by
  refine reads_name named (fun c hc => ?_) fun read c hc => ?_
  · have notInstruction : c ≠ '?' := by rintro rfl; exact absurd hc (by decide)
    have notClosing : c ≠ '/' := by rintro rfl; exact absurd hc (by decide)
    rw [step, if_neg notInstruction, if_neg notClosing, if_pos hc]
  · rw [step, if_pos hc]

theorem reads_key {tag : Tag} {key : String} (named : isName key) :
    Reads (.spaced tag) key [] (.key tag key.toList) := by
  refine reads_name named (fun c hc => ?_) fun read c hc => ?_
  · rw [step, if_pos hc]
  · have notEqual : c ≠ '=' := by rintro rfl; exact absurd hc (by decide)
    rw [step, if_neg notEqual, if_pos hc]

theorem reads_attribute {mode : Mode} {tag : Tag} {a : String × String} (ended : AtEnd mode tag)
    (named : isName a.1) (new : a.1 ∉ tag.attributes.map (·.1)) :
    Reads mode (attributeText a) []
      (.valued { tag with attributes := tag.attributes ++ [(a.1, escapeXml a.2)] }) := by
  have space : Reads mode " " [] (.spaced tag) := reads_char (ended ' ' (by decide))
  have assigned : Reads (.key tag a.1.toList) "=\"" [] (.value tag a.1.toList []) := rfl
  have quoted : Reads (.value tag a.1.toList (escapeXml a.2).toList) "\"" []
      (.valued { tag with attributes := tag.attributes ++ [(a.1, escapeXml a.2)] }) := by
    refine reads_char ?_
    rw [step, if_pos rfl, String.ofList_toList, if_neg new, String.ofList_toList]
  exact (((space.append (reads_key named)).append assigned).append
    (reads_value (escaped_escapeXml a.2))).append quoted

theorem reads_attributes {mode : Mode} {tag : Tag} (ended : AtEnd mode tag)
    (named : ∀ a ∈ attributes, isName a.1)
    (distinct : (tag.attributes.map (·.1) ++ attributes.map (·.1)).Nodup) :
    ∃ last, Reads mode (String.join (attributes.map attributeText)) [] last ∧
      AtEnd last { tag with
        attributes := tag.attributes ++ attributes.map fun a => (a.1, escapeXml a.2) } := by
  induction attributes generalizing mode tag with
  | nil => exact ⟨mode, .nil, by simpa using ended⟩
  | cons a attributes ih =>
    have new : a.1 ∉ tag.attributes.map (·.1) := fun mem =>
      (List.nodup_append.1 distinct).2.2 a.1 mem a.1 (by simp) rfl
    have first := reads_attribute ended (named a List.mem_cons_self) new
    have ended' := atEnd_valued
      { tag with attributes := tag.attributes ++ [(a.1, escapeXml a.2)] }
    have further : ((tag.attributes ++ [(a.1, escapeXml a.2)]).map (·.1) ++
        attributes.map (·.1)).Nodup := by simpa using distinct
    obtain ⟨last, rest, ended⟩ :=
      ih ended' (fun a ha => named a (List.mem_cons_of_mem _ ha)) further
    refine ⟨last, ?_, by simpa using ended⟩
    rw [List.map_cons, String.join_cons]
    exact first.append rest

theorem reads_tagText (named : Tag.Named ⟨name, attributes⟩) :
    ∃ last, Reads .opened (tagText name attributes) [] last ∧
      AtEnd last (Tag.written ⟨name, attributes⟩) := by
  obtain ⟨last, rest, ended⟩ := reads_attributes (atEnd_name name) named.keys named.distinct
  exact ⟨last, (reads_elementName named.name).append rest, ended⟩

theorem reads_layout : Reads (.content (feeds empty)) (indentation level ++ "<")
    [.text (layout empty level)] .opened := by
  have spaces : '<' ∉ (indentation level).toList := by simp [indentation]
  have bracket : Reads (.content (feeds empty ++ (indentation level).toList)) "<"
      [.text (layout empty level)] .opened := by
    rw [← textTokens_layout]
    exact reads_char rfl
  exact (reads_content (feeds empty) spaces).append bracket

/-- A tag that opens an element, after what stands before it. -/
theorem reads_start (named : Tag.Named ⟨name, attributes⟩) :
    Reads (.content (feeds empty)) (indentation level ++ "<" ++ tagText name attributes ++ ">")
      [.text (layout empty level), .start (Tag.written ⟨name, attributes⟩)] (.content []) := by
  obtain ⟨last, inside, ended⟩ := reads_tagText named
  have bracket : Reads last ">" [.start (Tag.written ⟨name, attributes⟩)] (.content []) :=
    reads_char (ended '>' (by decide))
  exact ((reads_layout empty level).append inside).append bracket

theorem reads_empty (named : Tag.Named ⟨name, attributes⟩) :
    Reads (.content (feeds empty)) (indentation level ++ "<" ++ tagText name attributes ++ "/>")
      [.text (layout empty level), .empty (Tag.written ⟨name, attributes⟩)] (.content []) := by
  obtain ⟨last, inside, ended⟩ := reads_tagText named
  have slash : Reads last "/" [] (.slash (Tag.written ⟨name, attributes⟩)) :=
    reads_char (ended '/' (by decide))
  have bracket : Reads (.slash (Tag.written ⟨name, attributes⟩)) ">"
      [.empty (Tag.written ⟨name, attributes⟩)] (.content []) := rfl
  exact ((reads_layout empty level).append inside).append (slash.append bracket)

theorem reads_close (named : isName name) :
    Reads .opened ("/" ++ name ++ ">") [.close name] (.content []) := by
  have slash : Reads .opened "/" [] (.closing []) := rfl
  have inside : Reads (.closing []) name [] (.closing name.toList) := by
    have next (read : List Char) (c : Char) (hc : isNameChar c) :
        step (.closing read) c = some ([], .closing (read ++ [c])) := by
      have notBracket : c ≠ '>' := by rintro rfl; exact absurd hc (by decide)
      rw [step, if_neg notBracket, if_pos hc]
    exact reads_name named (fun c hc => next [] c (isNameChar_of_isNameStart hc)) next
  have bracket : Reads (.closing name.toList) ">" [.close name] (.content []) := by
    refine reads_char ?_
    rw [step, if_pos rfl, String.ofList_toList, if_pos named]
  exact (slash.append inside).append bracket

theorem reads_layout_close (named : isName name) :
    Reads (.content (feeds empty)) (indentation level ++ "</" ++ name ++ ">")
      [.text (layout empty level), .close name] (.content []) := by
  have whole := (reads_layout empty level).append (reads_close named)
  have marks : "</" = "<" ++ "/" := rfl
  simpa only [marks, String.append_assoc, List.cons_append, List.nil_append] using whole

/-- An element with a text, on a line of its own. -/
theorem reads_text {content : String} (named : Tag.Named ⟨name, []⟩) :
    Reads (.content (feeds empty))
      (indentation level ++ "<" ++ name ++ ">" ++ escapeXml content ++ "</" ++ name ++ ">")
      (((Element.text name content).tokens empty level).map Token.written) (.content []) := by
  have opened := reads_start empty level named
  have inside := reads_content [] (escaped_escapeXml content).open_not_mem
  rw [List.nil_append] at inside
  have bracket : Reads (.content (escapeXml content).toList) "<"
      ((textTokens content).map Token.written) .opened := by
    refine reads_char ?_
    rw [step, if_pos rfl, String.ofList_toList, textTokens_escapeXml]
  have whole := (opened.append inside).append (bracket.append (reads_close named.name))
  have tag : tagText name [] = name := by simp [tagText]
  have marks : "</" = "<" ++ "/" := rfl
  have tokens : ((Element.text name content).tokens empty level).map Token.written =
      [.text (layout empty level), .start (Tag.written ⟨name, []⟩)] ++ []
        ++ ((textTokens content).map Token.written ++ [.close name]) := by
    simp [Element.tokens, Token.written]
  rw [tokens]
  simpa only [marks, tag, String.append_assoc] using whole

end

/-! ## Reading elements -/

theorem Reads.line {before : Mode} {line : String} {found : List Token}
    (h : Reads before line found (.content [])) :
    Reads before (unlines [line]) found (.content (feeds 0)) := by
  have feed : Reads (.content []) "\n" [] (.content (feeds 0)) := rfl
  have both := h.append feed
  have ended : line ++ "\n" = unlines [line] := by simp [unlines]
  rwa [List.append_nil, ended] at both

theorem reads_children {children : List Element} {level : Nat}
    (each : ∀ child ∈ children, Reads (.content (feeds 0)) (unlines (child.lines level))
      ((child.tokens 0 level).map Token.written) (.content (feeds 0))) :
    Reads (.content (feeds 0)) (unlines (childLines level children))
      ((childTokens level children).map Token.written) (.content (feeds 0)) := by
  induction children with
  | nil => exact .nil
  | cons child children ih =>
    rw [childLines, childTokens, unlines_append, List.map_append]
    exact (each child List.mem_cons_self).append
      (ih fun child hc => each child (List.mem_cons_of_mem _ hc))

theorem reads_element {e : Element} (named : e.Named) (empty level : Nat) :
    Reads (.content (feeds empty)) (unlines (e.lines level))
      ((e.tokens empty level).map Token.written) (.content (feeds 0)) := by
  induction named generalizing empty level with
  | @empty name attributes named =>
    have tokens : ((Element.empty name attributes).tokens empty level).map Token.written =
        [.text (layout empty level), .empty (Tag.written ⟨name, attributes⟩)] := by
      simp [Element.tokens, Token.written]
    rw [Element.lines, tokens]
    exact (reads_empty empty level named).line
  | text named =>
    rw [Element.lines]
    exact (reads_text empty level named).line
  | @parent name attributes children named _ ih =>
    have inner := reads_children fun child hc => ih child hc 0 (level + 1)
    have tokens : ((Element.parent name attributes children).tokens empty level).map
        Token.written = [.text (layout empty level), .start (Tag.written ⟨name, attributes⟩)]
          ++ ((childTokens (level + 1) children).map Token.written
            ++ [.text (layout 0 level), .close name]) := by
      simp [Element.tokens, Token.written]
    have lines : unlines ((Element.parent name attributes children).lines level) =
        unlines [indentation level ++ "<" ++ tagText name attributes ++ ">"]
          ++ (unlines (childLines (level + 1) children)
            ++ unlines [indentation level ++ "</" ++ name ++ ">"]) := by
      rw [Element.lines, ← unlines_append, ← unlines_append, List.singleton_append]
    rw [lines, tokens]
    have opened := (reads_start empty level named).line
    exact opened.append (inner.append (reads_layout_close 0 level named.name).line)

theorem reads_apart {children : List Element} (named : ∀ child ∈ children, child.Named)
    (level : Nat) :
    Reads (.content (feeds 0)) (unlines (children.flatMap fun child => "" :: child.lines level))
      ((children.flatMap (·.tokens 1 level)).map Token.written) (.content (feeds 0)) := by
  induction children with
  | nil => exact .nil
  | cons child children ih =>
    have feed : Reads (.content (feeds 0)) (unlines [""]) [] (.content (feeds 1)) := rfl
    have first := feed.append (reads_element (named child List.mem_cons_self) 1 level)
    rw [← unlines_append, List.singleton_append, List.nil_append] at first
    rw [List.flatMap_cons, List.flatMap_cons, unlines_append, List.map_append]
    exact first.append (ih fun child hc => named child (List.mem_cons_of_mem _ hc))

theorem scan_render {d : Document} (named : d.Named) :
    scan d.render = some (d.tokens.map Token.written) := by
  have head : Reads (.content []) (unlines [declaration])
      [.instruction "xml version=\"1.0\" encoding=\"UTF-8\""] (.content (feeds 0)) :=
    Reads.line rfl
  have level : indentation 0 = "" := rfl
  have opened := (reads_start 0 0 named.root).line
  have feed : Reads (.content (feeds 0)) (unlines [""]) [] (.content (feeds 1)) := rfl
  have closed := feed.append (reads_layout_close 1 0 named.root.name).line
  rw [level, String.empty_append] at opened closed
  have text : d.render = unlines [declaration]
      ++ unlines ["<" ++ tagText d.name d.attributes ++ ">"]
      ++ unlines (d.children.flatMap fun child => "" :: child.lines 1)
      ++ (unlines [""] ++ unlines ["</" ++ d.name ++ ">"]) := by
    simp only [Document.render, ← unlines_append, List.cons_append, List.nil_append]
  have whole := ((head.append opened).append (reads_apart named.children 1)).append closed
  rw [← text] at whole
  have last : textTokens (String.ofList (feeds 0)) = [.text (layout 0 0)] := rfl
  rw [scan_of_reads whole, last]
  simp [Document.tokens, Token.written]

-- A value that looks like the end of its tag stays a value.
example : scan (Document.render ⟨"a", [("k", "\"/><b>")], []⟩) = some
    [.instruction "xml version=\"1.0\" encoding=\"UTF-8\"", .text "\n",
      .start ⟨"a", [("k", "&quot;/&gt;&lt;b&gt;")]⟩, .text "\n\n", .close "a", .text "\n"] := by
  decide

/-! ## Elements inside each other -/

/-- Whether every element is closed by a tag of its own name, before those that it is inside of.
The names are those of the elements that are open. -/
def nested : List String → List Token → Bool
  | openNames, [] => openNames.isEmpty
  | openNames, .start tag :: tokens => nested (tag.name :: openNames) tokens
  | [], .close _ :: _ => false
  | innermost :: openNames, .close name :: tokens => innermost == name && nested openNames tokens
  | openNames, .instruction _ :: tokens => nested openNames tokens
  | openNames, .empty _ :: tokens => nested openNames tokens
  | openNames, .text _ :: tokens => nested openNames tokens

section

variable {openNames : List String} {tokens : List Token}

theorem nested_written : nested openNames (tokens.map Token.written) = nested openNames tokens := by
  induction tokens generalizing openNames with
  | nil => rfl
  | cons token tokens ih =>
    cases token with
    | close name => cases openNames <;> simp [nested, Token.written, ih]
    | _ => simp [nested, Token.written, Tag.written, ih]

theorem nested_textTokens (content : String) :
    nested openNames (textTokens content ++ tokens) = nested openNames tokens := by
  unfold textTokens
  split <;> simp [nested]

mutual

theorem nested_element (empty level : Nat) (openNames : List String) (tokens : List Token) :
    (e : Element) → nested openNames (e.tokens empty level ++ tokens) = nested openNames tokens
  | .empty _ _ => by simp [Element.tokens, nested]
  | .text _ _ => by simp [Element.tokens, nested, nested_textTokens]
  | .parent _ _ children => by
    simp [Element.tokens, nested, nested_children (level + 1) _ _ children]

theorem nested_children (level : Nat) (openNames : List String) (tokens : List Token) :
    (children : List Element) →
      nested openNames (childTokens level children ++ tokens) = nested openNames tokens
  | [] => rfl
  | child :: children => by
    rw [childTokens, List.append_assoc, nested_element 0 level openNames _ child,
      nested_children level openNames tokens children]

end

/-- The elements of a document are closed where they have to be. -/
theorem nested_tokens (d : Document) : nested [] d.tokens := by
  have children (openNames : List String) (tokens : List Token) (children : List Element) :
      nested openNames (children.flatMap (·.tokens 1 1) ++ tokens) = nested openNames tokens := by
    induction children with
    | nil => rfl
    | cons child children ih => rw [List.flatMap_cons, List.append_assoc, nested_element, ih]
  simp [Document.tokens, nested, children]

end

/-! ## Texts and documents -/

/-- A text is well-formed and stands for a document: every element is closed where it has to be, no
value and no text holds a mark, and with characters for the entities these are the tokens of the
document. -/
structure StandsFor (s : String) (d : Document) (tokens : List Token) : Prop where
  scanned : scan s = some tokens
  nested : nested [] tokens
  escaped : ∀ token ∈ tokens, ∀ text ∈ token.texts, Escaped text
  read : tokens.mapM Token.read? = some d.tokens

theorem standsFor_render {d : Document} (named : d.Named) :
    StandsFor d.render d (d.tokens.map Token.written) where
  scanned := scan_render named
  nested := by rw [nested_written, nested_tokens]
  escaped token ht text hs := by
    obtain ⟨raw, -, rfl⟩ := List.mem_map.1 ht
    exact escaped_written hs
  read := mapM_read?_written d.tokens

end Xml
end DocModel
