import DocModel.Proofs.Xml.Entities

/-!
# DocModel.Proofs.Xml.Tokens

The tags and texts of XML, found by going through a text one character at a time.

* `step` is what one character does; `run` goes through a text and `scan` through a whole
  document;
* `Reads` says where a text leads from where and what is found on the way; it composes
  (`Reads.append`).

Names are made of letters and digits of ASCII and some marks, values stand between double quotes, a
tag has each attribute once.
-/

namespace DocModel
namespace Xml

open Text

/-- Whether a name can begin with a character. -/
def isNameStart (c : Char) : Bool := c.isAlpha || c == '_' || c == ':'

/-- Whether a character can be in a name. -/
def isNameChar (c : Char) : Bool := isNameStart c || c.isDigit || c == '-' || c == '.'

theorem isNameChar_of_isNameStart {c : Char} (h : isNameStart c) : isNameChar c := by
  simp [isNameChar, h]

/-- Whether a text is a name. -/
def isName (s : String) : Bool :=
  match s.toList with
  | [] => false
  | c :: cs => isNameStart c && cs.all isNameChar

/-- What stands in a tag. -/
structure Tag where
  /-- The name of the element. -/
  name : String
  attributes : List (String × String)
  deriving DecidableEq

/-- A piece of a document. -/
inductive Token where
  /-- An instruction, without the marks around it. -/
  | instruction (content : String)
  /-- A tag that opens an element. -/
  | start (tag : Tag)
  /-- A tag that is an element without content. -/
  | empty (tag : Tag)
  /-- A tag that closes an element. -/
  | close (name : String)
  /-- What stands between two tags. -/
  | text (content : String)
  deriving DecidableEq

/-- The text between two tags, unless it is empty. -/
def textTokens (content : String) : List Token := if content.isEmpty then [] else [.text content]

/-! ## Scanning -/

/-- Where a scan is; names, values and texts are what is read of them so far. -/
inductive Mode where
  | content (text : List Char)
  | opened
  | instruction (content : List Char)
  /-- In a tag that closes an element. -/
  | closing (name : List Char)
  /-- In the name of another tag. -/
  | name (name : List Char)
  /-- After white space in a tag. -/
  | spaced (tag : Tag)
  /-- In the name of an attribute. -/
  | key (tag : Tag) (key : List Char)
  /-- Between the name of an attribute and its value. -/
  | assigned (tag : Tag) (key : List Char)
  /-- In the value of an attribute. -/
  | value (tag : Tag) (key value : List Char)
  | valued (tag : Tag)
  /-- After the slash at the end of a tag. -/
  | slash (tag : Tag)

/-- What follows the name of a tag or an attribute. -/
def afterPiece (tag : Tag) (c : Char) : Option (List Token × Mode) :=
  if c = ' ' then some ([], .spaced tag)
  else if c = '/' then some ([], .slash tag)
  else if c = '>' then some ([.start tag], .content [])
  else none

/-- The tokens that a character completes, and where it leads. -/
def step : Mode → Char → Option (List Token × Mode)
  | .content text, c =>
    if c = '<' then some (textTokens (String.ofList text), .opened)
    else some ([], .content (text ++ [c]))
  | .opened, c =>
    if c = '?' then some ([], .instruction [])
    else if c = '/' then some ([], .closing [])
    else if isNameStart c then some ([], .name [c])
    else none
  | .instruction content, c =>
    if c = '>' ∧ content.getLast? = some '?' then
      some ([.instruction (String.ofList content.dropLast)], .content [])
    else some ([], .instruction (content ++ [c]))
  | .closing name, c =>
    if c = '>' then
      if isName (String.ofList name) then some ([.close (String.ofList name)], .content [])
      else none
    else if isNameChar c then some ([], .closing (name ++ [c]))
    else none
  | .name name, c =>
    if isNameChar c then some ([], .name (name ++ [c]))
    else afterPiece ⟨String.ofList name, []⟩ c
  | .spaced tag, c =>
    if isNameStart c then some ([], .key tag [c]) else afterPiece tag c
  | .key tag key, c =>
    if c = '=' then some ([], .assigned tag key)
    else if isNameChar c then some ([], .key tag (key ++ [c]))
    else none
  | .assigned tag key, c => if c = '"' then some ([], .value tag key []) else none
  | .value tag key value, c =>
    if c = '"' then
      if String.ofList key ∈ tag.attributes.map (·.1) then none
      else some ([], .valued
        { tag with attributes := tag.attributes ++ [(String.ofList key, String.ofList value)] })
    else if c = '<' then none
    else some ([], .value tag key (value ++ [c]))
  | .valued tag, c => afterPiece tag c
  | .slash tag, c => if c = '>' then some ([.empty tag], .content []) else none

/-- The tokens that a text completes, and where it leads. -/
def run : Mode → List Char → Option (List Token × Mode)
  | mode, [] => some ([], mode)
  | mode, c :: cs =>
    (step mode c).bind fun found => (run found.2 cs).map fun rest => (found.1 ++ rest.1, rest.2)

def scan (document : String) : Option (List Token) :=
  match run (.content []) document.toList with
  | some (tokens, .content text) => some (tokens ++ textTokens (String.ofList text))
  | _ => none

/-! ## What texts complete -/

/-- A text leads from one mode to another and completes some tokens. -/
def Reads (before : Mode) (s : String) (tokens : List Token) (after : Mode) : Prop :=
  run before s.toList = some (tokens, after)

section

variable {before between after : Mode} {s t : String} {found more : List Token}
variable {tag : Tag}

theorem run_append (mode : Mode) (cs ds : List Char) : run mode (cs ++ ds) =
    (run mode cs).bind fun found => (run found.2 ds).map fun rest =>
      (found.1 ++ rest.1, rest.2) := by
  induction cs generalizing mode with
  | nil => cases h : run mode ds <;> simp [run, h]
  | cons c cs ih =>
    cases head : step mode c with
    | none => simp [run, head]
    | some found =>
      cases tail : run found.2 cs with
      | none => simp [run, head, ih, tail]
      | some rest => cases last : run rest.2 ds <;> simp [run, head, ih, tail, last]

theorem Reads.append (h : Reads before s found between) (h' : Reads between t more after) :
    Reads before (s ++ t) (found ++ more) after := by
  unfold Reads at *
  rw [String.toList_append, run_append, h, Option.bind_some, h', Option.map_some]

theorem scan_of_reads {text : List Char} (h : Reads (.content []) s found (.content text)) :
    scan s = some (found ++ textTokens (String.ofList text)) := by
  rw [scan, h]

theorem Reads.nil : Reads before "" [] before := rfl

/-- A text all of whose characters are only added to what is read so far. -/
theorem reads_all (mode : List Char → Mode)
    (h : ∀ read, ∀ c ∈ s.toList, step (mode read) c = some ([], mode (read ++ [c])))
    (read : List Char) : Reads (mode read) s [] (mode (read ++ s.toList)) := by
  unfold Reads
  generalize s.toList = cs at *
  induction cs generalizing read with
  | nil => simp [run]
  | cons c cs ih =>
    have rest := ih (read ++ [c]) fun read d hd => h read d (List.mem_cons_of_mem c hd)
    simp [run, h read c List.mem_cons_self, rest]

theorem reads_content (text : List Char) (plain : '<' ∉ s.toList) :
    Reads (.content text) s [] (.content (text ++ s.toList)) := by
  refine reads_all .content (fun read c hc => ?_) text
  rw [step, if_neg (ne_of_mem_of_not_mem hc plain)]

theorem reads_value {key : List Char} (written : Escaped s) :
    Reads (.value tag key []) s [] (.value tag key s.toList) := by
  refine reads_all (.value tag key) (fun read c hc => ?_) []
  rw [step, if_neg (ne_of_mem_of_not_mem hc written.quote_not_mem),
    if_neg (ne_of_mem_of_not_mem hc written.open_not_mem)]

/-- A name, from where only its start is accepted to the mode that collects it. -/
theorem reads_name {mode : List Char → Mode} (named : isName s)
    (first : ∀ c, isNameStart c → step before c = some ([], mode [c]))
    (next : ∀ read c, isNameChar c → step (mode read) c = some ([], mode (read ++ [c]))) :
    Reads before s [] (mode s.toList) := by
  cases chars : s.toList with
  | nil => simp [isName, chars] at named
  | cons c cs =>
    simp only [isName, chars, Bool.and_eq_true, List.all_eq_true] at named
    have rest : Reads (mode [c]) (String.ofList cs) [] (mode ([c] ++ cs)) := by
      simpa using reads_all (s := String.ofList cs) mode
        (fun read d hd => next read d (named.2 d (by simpa using hd))) [c]
    unfold Reads at *
    rw [String.toList_ofList] at rest
    simp [chars, run, first c named.1, rest]

end

end Xml
end DocModel
