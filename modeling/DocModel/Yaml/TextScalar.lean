import DocModel.Yaml.Cursor

/-!
# DocModel.Yaml.TextScalar

The texts of a YAML document, in their five styles.

* `readQuoted` reads a text between single or double quotes, `readPlain` one without quotes;
* in both a line end becomes a space, and of several all but the first are kept (`folded`);
* `readBlock` reads an indented text that keeps its line ends or folds them.
-/

namespace DocModel
namespace Yaml

/-- How a text is written. -/
inductive ScalarStyle where
  | plain
  | singleQuoted
  | doubleQuoted
  /-- Indented, with its line ends. -/
  | literal
  /-- Indented, with its line ends folded. -/
  | folded
  deriving DecidableEq, Repr

/-- What spacing inside a text stands for. -/
def folded (spacing : List Char) : List Char :=
  match spacing.filter isBreak with
  | [] => spacing
  | ['\n'] => [' ']
  | '\n' :: more => more
  | breaks => breaks

/-! ## Quoted -/

/-- The character that a letter after a backslash stands for. -/
def escaped? : Char → Option Char
  | '0' => some '\x00'
  | 'a' => some '\x07'
  | 'b' => some '\x08'
  | 't' => some '\t'
  | '\t' => some '\t'
  | 'n' => some '\n'
  | 'v' => some '\x0b'
  | 'f' => some '\x0c'
  | 'r' => some '\r'
  | 'e' => some '\x1b'
  | ' ' => some ' '
  | '"' => some '"'
  | '/' => some '/'
  | '\\' => some '\\'
  | 'N' => some '\u0085'
  | '_' => some '\u00a0'
  | 'L' => some '\u2028'
  | 'P' => some '\u2029'
  | _ => none

/-- How many hexadecimal digits a letter after a backslash announces. -/
def codeLength? : Char → Option Nat
  | 'x' => some 2
  | 'u' => some 4
  | 'U' => some 8
  | _ => none

/-- The value of a hexadecimal digit. -/
def hexValue? (c : Char) : Option Nat :=
  if c.isDigit then some (c.toNat - 48)
  else if 'a' ≤ c && c ≤ 'f' then some (c.toNat - 87)
  else if 'A' ≤ c && c ≤ 'F' then some (c.toNat - 55)
  else none

/-- The number that hexadecimal digits denote. -/
def hexNumber? (digits : List Char) : Option Nat :=
  digits.foldl (fun n c => do return 16 * (← n) + (← hexValue? c)) (some 0)

/-- The character that a backslash and what follows stand for, and the place after it. -/
def readEscape (start : Mark) (cur : Cursor) : Except Problem (Char × Cursor) :=
  let fail (cur : Cursor) (fault : Fault) := cur.fail fault .quotedCharacter start
  match cur.peek 1 with
  | none => fail cur .unknownEscape
  | some c =>
    match escaped? c, codeLength? c with
    | some d, _ => .ok (d, cur.drop 2)
    | none, none => fail cur .unknownEscape
    | none, some length =>
      let code := cur.drop 2
      let digits := code.rest.take length
      match hexNumber? digits with
      | some n =>
        if digits.length < length then fail code .missingHexDigit
        else if n.isValidChar then .ok (Char.ofNat n, code.drop length)
        else fail code .invalidCharacterCode
      | none => fail code .missingHexDigit

/-- What follows an opening quote up to the closing one. The text so far is `out`, backwards;
every turn moves on by at least one character. -/
def quotedFrom (single : Bool) (start : Mark) :
    Nat → Cursor → List Char → Except Problem (List Char × Cursor)
  | 0, cur, _ => cur.fail .unexpectedEnd .quotedScalar start
  | n + 1, cur, out =>
    if cur.atDocumentMark then cur.fail .unexpectedDocumentMark .quotedScalar start
    else
      match cur.rest with
      | [] => cur.fail .unexpectedEnd .quotedScalar start
      | c :: _ =>
        if isSpacing c then
          let spacing := cur.ahead isSpacing
          quotedFrom single start n (cur.drop spacing.length) ((folded spacing).reverse ++ out)
        else if single then
          if c != '\'' then quotedFrom single start n (cur.drop 1) (c :: out)
          else if cur.looksAt 1 '\'' then quotedFrom single start n (cur.drop 2) ('\'' :: out)
          else .ok (out.reverse, cur.drop 1)
        else if c == '"' then .ok (out.reverse, cur.drop 1)
        else if c != '\\' then quotedFrom single start n (cur.drop 1) (c :: out)
        else if (cur.peek 1).any isBreak then
          let spacing := (cur.drop 2).ahead isSpacing
          quotedFrom single start n (cur.drop (2 + spacing.length))
            ((spacing.filter isBreak).reverse ++ out)
        else
          match readEscape start cur with
          | .ok (d, next) => quotedFrom single start n next (d :: out)
          | .error problem => .error problem

def readQuoted (single : Bool) (cur : Cursor) : Except Problem (List Char × Cursor) :=
  quotedFrom single cur.mark (cur.rest.length + 1) (cur.drop 1) []

/-! ## Plain -/

/-- A character that separates or encloses values inside brackets. -/
def isFlowIndicator (c : Char) : Bool :=
  c == ',' || c == '[' || c == ']' || c == '\x7b' || c == '\x7d'

/-- The characters of a plain text up to the next spacing or to an indicator that ends the text;
`flow` inside brackets. A colon in front of an indicator is a fault there: then the answer is how
many characters stand before it. -/
def plainWord (flow : Bool) : List Char → Except Nat (List Char)
  | [] => .ok []
  | c :: rest =>
    let next := rest.head?
    if isSpacing c then .ok []
    else if flow && c == ':' && next.any (fun d => isFlowIndicator d || d == '?') then .error 0
    else if c == ':' && next.all isSpacing then .ok []
    else if flow && isFlowIndicator c then .ok []
    else
      match plainWord flow rest with
      | .ok word => .ok (c :: word)
      | .error n => .error (n + 1)

/-- The first tab after a line end that stands before the column `indent`. -/
def earlyTab? (indent : Nat) (afterBreak : Bool) (mark : Mark) : List Char → Option Mark
  | [] => none
  | c :: rest =>
    if afterBreak && c == '\t' && mark.column < indent then some mark
    else earlyTab? indent (afterBreak || isBreak c) (mark.after c) rest

/-- A plain text and the place after the spacing that follows it. -/
structure PlainText where
  text : List Char
  cur : Cursor
  /-- Whether a line ends in between. -/
  endsLine : Bool

/-- The rest of a plain text that belongs to lines indented by `indent` columns. The text so far
is `out`, backwards, with `spacing` after it. -/
def plainFrom (flow : Bool) (indent : Nat) (start : Mark) :
    Nat → Cursor → List Char → List Char → Except Problem PlainText
  | 0, cur, out, spacing => .ok ⟨out.reverse, cur, spacing.any isBreak⟩
  | n + 1, cur, out, spacing =>
    let done : Except Problem PlainText := .ok ⟨out.reverse, cur, spacing.any isBreak⟩
    if cur.atDocumentMark || cur.looksAt 0 '#' then done
    else
      match plainWord flow cur.rest with
      | .error k => (cur.drop k).fail .unexpectedColon .plainScalar start
      | .ok [] => done
      | .ok word =>
        let out := word.reverse ++ (folded spacing).reverse ++ out
        let after := cur.drop word.length
        let spacing := after.ahead isSpacing
        match earlyTab? indent false after.mark spacing with
        | some mark => { after with mark }.fail .tabInPlainText .plainScalar start
        | none =>
          let next := after.drop spacing.length
          if spacing.isEmpty || (!flow && next.mark.column < indent) then
            .ok ⟨out.reverse, next, spacing.any isBreak⟩
          else plainFrom flow indent start n next out spacing

/-- A plain text; `indent` is the number of columns that its further lines need. -/
def readPlain (flow : Bool) (indent : Nat) (cur : Cursor) : Except Problem PlainText :=
  plainFrom flow indent cur.mark (cur.rest.length + 1) cur [] []

/-! ## Block -/

/-- What becomes of the line ends at the end of a block text. -/
inductive Chomping where
  | strip
  | clip
  | keep
  deriving DecidableEq, Repr

/-- What the first line of a block text tells: the chomping and the indentation, if given. -/
structure BlockHeader where
  /-- What becomes of the last line ends. -/
  chomping : Chomping := .clip
  increment : Option Nat := none

/-- The chomping that a character stands for. -/
def chomping? : Char → Option Chomping
  | '+' => some .keep
  | '-' => some .strip
  | _ => none

/-- The marks after the sign of a block text, and the place after them. -/
def readBlockHeader (start : Mark) (cur : Cursor) : Except Problem (BlockHeader × Cursor) :=
  let digit? (cur : Cursor) : Except Problem (Option Nat) :=
    match cur.peek 0 with
    | some c =>
      if c == '0' then cur.fail .zeroIndentation .blockScalar start
      else if c.isDigit then .ok (some (c.toNat - 48))
      else .ok none
    | none => .ok none
  match (cur.peek 0).bind chomping? with
  | some chomping => do
    let next := cur.drop 1
    match ← digit? next with
    | some n => return ({ chomping, increment := some n }, next.drop 1)
    | none => return ({ chomping }, next)
  | none => do
    match ← digit? cur with
    | some n =>
      let next := cur.drop 1
      match (next.peek 0).bind chomping? with
      | some chomping => return ({ chomping, increment := some n }, next.drop 1)
      | none => return ({ increment := some n }, next)
    | none => return ({}, cur)

/-- Past the indentation and the empty lines ahead: the line ends, the place, and the largest
column reached. As long as the indentation is not known it has no limit. -/
def skipEmptyLines (indent : Option Nat) (start : Mark) :
    Nat → Cursor → List Char → Nat → Except Problem (List Char × Cursor × Nat)
  | 0, cur, breaks, reached => .ok (breaks.reverse, cur, reached)
  | n + 1, cur, breaks, reached =>
    let spaces := (cur.ahead (· == ' ')).length
    let allowed := match indent with
      | some i => min spaces (i - cur.mark.column)
      | none => spaces
    let next := cur.drop allowed
    let reached := max reached next.mark.column
    let inside := match indent with
      | some i => next.mark.column < i
      | none => true
    if inside && next.looksAt 0 '\t' then next.fail .tabInBlockText .blockScalar start
    else
      match next.rest with
      | c :: _ =>
        if isBreak c then skipEmptyLines indent start n (next.drop 1) (c :: breaks) reached
        else .ok (breaks.reverse, next, reached)
      | [] => .ok (breaks.reverse, next, reached)

/-- What has been read of a block text. -/
structure BlockText where
  /-- The text, backwards, up to the end of the last line. -/
  out : List Char := []
  /-- The end of that line. -/
  leading : List Char := []
  /-- The ends of the empty lines after it. -/
  trailing : List Char := []
  /-- Whether that line begins with a blank. -/
  blank : Bool := false

/-- The text with the line ends before the next line, which begins with a blank or not. -/
def BlockText.joined (text : BlockText) (style : ScalarStyle) (blank : Bool) : List Char :=
  let between :=
    if style == .folded && text.leading == ['\n'] && !text.blank && !blank then
      if text.trailing.isEmpty then [' '] else []
    else text.leading
  text.trailing.reverse ++ between.reverse ++ text.out

/-- The lines of a block text indented by `indent` columns. -/
def blockFrom (style : ScalarStyle) (indent : Nat) (start : Mark) :
    Nat → Cursor → BlockText → Except Problem (BlockText × Cursor)
  | 0, cur, text => .ok (text, cur)
  | n + 1, cur, text =>
    if cur.mark.column != indent || cur.atEnd then .ok (text, cur)
    else
      let blank := (cur.peek 0).any isBlank
      let line := cur.ahead (!isBreak ·)
      let atBreak := cur.drop line.length
      let leading := atBreak.rest.take 1
      match skipEmptyLines (some indent) start (cur.rest.length + 1) (atBreak.drop 1) [] 0 with
      | .error problem => .error problem
      | .ok (trailing, next, _) =>
        blockFrom style indent start n next
          { out := line.reverse ++ text.joined style blank, leading, trailing, blank }

/-- A block text; `outer` is the number of columns by which its surroundings are indented, or
none outside of any. -/
def readBlock (style : ScalarStyle) (outer : Option Nat) (cur : Cursor) :
    Except Problem (List Char × Cursor) := do
  let start := cur.mark
  let (header, marked) ← readBlockHeader start (cur.drop 1)
  let bare := marked.skipComment
  if !bare.atLineEnd then bare.fail .missingLineEnd .blockScalar start
  let body := bare.drop 1
  let given := header.increment.map (· + outer.getD 0)
  let (trailing, first, reached) ← skipEmptyLines given start (cur.rest.length + 1) body [] 0
  let least := match outer with
    | some n => n + 1
    | none => 1
  let indent := given.getD (max reached least)
  let (text, next) ← blockFrom style indent start (cur.rest.length + 1) first { trailing }
  let kept := match header.chomping with
    | .strip => []
    | .clip => text.leading
    | .keep => text.leading ++ text.trailing
  return (text.out.reverse ++ kept, next)

end Yaml
end DocModel
