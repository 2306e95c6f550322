import DocModel.Yaml.Tag

/-!
# DocModel.Yaml.Token

The tokens of a YAML document, and the state in which the next one is read: the open indentations
and the places that may still turn out to be keys.

A key on one line is known only when its colon is seen. Its place is kept as a `SimpleKey`; the
colon puts the tokens for it in front of what has been read since. So tokens wait in a queue until
no key can come before them.
-/

namespace DocModel
namespace Yaml

/-- What a token is. -/
inductive TokenKind where
  /-- The end of the text. -/
  | streamEnd
  | directive (d : Directive)
  /-- The mark before a document. -/
  | documentStart
  /-- The mark after a document. -/
  | documentEnd
  /-- A sequence in block style begins. -/
  | blockSequenceStart
  /-- A mapping in block style begins. -/
  | blockMappingStart
  /-- A sequence or mapping in block style ends. -/
  | blockEnd
  | flowSequenceStart
  | flowSequenceEnd
  | flowMappingStart
  | flowMappingEnd
  /-- The hyphen of an entry. -/
  | blockEntry
  | flowEntry
  | key
  | value
  /-- A reference to a value. -/
  | reference (name : List Char)
  /-- A name for a value. -/
  | anchor (name : List Char)
  | tag (t : Tag)
  | scalar (text : List Char) (style : ScalarStyle)

/-- A token with the places where it begins and ends. -/
structure Token where
  kind : TokenKind
  start : Mark
  stop : Mark

/-- A place that may be a key. -/
structure SimpleKey where
  required : Bool
  /-- How many tokens come before it. -/
  number : Nat
  mark : Mark

/-- How far the reading of tokens has come. -/
structure Scanner where
  cur : Cursor
  /-- How many tokens have left the queue. -/
  taken : Nat := 0
  queue : List Token := []
  /-- The columns of the open collections in block style, innermost first. -/
  indents : List Nat := []
  /-- For the text as a whole and for each open bracket, innermost first, what may be a key. -/
  keys : List (Option SimpleKey) := [none]
  /-- Whether a key may begin here. -/
  keyAllowed : Bool := true
  /-- Whether the end of the text has been read. -/
  ended : Bool := false

namespace Scanner

/-- Whether the place is outside of all brackets. -/
def inBlock (s : Scanner) : Bool := s.keys.length ≤ 1

/-- The column of the innermost collection in block style. -/
def indent? (s : Scanner) : Option Nat := s.indents.head?

/-- Whether a column is further to the right than the innermost collection. -/
def isInside (s : Scanner) (column : Nat) : Bool :=
  match s.indent? with
  | some i => i < column
  | none => true

/-- What may be a key at the innermost level. -/
def key? (s : Scanner) : Option SimpleKey := (s.keys.head?).join

/-- The same state with a key at the innermost level or none. -/
def setKey (s : Scanner) (key : Option SimpleKey) : Scanner :=
  { s with keys := key :: s.keys.tail }

/-- The number of the next token. -/
def nextNumber (s : Scanner) : Nat := s.taken + s.queue.length

/-- A token at the end of the queue. -/
def push (s : Scanner) (kind : TokenKind) (start stop : Mark) : Scanner :=
  { s with queue := s.queue ++ [{ kind, start, stop }] }

/-- A token at its number in the queue. -/
def insertAt (s : Scanner) (number : Nat) (kind : TokenKind) (mark : Mark) : Scanner :=
  let before := number - s.taken
  { s with queue := s.queue.take before ++ { kind, start := mark, stop := mark } ::
    s.queue.drop before }

/-- A collection in block style opened at a column, unless the innermost one is there already. -/
def rollIndent (s : Scanner) (column number : Nat) (kind : TokenKind) (mark : Mark) : Scanner :=
  if s.inBlock && s.isInside column then
    { s with indents := column :: s.indents }.insertAt number kind mark
  else s

/-- The ends of the given collections that do not reach the column of `mark`. -/
def closedIndents (column : Option Nat) (mark : Mark) : List Nat → List Token × List Nat
  | [] => ([], [])
  | i :: outer =>
    if column.all (· < i) then
      let (tokens, rest) := closedIndents column mark outer
      ({ kind := .blockEnd, start := mark, stop := mark } :: tokens, rest)
    else ([], i :: outer)

/-- The collections in block style closed that are further to the right than a column; all of them
without a column. -/
def unrollIndent (s : Scanner) (column : Option Nat) : Scanner :=
  if s.inBlock then
    let (tokens, indents) := closedIndents column s.cur.mark s.indents
    { s with queue := s.queue ++ tokens, indents }
  else s

/-- A key that has to be one and is not. -/
def missingColon {α : Type} (s : Scanner) (key : SimpleKey) : Except Problem α :=
  s.cur.fail .missingColon .simpleKey key.mark

/-- No key any more at the innermost level. -/
def removeKey (s : Scanner) : Except Problem Scanner :=
  match s.key? with
  | some key => if key.required then s.missingColon key else .ok (s.setKey none)
  | none => .ok s

/-- The place here kept as a possible key. -/
def saveKey (s : Scanner) : Except Problem Scanner :=
  if s.keyAllowed then do
    let s ← s.removeKey
    let mark := s.cur.mark
    let required := s.inBlock && s.indent? == some mark.column
    return s.setKey (some { required, number := s.nextNumber, mark })
  else .ok s

/-- Whether a key can no longer have its colon here: it is on one line and not too long. -/
def SimpleKey.isStale (key : SimpleKey) (mark : Mark) : Bool :=
  key.mark.line < mark.line || key.mark.column + 1024 < mark.column

/-- The keys that still may have their colon. -/
def freshKeys (s : Scanner) : List (Option SimpleKey) → Except Problem (List (Option SimpleKey))
  | [] => .ok []
  | none :: rest => do return none :: (← freshKeys s rest)
  | some key :: rest => do
    let rest ← freshKeys s rest
    if SimpleKey.isStale key s.cur.mark then
      if key.required then s.missingColon key else return none :: rest
    else return some key :: rest

/-- The state without the keys that can no longer have their colon. -/
def dropStaleKeys (s : Scanner) : Except Problem Scanner := do
  return { s with keys := ← s.freshKeys s.keys }

/-- Past spaces, comments and line ends. A tab counts as a space where no key may begin; a new
line outside of brackets may begin a key. -/
def skipToToken : Nat → Scanner → Scanner
  | 0, s => s
  | n + 1, s =>
    let tabs := !s.inBlock || !s.keyAllowed
    let blank := s.cur.skipWhile fun c => c == ' ' || (tabs && c == '\t')
    let bare := if blank.looksAt 0 '#' then blank.skipWhile (!isBreak ·) else blank
    if (bare.peek 0).any isBreak then
      skipToToken n { s with cur := bare.drop 1, keyAllowed := s.keyAllowed || s.inBlock }
    else { s with cur := bare }

/-- A token of `length` characters. -/
def take (s : Scanner) (length : Nat) (kind : TokenKind) : Scanner :=
  let next := s.cur.drop length
  { s.push kind s.cur.mark next.mark with cur := next }

/-- A fault here that belongs to nothing larger. -/
def misplaced {α : Type} (s : Scanner) (fault : Fault) : Except Problem α :=
  .error { fault, mark := s.cur.mark }

/-- A state in which a key may begin or not. -/
def allowKey (s : Scanner) (allowed : Bool) : Scanner := { s with keyAllowed := allowed }

def readEnd (s : Scanner) : Except Problem Scanner := do
  let mark := s.cur.mark
  let mark := if mark.column == 0 then mark else { line := mark.line + 1 }
  let s := { s with cur := { s.cur with mark } }.unrollIndent none
  let s ← s.removeKey
  return { (s.allowKey false).push .streamEnd mark mark with ended := true }

def readDirectiveLine (s : Scanner) : Except Problem Scanner := do
  let s ← (s.unrollIndent none).removeKey
  let (directive, stop, next) ← readDirective s.cur
  return { (s.allowKey false).push (.directive directive) s.cur.mark stop with cur := next }

def readDocumentMark (s : Scanner) (kind : TokenKind) : Except Problem Scanner := do
  let s ← (s.unrollIndent none).removeKey
  return (s.allowKey false).take 3 kind

def openFlow (s : Scanner) (kind : TokenKind) : Except Problem Scanner := do
  let s ← s.saveKey
  return ({ s with keys := none :: s.keys }.allowKey true).take 1 kind

def closeFlow (s : Scanner) (kind : TokenKind) : Except Problem Scanner := do
  let s ← s.removeKey
  let keys := if s.inBlock then s.keys else s.keys.tail
  return ({ s with keys }.allowKey false).take 1 kind

def readFlowEntry (s : Scanner) : Except Problem Scanner := do
  return ((← s.removeKey).allowKey true).take 1 .flowEntry

def readBlockEntry (s : Scanner) : Except Problem Scanner :=
  if s.inBlock && !s.keyAllowed then s.misplaced .misplacedEntry
  else do
    let mark := s.cur.mark
    let s := s.rollIndent mark.column s.nextNumber .blockSequenceStart mark
    return ((← s.removeKey).allowKey true).take 1 .blockEntry

/-- The question mark of a key. -/
def readKey (s : Scanner) : Except Problem Scanner :=
  if s.inBlock && !s.keyAllowed then s.misplaced .misplacedKey
  else do
    let mark := s.cur.mark
    let s := s.rollIndent mark.column s.nextNumber .blockMappingStart mark
    let s ← s.removeKey
    return (s.allowKey s.inBlock).take 1 .key

def readValue (s : Scanner) : Except Problem Scanner :=
  match s.key? with
  | some key =>
    let s := s.insertAt key.number .key key.mark
    let s := s.rollIndent key.mark.column key.number .blockMappingStart key.mark
    .ok (((s.setKey none).allowKey false).take 1 .value)
  | none =>
    if s.inBlock && !s.keyAllowed then s.misplaced .misplacedValue
    else
      let mark := s.cur.mark
      let s := s.rollIndent mark.column s.nextNumber .blockMappingStart mark
      .ok ((s.allowKey s.inBlock).take 1 .value)

/-- A token read by `read`, which may be a key. -/
def readInLine {α : Type} (s : Scanner) (read : Cursor → Except Problem (α × Cursor))
    (kind : α → TokenKind) : Except Problem Scanner := do
  let s ← s.saveKey
  let (value, next) ← read s.cur
  return { (s.allowKey false).push (kind value) s.cur.mark next.mark with cur := next }

def readBlockScalar (s : Scanner) (style : ScalarStyle) : Except Problem Scanner := do
  let s ← s.removeKey
  let (text, next) ← readBlock style s.indent? s.cur
  return { (s.allowKey true).push (.scalar text style) s.cur.mark next.mark with cur := next }

/-- A plain text. After a line end a key may begin. -/
def readPlainScalar (s : Scanner) : Except Problem Scanner := do
  let s ← s.saveKey
  let indent := match s.indent? with
    | some i => i + 1
    | none => 0
  let plain ← readPlain (!s.inBlock) indent s.cur
  return { (s.allowKey plain.endsLine).push (.scalar plain.text .plain) s.cur.mark plain.cur.mark
    with cur := plain.cur }

/-- Whether a plain text may begin here. -/
def beginsPlain (s : Scanner) : Bool :=
  match s.cur.peek 0 with
  | none => false
  | some c =>
    (!isSpacing c && !"-?:,[]\x7b\x7d#&*!|>'\"%@\x60".toList.contains c)
      || (c == '-' && !(s.cur.peek 1).any isBlank)
      || (s.inBlock && (c == '?' || c == ':') && !s.cur.spacingAt 1)

/-- One more token at the end of the queue, with what comes before it. -/
def readToken (s : Scanner) : Except Problem Scanner := do
  let s ← (skipToToken (s.cur.rest.length + 1) s).dropStaleKeys
  let s := s.unrollIndent (some s.cur.mark.column)
  let flow := !s.inBlock
  match s.cur.peek 0 with
  | none => s.readEnd
  | some c =>
    if s.cur.mark.column == 0 && c == '%' then s.readDirectiveLine
    else if s.cur.atTriple '-' then s.readDocumentMark .documentStart
    else if s.cur.atTriple '.' then s.readDocumentMark .documentEnd
    else if c == '[' then s.openFlow .flowSequenceStart
    else if c == '\x7b' then s.openFlow .flowMappingStart
    else if c == ']' then s.closeFlow .flowSequenceEnd
    else if c == '\x7d' then s.closeFlow .flowMappingEnd
    else if c == ',' then s.readFlowEntry
    else if c == '-' && s.cur.spacingAt 1 then s.readBlockEntry
    else if c == '?' && (flow || s.cur.spacingAt 1) then s.readKey
    else if c == ':' && (flow || s.cur.spacingAt 1) then s.readValue
    else if c == '*' then s.readInLine (readAnchor .reference) .reference
    else if c == '&' then s.readInLine (readAnchor .anchor) .anchor
    else if c == '!' then s.readInLine (readTag flow) .tag
    else if c == '|' && !flow then s.readBlockScalar .literal
    else if c == '>' && !flow then s.readBlockScalar .folded
    else if c == '\'' then s.readInLine (readQuoted true) (.scalar · .singleQuoted)
    else if c == '"' then s.readInLine (readQuoted false) (.scalar · .doubleQuoted)
    else if s.beginsPlain then s.readPlainScalar
    else s.cur.fail .noToken .nextToken s.cur.mark

/-- How many tokens of the queue no key can come before: those before the first possible key. -/
def settledCount (s : Scanner) : Nat :=
  let numbers := s.keys.filterMap fun key => key.map (·.number - s.taken)
  numbers.foldl min s.queue.length

end Scanner

/-- Tokens up to the end of a text or up to a problem. -/
structure TokenStream where
  tokens : List Token
  /-- What is wrong after them, if anything. -/
  problem : Option Problem

/-- A token in front of a stream. -/
def TokenStream.after (before : List Token) (stream : TokenStream) : TokenStream :=
  { stream with tokens := before ++ stream.tokens }

/-- The tokens from a state on; every turn reads at least one. -/
def TokenStream.fromState : Nat → Scanner → TokenStream
  | 0, s => { tokens := s.queue, problem := none }
  | n + 1, s =>
    match s.dropStaleKeys with
    | .error problem => { tokens := [], problem := some problem }
    | .ok s =>
      let count := s.settledCount
      let next := { s with taken := s.taken + count, queue := s.queue.drop count }
      let rest : TokenStream :=
        if s.ended then { tokens := next.queue, problem := none }
        else
          match next.readToken with
          | .error problem => { tokens := [], problem := some problem }
          | .ok more => fromState n more
      rest.after (s.queue.take count)

def TokenStream.ofText (text : List Char) : TokenStream :=
  match Cursor.ofText text with
  | .error problem => { tokens := [], problem := some problem }
  | .ok cur => fromState (cur.rest.length + 2) { cur }

end Yaml
end DocModel
