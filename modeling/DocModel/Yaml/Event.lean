import DocModel.Yaml.Token

/-!
# DocModel.Yaml.Event

The structure of a YAML document as a sequence of events: texts, references, and the beginnings
and ends of sequences and mappings. An event keeps the place where it begins, with its anchor and
tag.

What is expected next is a stack of goals. Each goal looks at the next token and produces one
event, in most cases, and the goals that replace it.
-/

namespace DocModel
namespace Yaml

/-- What an event is. -/
inductive EventKind where
  | documentStart
  | documentEnd
  | streamEnd
  /-- A reference to a value. -/
  | reference (name : List Char)
  | scalar (anchor tag : Option (List Char)) (text : List Char) (style : ScalarStyle)
  | sequenceStart (anchor : Option (List Char))
  | sequenceEnd
  | mappingStart (anchor : Option (List Char))
  | mappingEnd

/-- An event with its place. -/
structure Event where
  kind : EventKind
  mark : Mark

/-- What is expected next. -/
inductive Goal where
  /-- A document, or the end; `implicit` if it needs no mark. -/
  | documentStart (implicit : Bool)
  /-- The content of a document after its mark. -/
  | documentContent
  | documentEnd
  /-- A value in block style; its sequence may be as far to the left as its key. -/
  | blockNode (indentless : Bool)
  | flowNode
  /-- An entry, or the end, of a sequence that begins at a place. -/
  | blockEntry (start : Mark)
  /-- An entry, or the end, of a sequence without an indentation of its own. -/
  | indentlessEntry
  /-- A key, or the end, of a mapping that begins at a place. -/
  | blockKey (start : Mark)
  /-- The value of a key. -/
  | blockValue
  /-- An entry, or the end, of a sequence in brackets. -/
  | flowEntry (first : Bool) (start : Mark)
  /-- The key of a mapping that is itself an entry in square brackets. -/
  | pairKey
  | pairValue
  | pairEnd
  /-- A key, or the end, of a mapping in braces. -/
  | flowKey (first : Bool) (start : Mark)
  /-- The value of a key in braces. -/
  | flowValue
  /-- The value of a key in braces that has none. -/
  | noFlowValue

/-- How far the reading of events has come. -/
structure Reader where
  /-- The tokens that follow, and the problem after them. -/
  stream : TokenStream
  /-- What is expected, the next thing first. -/
  goals : List Goal := [.documentStart true]
  /-- What the tag handles of the document stand for. -/
  handles : List (List Char × List Char) := []

namespace Reader

/-- The next token. The last one stays. -/
def peek (r : Reader) : Except Problem Token :=
  match r.stream.tokens with
  | token :: _ => .ok token
  | [] =>
    match r.stream.problem with
    | some problem => .error problem
    | none => .ok { kind := .streamEnd, start := {}, stop := {} }

def skip (r : Reader) : Reader :=
  { r with stream := { r.stream with tokens := r.stream.tokens.drop 1 } }

/-- The same reader with other goals. -/
def expect (r : Reader) (goals : List Goal) : Reader := { r with goals }

def emit (r : Reader) (kind : EventKind) (mark : Mark) : Except Problem (Event × Reader) :=
  .ok ({ kind, mark }, r)

/-- An empty text at a place. -/
def emitEmpty (r : Reader) (mark : Mark) : Except Problem (Event × Reader) :=
  r.emit (.scalar none none [] .plain) mark

/-- Gives up at a token inside something that begins at `start`. -/
def fail {α : Type} (token : Token) (fault : Fault) (context : Context) (start : Mark) :
    Except Problem α :=
  .error { fault, mark := token.start, context := some (context, start) }

/-- What the tag handles stand for without a directive. -/
def usualHandles : List (List Char × List Char) :=
  [(['!'], ['!']), (['!', '!'], "tag:yaml.org,2002:".toList)]

/-- The directives in front of a document; `version` tells whether there was one for it. -/
def readDirectives : Nat → Bool → Reader → Except Problem Reader
  | 0, _, r => .ok r
  | n + 1, version, r => do
    let token ← r.peek
    match token.kind with
    | .directive (.version major minor) =>
      if version then .error { fault := .duplicateVersion, mark := token.start }
      else if major != 1 || (minor != 1 && minor != 2) then
        .error { fault := .incompatibleVersion, mark := token.start }
      else readDirectives n true r.skip
    | .directive (.tag handle meaning) =>
      if r.handles.any (·.1 == handle) then
        .error { fault := .duplicateTagHandle, mark := token.start }
      else readDirectives n version { r.skip with handles := r.handles ++ [(handle, meaning)] }
    | _ => .ok r

def skipDocumentEnds : Nat → Reader → Except Problem Reader
  | 0, r => .ok r
  | n + 1, r => do
    match (← r.peek).kind with
    | .documentEnd => skipDocumentEnds n r.skip
    | _ => .ok r

/-- The beginning of a document, or the end of the text. -/
def startDocument (r : Reader) (implicit : Bool) : Except Problem (Event × Reader) := do
  let size := r.stream.tokens.length + 1
  let r ← if implicit then pure r else skipDocumentEnds size r
  let token ← r.peek
  let explicit (r : Reader) : Except Problem (Event × Reader) := do
    let r ← readDirectives size false { r with handles := [] }
    let mark ← r.peek
    match mark.kind with
    | .documentStart =>
      (r.skip.expect [.documentContent, .documentEnd]).emit .documentStart token.start
    | _ => .error { fault := .missingDocumentStart, mark := mark.start }
  match token.kind with
  | .streamEnd => (r.skip.expect []).emit .streamEnd token.start
  | .directive _ => explicit r
  | .documentStart => explicit r
  | _ =>
    if implicit then
      ({ r with handles := [] }.expect [.blockNode false, .documentEnd]).emit
        .documentStart token.start
    else explicit r

/-- A tag with its handle replaced by what it stands for. -/
def resolveTag (r : Reader) (tag : Tag) (tagMark start : Mark) : Except Problem (List Char) :=
  if tag.handle.isEmpty then .ok tag.name
  else
    match (r.handles ++ usualHandles).lookup tag.handle with
    | some meaning => .ok (meaning ++ tag.name)
    | none =>
      .error { fault := .undefinedTagHandle, mark := tagMark, context := some (.node, start) }

/-- The anchor and the tag in front of a value, in either order, and where they begin. -/
structure Properties where
  anchor : Option (List Char) := none
  /-- The tag, and where it is. -/
  tag : Option (Tag × Mark) := none
  /-- Where the first of them is. -/
  start : Option Mark := none

/-- The anchor and the tag in front of a value. -/
def readProperties : Nat → Properties → Reader → Except Problem (Properties × Reader)
  | 0, p, r => .ok (p, r)
  | n + 1, p, r => do
    let token ← r.peek
    let start := some (p.start.getD token.start)
    match token.kind, p.anchor, p.tag with
    | .anchor name, none, _ => readProperties n { p with anchor := some name, start } r.skip
    | .tag t, _, none => readProperties n { p with tag := some (t, token.start), start } r.skip
    | _, _, _ => .ok (p, r)

/-- A value; `block` if it may be in block style, and `rest` are the goals after it. -/
def readNode (r : Reader) (block indentless : Bool) (rest : List Goal) :
    Except Problem (Event × Reader) := do
  let first ← r.peek
  match first.kind with
  | .reference name => (r.skip.expect rest).emit (.reference name) first.start
  | _ =>
    let (properties, r) ← readProperties 2 {} r
    let start := properties.start.getD first.start
    let tag ← match properties.tag with
      | some (tag, mark) => (r.resolveTag tag mark start).map some
      | none => pure none
    let anchor := properties.anchor
    let token ← r.peek
    let opened (kind : EventKind) (goal : Goal) := (r.skip.expect (goal :: rest)).emit kind start
    match token.kind with
    | .scalar text style => (r.skip.expect rest).emit (.scalar anchor tag text style) start
    | .flowSequenceStart => opened (.sequenceStart anchor) (.flowEntry true token.start)
    | .flowMappingStart => opened (.mappingStart anchor) (.flowKey true token.start)
    | kind =>
      match block, indentless, kind with
      | _, true, .blockEntry =>
        (r.expect (.indentlessEntry :: rest)).emit (.sequenceStart anchor) start
      | true, _, .blockSequenceStart => opened (.sequenceStart anchor) (.blockEntry token.start)
      | true, _, .blockMappingStart => opened (.mappingStart anchor) (.blockKey token.start)
      | _, _, _ =>
        if anchor.isSome || tag.isSome then
          (r.expect rest).emit (.scalar anchor tag [] .plain) start
        else fail token .missingNode (if block then .blockNode else .flowNode) start

/-- Whether a token cannot begin a value in block style after a key or a colon. -/
def endsBlockItem : TokenKind → Bool
  | .key | .value | .blockEnd => true
  | _ => false

/-- Whether a token cannot begin a value after an entry's hyphen. -/
def endsBlockEntry : TokenKind → Bool
  | .blockEntry | .blockEnd => true
  | _ => false

/-- Whether a token cannot begin a value after a hyphen without indentation. -/
def endsIndentlessEntry : TokenKind → Bool
  | .blockEntry | .key | .value | .blockEnd => true
  | _ => false

/-- Whether a token ends an item in square brackets. -/
def endsFlowEntry : TokenKind → Bool
  | .flowEntry | .flowSequenceEnd => true
  | _ => false

/-- Whether a token ends an item in braces. -/
def endsFlowItem : TokenKind → Bool
  | .flowEntry | .flowMappingEnd => true
  | _ => false

/-- The next event for the first goal; `rest` are the goals after it. -/
def step (r : Reader) (goal : Goal) (rest : List Goal) : Except Problem (Event × Reader) := do
  match goal with
  | .documentStart implicit => r.startDocument implicit
  | .documentContent =>
    let token ← r.peek
    match token.kind with
    | .directive _ | .documentStart | .documentEnd | .streamEnd =>
      (r.expect rest).emitEmpty token.start
    | _ => r.readNode true false rest
  | .documentEnd =>
    let token ← r.peek
    let r := match token.kind with
      | .documentEnd => r.skip
      | _ => r
    ({ r with handles := [] }.expect [.documentStart false]).emit .documentEnd token.start
  | .blockNode indentless => r.readNode true indentless rest
  | .flowNode => r.readNode false false rest
  | .blockEntry start =>
    let token ← r.peek
    match token.kind with
    | .blockEntry =>
      let r := r.skip
      if endsBlockEntry (← r.peek).kind then (r.expect (goal :: rest)).emitEmpty token.stop
      else r.readNode true false (goal :: rest)
    | .blockEnd => (r.skip.expect rest).emit .sequenceEnd token.start
    | _ => fail token .missingEntry .blockSequence start
  | .indentlessEntry =>
    let token ← r.peek
    match token.kind with
    | .blockEntry =>
      let r := r.skip
      if endsIndentlessEntry (← r.peek).kind then (r.expect (goal :: rest)).emitEmpty token.stop
      else r.readNode true false (goal :: rest)
    | _ => (r.expect rest).emit .sequenceEnd token.start
  | .blockKey start =>
    let token ← r.peek
    match token.kind with
    | .key =>
      let r := r.skip
      let rest := .blockValue :: goal :: rest
      if endsBlockItem (← r.peek).kind then (r.expect rest).emitEmpty token.stop
      else r.readNode true true rest
    | .blockEnd => (r.skip.expect rest).emit .mappingEnd token.start
    | _ => fail token .missingKey .blockMapping start
  | .blockValue =>
    let token ← r.peek
    match token.kind with
    | .value =>
      let r := r.skip
      if endsBlockItem (← r.peek).kind then (r.expect rest).emitEmpty token.stop
      else r.readNode true true rest
    | _ => (r.expect rest).emitEmpty token.start
  | .flowEntry first start =>
    let next ← r.peek
    let r ← match first, next.kind with
      | _, .flowSequenceEnd => pure r
      | true, _ => pure r
      | false, .flowEntry => pure r.skip
      | false, _ => fail next .missingSequenceEnd .flowSequence start
    let token ← r.peek
    let more := Goal.flowEntry false start :: rest
    match token.kind with
    | .flowSequenceEnd => (r.skip.expect rest).emit .sequenceEnd token.start
    | .key =>
      (r.skip.expect (.pairKey :: .pairValue :: .pairEnd :: more)).emit (.mappingStart none)
        token.start
    | _ => r.readNode false false more
  | .pairKey =>
    let token ← r.peek
    match token.kind with
    | .value | .flowEntry | .flowSequenceEnd => (r.skip.expect rest).emitEmpty token.stop
    | _ => r.readNode false false rest
  | .pairValue =>
    let token ← r.peek
    match token.kind with
    | .value =>
      let r := r.skip
      let next ← r.peek
      if endsFlowEntry next.kind then (r.expect rest).emitEmpty next.start
      else r.readNode false false rest
    | _ => (r.expect rest).emitEmpty token.start
  | .pairEnd =>
    let token ← r.peek
    (r.expect rest).emit .mappingEnd token.start
  | .flowKey first start =>
    let next ← r.peek
    let r ← match first, next.kind with
      | _, .flowMappingEnd => pure r
      | true, _ => pure r
      | false, .flowEntry => pure r.skip
      | false, _ => fail next .missingMappingEnd .flowMapping start
    let token ← r.peek
    let more := Goal.flowKey false start :: rest
    match token.kind with
    | .flowMappingEnd => (r.skip.expect rest).emit .mappingEnd token.start
    | .key =>
      let r := r.skip
      let next ← r.peek
      match next.kind with
      | .value | .flowEntry | .flowMappingEnd =>
        (r.expect (.flowValue :: more)).emitEmpty next.start
      | _ => r.readNode false false (.flowValue :: more)
    | _ => r.readNode false false (.noFlowValue :: more)
  | .flowValue =>
    let token ← r.peek
    match token.kind with
    | .value =>
      let r := r.skip
      let next ← r.peek
      if endsFlowItem next.kind then (r.expect rest).emitEmpty next.start
      else r.readNode false false rest
    | _ => (r.expect rest).emitEmpty token.start
  | .noFlowValue =>
    let token ← r.peek
    (r.expect rest).emitEmpty token.start

end Reader

/-- Events up to the end of a text or up to a problem. -/
structure EventStream where
  events : List Event
  /-- What is wrong after them, if anything. -/
  problem : Option Problem

/-- At most `n` events of a reader. -/
def EventStream.fromReader : Nat → Reader → EventStream
  | 0, _ => { events := [], problem := none }
  | n + 1, r =>
    match r.goals with
    | [] => { events := [], problem := none }
    | goal :: rest =>
      match r.step goal rest with
      | .error problem => { events := [], problem := some problem }
      | .ok (event, next) =>
        let stream := fromReader n next
        { stream with events := event :: stream.events }

/-- The events of a text. A token leads to a few events at most, and an event without a token is
followed by one with it. -/
def EventStream.ofText (text : List Char) : EventStream :=
  let stream := TokenStream.ofText text
  fromReader (8 * stream.tokens.length + 16) { stream }

end Yaml
end DocModel
