import DocModel.Toml.Draft
import DocModel.Toml.Text

/-!
# DocModel.Toml.Document

A TOML document: values for names, one on a line, in the table of the last header. `parse` gives the
table of the whole document, or nothing if it is malformed.

Lists and tables inside lines are nested less than eighty deep.
-/

namespace DocModel
namespace Toml

/-- Whether a character may stand in a name without quotes. -/
def isBareNamePart (c : Char) : Bool := c.isAlphanum || c == '_' || c == '-'

/-- One part of a name, and what follows it. -/
def readSimpleName? (text : List Char) : Option (String × List Char) :=
  match text with
  | '"' :: rest => lineFrom '"' (rest.length + 1) [] rest
  | '\'' :: rest => lineFrom '\'' (rest.length + 1) [] rest
  | _ =>
    let bare := text.takeWhile isBareNamePart
    if bare.isEmpty then none else some (String.ofList bare, text.drop bare.length)

/-- A name of parts with dots between them, and what follows it; at most `fuel` parts. -/
def readName? : Nat → List Char → Option (List String × List Char)
  | 0, _ => none
  | fuel + 1, text =>
    match readSimpleName? (skipBlanks text) with
    | none => none
    | some (part, rest) =>
      match skipBlanks rest with
      | '.' :: more => (readName? fuel more).map fun (parts, after) => (part :: parts, after)
      | after => some ([part], after)

/-- How deep values are nested at most, and how many parts a name has. -/
def depthLimit : Nat := 79

/-- What follows a comment, if there is one. -/
def skipComment : List Char → List Char
  | '#' :: rest => rest.dropWhile isPlain
  | rest => rest

/-- What follows spacing, line ends and comments inside a list; at most `fuel` comments. -/
def skipSpacing : Nat → List Char → List Char
  | 0, text => text
  | fuel + 1, text =>
    match skipLines text with
    | '#' :: rest =>
      let after := rest.dropWhile isPlain
      if (afterLineEnd? after).isSome then skipSpacing fuel after else after
    | rest => rest

mutual

/-- A value inside of `depth` others, and what follows it. -/
def readValue? : Nat → Nat → List Char → Option (Value × List Char)
  | 0, _, _ => none
  | fuel + 1, depth, text =>
    match text with
    | '"' :: _ => (readText? text).map fun (s, rest) => (.text s, rest)
    | '\'' :: _ => (readText? text).map fun (s, rest) => (.text s, rest)
    | '[' :: rest =>
      if depth < depthLimit then
        (readItems? fuel (depth + 1) rest).map fun (items, after) => (.list items, after)
      else none
    | '\x7b' :: rest =>
      if depth < depthLimit then
        match skipBlanks rest with
        | '\x7d' :: after => some (.table [], after)
        | _ =>
          (readFields? fuel (depth + 1) .empty rest).map fun (d, after) =>
            (.table d.values, after)
      else none
    | _ =>
      let (word, rest) := splitWord text
      (word? word).map fun v => (v, rest)

/-- The items of a list up to its closing bracket, and what follows that. -/
def readItems? : Nat → Nat → List Char → Option (List Value × List Char)
  | 0, _, _ => none
  | fuel + 1, depth, text =>
    match skipSpacing text.length text with
    | ']' :: after => some ([], after)
    | start =>
      match readValue? fuel depth start with
      | none => none
      | some (v, rest) =>
        match skipSpacing rest.length rest with
        | ']' :: after => some ([v], after)
        | ',' :: more => (readItems? fuel depth more).map fun (vs, after) => (v :: vs, after)
        | _ => none

/-- The fields of a table inside a line up to its closing brace, after those read already, and
what follows the brace. -/
def readFields? : Nat → Nat → Draft → List Char → Option (Draft × List Char)
  | 0, _, _, _ => none
  | fuel + 1, depth, draft, text =>
    match readName? depthLimit text with
    | some (names, '=' :: rest) =>
      match readValue? fuel depth (skipBlanks rest) with
      | none => none
      | some (v, rest) =>
        match draft.put names v, skipBlanks rest with
        | some next, '\x7d' :: after => some (next, after)
        | some next, ',' :: more => readFields? fuel depth next more
        | _, _ => none
    | _ => none

end

/-- What has been read of a document. -/
structure State where
  /-- The table of the document. -/
  draft : Draft := .empty
  /-- The names of the table of the last header. -/
  current : List String := []

/-- A statement: a header or a value for a name; and what follows it. -/
def readStatement? (state : State) (text : List Char) : Option (State × List Char) :=
  match text with
  | '[' :: '[' :: rest =>
    match readName? depthLimit rest with
    | some (names, ']' :: ']' :: after) =>
      (state.draft.openElement names).map fun draft => ({ draft, current := names }, after)
    | _ => none
  | '[' :: rest =>
    match readName? depthLimit rest with
    | some (names, ']' :: after) =>
      (state.draft.openTable names).map fun draft => ({ draft, current := names }, after)
    | _ => none
  | _ =>
    match readName? depthLimit text with
    | some (names, '=' :: rest) =>
      match readValue? (2 * rest.length + 1) 0 (skipBlanks rest) with
      | some (v, after) =>
        (Draft.changeAt false (Draft.put names v) state.current state.draft).map fun draft =>
          ({ state with draft }, after)
      | none => none
    | _ => none

/-- The statements of a text, one on a line; at most `fuel` lines. -/
def readLines? : Nat → State → List Char → Option State
  | 0, _, _ => none
  | fuel + 1, state, text =>
    let start := skipBlanks text
    let isEmptyLine := match start with
      | '#' :: _ => true
      | _ => start.isEmpty || (afterLineEnd? start).isSome
    match if isEmptyLine then some (state, start) else readStatement? state start with
    | none => none
    | some (next, rest) =>
      match skipComment (skipBlanks rest) with
      | [] => some next
      | after =>
        match afterLineEnd? after with
        | some more => readLines? fuel next more
        | none => none

def parse (source : String) : Option (List (String × Value)) :=
  let text := match source.toList with
    | '\ufeff' :: rest => rest
    | text => text
  (readLines? (text.length + 1) {} text).map (·.draft.values)

end Toml
end DocModel
