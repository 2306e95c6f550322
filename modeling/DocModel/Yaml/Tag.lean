import DocModel.Yaml.TextScalar

/-!
# DocModel.Yaml.Tag

Anchors, aliases, tags and directives of a YAML document.

* a tag is a handle and a name, `!handle!name`, or a whole name between angle brackets;
* a name may hold characters as percent signs and the two digits of each byte (`readOctets`);
* a directive gives the version of the document or the meaning of a handle.
-/

namespace DocModel
namespace Yaml

/-- A name, and the place after it, of an anchor or an alias. -/
def readAnchor (context : Context) (cur : Cursor) : Except Problem (List Char × Cursor) :=
  let body := cur.drop 1
  let name := body.ahead isNameChar
  let next := body.drop name.length
  let ends := next.spacingAt 0 || (next.peek 0).any fun c => "?:,]\x7d%@\x60".toList.contains c
  if name.isEmpty || !ends then next.fail .missingAnchorName context cur.mark
  else .ok (name, next)

/-- A character of the name in a tag; `verbatim` between angle brackets and in directives. -/
def isTagChar (verbatim : Bool) (c : Char) : Bool :=
  isNameChar c || ";/?:@&=+$.%!~*'()".toList.contains c || (verbatim && ",[]".toList.contains c)

/-- How many bytes make up a character that begins with this one. -/
def octetCount (octet : Nat) : Nat :=
  if octet < 0x80 then 1
  else if octet < 0xC0 then 0
  else if octet < 0xE0 then 2
  else if octet < 0xF0 then 3
  else if octet < 0xF8 then 4
  else 0

/-- The bits that the first of so many bytes gives to a character. -/
def leadingBits (count octet : Nat) : Nat :=
  match count with
  | 1 => octet
  | 2 => octet % 0x20
  | 3 => octet % 0x10
  | _ => octet % 0x08

/-- The byte that a percent sign and two hexadecimal digits denote. -/
def readOctet (context : Context) (start : Mark) (cur : Cursor) : Except Problem Nat :=
  match cur.rest with
  | '%' :: high :: low :: _ =>
    match hexNumber? [high, low] with
    | some n => .ok n
    | none => cur.fail .missingOctet context start
  | _ => cur.fail .missingOctet context start

/-- The rest of a character, of which `count` bytes are missing. -/
def moreOctets (context : Context) (start : Mark) :
    Nat → Nat → Cursor → Except Problem (Char × Cursor)
  | 0, code, cur => .ok (if code.isValidChar then Char.ofNat code else '\uFFFD', cur)
  | count + 1, code, cur =>
    match readOctet context start cur with
    | .ok octet =>
      if octet / 0x40 != 2 then cur.fail .wrongTrailingOctet context start
      else moreOctets context start count (code * 0x40 + octet % 0x40) (cur.drop 3)
    | .error problem => .error problem

/-- A character written as the numbers of its bytes. -/
def readOctets (context : Context) (start : Mark) (cur : Cursor) :
    Except Problem (Char × Cursor) := do
  let octet ← readOctet context start cur
  match octetCount octet with
  | 0 => cur.fail .wrongLeadingOctet context start
  | count + 1 => moreOctets context start count (leadingBits (count + 1) octet) (cur.drop 3)

/-- The name in a tag, after `out`, which is backwards. -/
def tagNameFrom (verbatim : Bool) (context : Context) (start : Mark) :
    Nat → Cursor → List Char → Except Problem (List Char × Cursor)
  | 0, cur, out => .ok (out.reverse, cur)
  | n + 1, cur, out =>
    match cur.rest with
    | c :: _ =>
      if !isTagChar verbatim c then .ok (out.reverse, cur)
      else if c == '%' then
        match readOctets context start cur with
        | .ok (d, next) => tagNameFrom verbatim context start n next (d :: out)
        | .error problem => .error problem
      else tagNameFrom verbatim context start n (cur.drop 1) (c :: out)
    | [] => .ok (out.reverse, cur)

/-- The name in a tag; without `begun` it is not empty. -/
def readTagName (verbatim : Bool) (context : Context) (start : Mark) (begun : Bool)
    (head : List Char) (cur : Cursor) : Except Problem (List Char × Cursor) :=
  if !begun && !(cur.peek 0).any (isTagChar verbatim) then
    cur.fail .missingTagName context start
  else tagNameFrom verbatim context start cur.rest.length cur head.reverse

/-- An exclamation mark, a name and perhaps another exclamation mark. -/
def readHandle (context : Context) (start : Mark) (cur : Cursor) :
    Except Problem (List Char × Cursor) :=
  if !cur.looksAt 0 '!' then cur.fail .missingExclamation context start
  else
    let body := cur.drop 1
    let name := body.ahead isNameChar
    let next := body.drop name.length
    if next.looksAt 0 '!' then .ok ('!' :: name ++ ['!'], next.drop 1)
    else .ok ('!' :: name, next)

/-- A tag as written: its handle, which may be empty, and its name. -/
structure Tag where
  handle : List Char
  name : List Char

/-- A tag, and the place after it; `flow` inside brackets. -/
def readTag (flow : Bool) (cur : Cursor) : Except Problem (Tag × Cursor) := do
  let start := cur.mark
  let (tag, next) ←
    if cur.looksAt 1 '<' then do
      let (name, next) ← readTagName true .tagName start false [] (cur.drop 2)
      if !next.looksAt 0 '>' then next.fail .missingTagEnd .tag start
      pure (({ handle := [], name } : Tag), next.drop 1)
    else do
      let (handle, body) ← readHandle .tag start cur
      if 1 < handle.length && handle.getLast? == some '!' then
        let (name, next) ← readTagName false .tagName start false [] body
        pure ({ handle, name }, next)
      else
        let (name, next) ← readTagName false .tagName start true (handle.drop 1) body
        pure (if name.isEmpty then { handle := [], name := ['!'] } else { handle := ['!'], name },
          next)
  if (flow && next.looksAt 0 ',') || next.spacingAt 0 then return (tag, next)
  else next.fail .missingTagBreak .tag start

/-- What a directive says. -/
inductive Directive where
  | version (major minor : Nat)
  /-- What a tag handle stands for. -/
  | tag (handle meaning : List Char)

/-- A number of at most nine digits in a version. -/
def readVersionNumber (start : Mark) (cur : Cursor) : Except Problem (Nat × Cursor) :=
  let digits := cur.ahead Char.isDigit
  if digits.isEmpty then cur.fail .missingVersionNumber .version start
  else if 9 < digits.length then (cur.drop 9).fail .longVersionNumber .version start
  else .ok (digits.foldl (fun n c => 10 * n + (c.toNat - 48)) 0, cur.drop digits.length)

/-- The two numbers of a version. -/
def readVersion (start : Mark) (cur : Cursor) : Except Problem (Directive × Cursor) := do
  let (major, point) ← readVersionNumber start (cur.skipWhile isBlank)
  if !point.looksAt 0 '.' then point.fail .missingVersionPoint .version start
  let (minor, next) ← readVersionNumber start (point.drop 1)
  return (.version major minor, next)

/-- A tag handle and what it stands for. -/
def readTagMeaning (start : Mark) (cur : Cursor) : Except Problem (Directive × Cursor) := do
  let (handle, blank) ← readHandle .tagDirectiveHandle start (cur.skipWhile isBlank)
  if 1 < handle.length && handle.getLast? != some '!' then
    blank.fail .missingExclamation .tagDirectiveHandleEnd start
  if !(blank.peek 0).any isBlank then blank.fail .missingBlank .tagDirective start
  let (meaning, next) ←
    readTagName true .tagDirectivePrefix start false [] (blank.skipWhile isBlank)
  if !next.spacingAt 0 then next.fail .missingTagBreak .tagDirective start
  return (.tag handle meaning, next)

/-- A line with a directive, and the place after it. -/
def readDirective (cur : Cursor) : Except Problem (Directive × Mark × Cursor) := do
  let start := cur.mark
  let body := cur.drop 1
  let name := body.ahead isNameChar
  let next := body.drop name.length
  if name.isEmpty then next.fail .missingDirectiveName .directive start
  if !next.spacingAt 0 then next.fail .wrongDirectiveName .directive start
  let (directive, rest) ←
    if name == "YAML".toList then readVersion start next
    else if name == "TAG".toList then readTagMeaning start next
    else next.fail .unknownDirective .directive start
  let bare := rest.skipComment
  if !bare.atLineEnd then bare.fail .missingLineEnd .directive start
  return (directive, rest.mark, bare.drop 1)

end Yaml
end DocModel
