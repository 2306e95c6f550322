import DocModel.Text.Basic

/-!
# DocModel.Toml.Text

The texts of a TOML document. A text stands between double quotes and has escapes, or between
single quotes and has none; three quotes begin and end a text on several lines. A reader gives what
it reads and the rest of the document.
-/

namespace DocModel
namespace Toml

/-- Whether a character may stand as it is in a text or a comment. -/
def isPlain (c : Char) : Bool := c == '\t' || (0x20 ≤ c.toNat && c.toNat != 0x7F)

/-- Whether a character is a space or a tab. -/
def isBlank (c : Char) : Bool := c == ' ' || c == '\t'

def skipBlanks (text : List Char) : List Char := text.dropWhile isBlank

/-- What follows a line end, if there is one. -/
def afterLineEnd? : List Char → Option (List Char)
  | '\n' :: rest => some rest
  | '\r' :: '\n' :: rest => some rest
  | _ => none

/-- What follows spaces, tabs and line ends. -/
def skipLines : List Char → List Char
  | '\r' :: '\n' :: rest => skipLines rest
  | c :: rest => if isBlank c || c == '\n' then skipLines rest else c :: rest
  | [] => []

/-- The value of a hexadecimal digit. -/
def hexValue? (c : Char) : Option Nat :=
  if c.isDigit then some (c.toNat - 48)
  else if 'a' ≤ c && c ≤ 'f' then some (c.toNat - 87)
  else if 'A' ≤ c && c ≤ 'F' then some (c.toNat - 55)
  else none

/-- The number of as many hexadecimal digits, and what follows them. -/
def hexNumber? : Nat → Nat → List Char → Option (Nat × List Char)
  | 0, sofar, rest => some (sofar, rest)
  | n + 1, sofar, c :: rest =>
    match hexValue? c with
    | some v => hexNumber? n (16 * sofar + v) rest
    | none => none
  | _ + 1, _, [] => none

/-- The character of a code with as many hexadecimal digits, and what follows. -/
def codeCharacter? (length : Nat) (text : List Char) : Option (Char × List Char) :=
  match hexNumber? length 0 text with
  | some (n, rest) => if n.isValidChar then some (Char.ofNat n, rest) else none
  | none => none

/-- The character that what follows a backslash stands for, and what comes next. -/
def escape? : List Char → Option (Char × List Char)
  | 'b' :: rest => some ('\x08', rest)
  | 't' :: rest => some ('\t', rest)
  | 'n' :: rest => some ('\n', rest)
  | 'f' :: rest => some ('\x0c', rest)
  | 'r' :: rest => some ('\r', rest)
  | '"' :: rest => some ('"', rest)
  | '\\' :: rest => some ('\\', rest)
  | 'u' :: rest => codeCharacter? 4 rest
  | 'U' :: rest => codeCharacter? 8 rest
  | _ => none

/-- A text on one line up to its closing quote. The text so far is `out`, backwards; every turn
moves on by at least one character. -/
def lineFrom (quote : Char) : Nat → List Char → List Char → Option (String × List Char)
  | 0, _, _ => none
  | _ + 1, _, [] => none
  | n + 1, out, c :: rest =>
    if c == quote then some (String.ofList out.reverse, rest)
    else if quote == '"' && c == '\\' then
      match escape? rest with
      | some (d, after) => lineFrom quote n (d :: out) after
      | none => none
    else if isPlain c then lineFrom quote n (c :: out) rest
    else none

/-- A text on several lines up to its three closing quotes; one or two quotes before them belong to
the text. A backslash at the end of a line removes the spacing up to the next text. -/
def linesFrom (quote : Char) : Nat → List Char → List Char → Option (String × List Char)
  | 0, _, _ => none
  | _ + 1, _, [] => none
  | n + 1, out, c :: rest =>
    if c == quote then
      let more := (rest.takeWhile (· == quote)).length
      if more < 2 then linesFrom quote n (c :: out) rest
      else
        let inner := min (more - 2) 2
        some (String.ofList (List.replicate inner quote ++ out).reverse, rest.drop (inner + 2))
    else if quote == '"' && c == '\\' then
      match afterLineEnd? (skipBlanks rest) with
      | some after => linesFrom quote n out (skipLines after)
      | none =>
        match escape? rest with
        | some (d, after) => linesFrom quote n (d :: out) after
        | none => none
    else
      match afterLineEnd? (c :: rest) with
      | some after => linesFrom quote n ('\n' :: out) after
      | none => if isPlain c then linesFrom quote n (c :: out) rest else none

/-- A text that begins with a quote. A line end right after three quotes does not belong to it. -/
def readText? : List Char → Option (String × List Char)
  | a :: b :: c :: rest =>
    if a == b && b == c then
      let inner := (afterLineEnd? rest).getD rest
      linesFrom a (inner.length + 1) [] inner
    else lineFrom a (rest.length + 3) [] (b :: c :: rest)
  | a :: rest => lineFrom a (rest.length + 1) [] rest
  | [] => none

end Toml
end DocModel
