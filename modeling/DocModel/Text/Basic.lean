import DocModel.Unicode.WhiteSpace

/-!
# DocModel.Text.Basic

Operations on texts as lists of characters: trimming, splitting, searching, replacing.

* `trim` removes white space at both ends;
* `splitOn` cuts at every occurrence of a character and keeps empty pieces;
* `lines` cuts into lines, without their terminators and without a last empty line;
* `words` cuts into the maximal runs without white space.

Texts are stored as `String`; `onChars` lifts an operation to them.
-/

namespace DocModel
namespace Text

open Unicode

/-- An operation on characters, applied to a string. -/
def onChars (f : List Char → List Char) (s : String) : String :=
  String.ofList (f s.toList)

/-- The text without its longest ending that satisfies `p`. -/
def dropEndWhile (p : Char → Bool) (cs : List Char) : List Char :=
  (cs.reverse.dropWhile p).reverse

/-- The text without the characters at either end that satisfy `p`. -/
def trimWhere (p : Char → Bool) (cs : List Char) : List Char :=
  dropEndWhile p (cs.dropWhile p)

/-- The text without leading white space. -/
def trimStart (cs : List Char) : List Char := cs.dropWhile isWhiteSpace

/-- The text without trailing white space. -/
def trimEnd (cs : List Char) : List Char := dropEndWhile isWhiteSpace cs

/-- The text without white space at either end. -/
def trim (cs : List Char) : List Char := trimWhere isWhiteSpace cs

/-- Whether there is nothing but white space. -/
def isBlank (cs : List Char) : Bool := cs.all isWhiteSpace

/-- The pieces between the characters that satisfy `p`; always at least one. -/
def splitWhere (p : Char → Bool) : List Char → List (List Char)
  | [] => [[]]
  | c :: rest =>
    if p c then [] :: splitWhere p rest
    else
      match splitWhere p rest with
      | [] => [[c]]
      | piece :: pieces => (c :: piece) :: pieces

/-- The pieces between the occurrences of `sep`. -/
def splitOn (sep : Char) (cs : List Char) : List (List Char) :=
  splitWhere (· == sep) cs

/-- What stands before and after the first occurrence of `sep`. -/
def splitOnce (sep : Char) : List Char → Option (List Char × List Char)
  | [] => none
  | c :: rest =>
    if c == sep then some ([], rest)
    else (splitOnce sep rest).map fun (before, after) => (c :: before, after)

/-- The maximal runs without white space. -/
def words (cs : List Char) : List (List Char) :=
  (splitWhere isWhiteSpace cs).filter (!·.isEmpty)

/-- A line without a carriage return at its end. -/
def chopReturn (line : List Char) : List Char :=
  if line.getLast? == some '\r' then line.dropLast else line

/-- The lines of a text. A terminator is a line feed, with or without a carriage return before
it; the text after the last terminator is a line unless it is empty. -/
def lines (cs : List Char) : List (List Char) :=
  let pieces := splitOn '\n' cs
  let rest := pieces.getLast?.getD []
  pieces.dropLast.map chopReturn ++ (if rest.isEmpty then [] else [rest])

/-- The lines of a text, each with its terminator. -/
def terminatedLines : List Char → List (List Char)
  | [] => []
  | '\n' :: rest => ['\n'] :: terminatedLines rest
  | c :: rest =>
    match terminatedLines rest with
    | [] => [[c]]
    | line :: more => (c :: line) :: more

/-- The rest of a text after `p`, if it starts with `p`. -/
def dropPrefix? : List Char → List Char → Option (List Char)
  | [], cs => some cs
  | _ :: _, [] => none
  | p :: ps, c :: cs => if p == c then dropPrefix? ps cs else none

/-- Whether `part` occurs anywhere. -/
def contains (part : List Char) : List Char → Bool
  | [] => part.isEmpty
  | c :: rest => part.isPrefixOf (c :: rest) || contains part rest

/-- Every character replaced by a text. -/
def replaceChar (old : Char) (new : List Char) (cs : List Char) : List Char :=
  cs.flatMap fun c => if c == old then new else [c]

/-- Every occurrence of the two characters `a`, `b` in a row removed, from the left. -/
def removePairs (a b : Char) : List Char → List Char
  | x :: y :: rest =>
    if x == a && y == b then removePairs a b rest else x :: removePairs a b (y :: rest)
  | rest => rest

/-- The pieces with `sep` between neighbours. -/
def joinWith (sep : List Char) : List (List Char) → List Char
  | [] => []
  | [piece] => piece
  | piece :: next :: pieces => piece ++ sep ++ joinWith sep (next :: pieces)

/-- Small letters for the capital letters of ASCII. -/
def asciiLowercase (s : String) : String := onChars (·.map Char.toLower) s

/-- Equality up to the case of ASCII letters. -/
def equalsIgnoringCase (a b : String) : Bool :=
  asciiLowercase a == asciiLowercase b

/-- A text with spaces after it up to a number of characters. -/
def padRight (width : Nat) (s : String) : String :=
  s ++ String.ofList (List.replicate (width - s.length) ' ')

/-- A text with spaces before it up to a number of characters. -/
def padLeft (width : Nat) (s : String) : String :=
  String.ofList (List.replicate (width - s.length) ' ') ++ s

/-- Each line followed by a line feed. -/
def unlines (ls : List String) : String :=
  String.join (ls.map (· ++ "\n"))

/-- The number of bytes of a text in UTF-8. -/
def byteLength (cs : List Char) : Nat :=
  cs.foldr (fun c n => c.utf8Size + n) 0

/-- The decimal digits of a number. -/
def natText (n : Nat) : String := String.ofList (Nat.toDigits 10 n)

/-- The decimal digits of an integer, after a minus if it is negative. -/
def intText (n : Int) : String := (if n < 0 then "-" else "") ++ natText n.natAbs

/-- A repeated item kept only at its first place. -/
def unique (items : List String) : List String :=
  items.eraseDups

/-- A text on one line: its words with one space between them. -/
def oneLine (s : String) : String :=
  onChars (fun cs => joinWith [' '] (words cs)) s

/-- Each line of a text after a prefix and an indentation, without trailing white space. -/
def commentLines (text leader indent : String) : String :=
  unlines ((lines text.toList).map fun line =>
    let body := trimEnd line
    if body.isEmpty then indent ++ onChars trimEnd leader
    else indent ++ leader ++ String.ofList body)

end Text
end DocModel
