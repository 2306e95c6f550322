import DocModel.Text.Basic
import DocModel.Unicode.CaseMapping
import DocModel.Unicode.LetterCase

/-!
# DocModel.Text.Words

The words of an identifier and the ways to write them together.

* `identifierWords` cuts at underscores, hyphens and white space, and where the case changes;
* `pascalCase`, `camelCase`, `snakeCase` and `screamingSnakeCase` join the words again.
-/

namespace DocModel
namespace Text

open Unicode

/-- Whether a character stands between words and belongs to none. -/
def isWordSeparator (c : Char) : Bool := c == '_' || c == '-' || isWhiteSpace c

/-- Whether a word begins at `c`, between these neighbours: a capital letter after a small letter
or a digit, or the last of several capital letters before a small one. -/
def beginsWord (before : Option Char) (c : Char) (after : Option Char) : Bool :=
  match before with
  | none => false
  | some b =>
    isUppercase c &&
      (isLowercase b || b.isDigit ||
        (match after with
          | some a => isLowercase a && isUppercase b
          | none => false))

/-- A word in front of others, unless it is empty. -/
def consWord (word : List Char) (words : List (List Char)) : List (List Char) :=
  if word.isEmpty then words else word :: words

/-- The words of a text that comes after the character `before` and after the part `word` of a
word. -/
def wordsAfter (before : Option Char) (word : List Char) : List Char → List (List Char)
  | [] => consWord word []
  | c :: rest =>
    if isWordSeparator c then consWord word (wordsAfter (some c) [] rest)
    else if beginsWord before c rest.head? then
      consWord word (wordsAfter (some c) (toLower c) rest)
    else wordsAfter (some c) (word ++ toLower c) rest

/-- The words of an identifier in small letters. -/
def identifierWords (name : List Char) : List (List Char) := wordsAfter none [] name

/-- A word with a capital letter in front. -/
def capitalize : List Char → List Char
  | [] => []
  | c :: rest => toUpper c ++ rest

/-- A word with a small letter in front. -/
def uncapitalize : List Char → List Char
  | [] => []
  | c :: rest => toLower c ++ rest

/-- The words joined, each with a capital letter in front. -/
def pascalCase (name : String) : String :=
  onChars (fun cs => (identifierWords cs).flatMap capitalize) name

/-- The words joined, each but the first with a capital letter in front. -/
def camelCase (name : String) : String := onChars uncapitalize (pascalCase name)

def snakeCase (name : String) : String :=
  onChars (fun cs => joinWith ['_'] (identifierWords cs)) name

/-- The words in capital letters, joined by underscores. -/
def screamingSnakeCase (name : String) : String := onChars uppercase (snakeCase name)

end Text
end DocModel
