import DocModel.Text.Basic

/-!
# DocModel.Model.Primitive

The types that every model has without defining them. A type may have several spellings, and case
does not matter; `name` is the spelling to write.
-/

namespace DocModel

open Text

/-- A type of single values. -/
inductive Primitive where
  | string
  | integer
  | float
  /-- A number of any kind. -/
  | number
  | boolean
  /-- A text that identifies an object. -/
  | identifier
  | bytes
  | date
  /-- A day and a time. -/
  | dateTime
  deriving DecidableEq, Repr, Inhabited

namespace Primitive

def all : List Primitive :=
  [string, integer, float, number, boolean, identifier, bytes, date, dateTime]

def name : Primitive → String
  | string => "string"
  | integer => "integer"
  | float => "float"
  | number => "number"
  | boolean => "boolean"
  | identifier => "Identifier"
  | bytes => "bytes"
  | date => "date"
  | dateTime => "datetime"

def spellings : Primitive → List String
  | string => ["string", "str"]
  | integer => ["integer", "int"]
  | float => ["float", "double"]
  | number => ["number"]
  | boolean => ["boolean", "bool"]
  | identifier => ["identifier"]
  | bytes => ["bytes"]
  | date => ["date"]
  | dateTime => ["datetime"]

/-- The type that a text spells, with white space around it or not. -/
def read? (text : String) : Option Primitive :=
  let word := asciiLowercase (onChars trim text)
  all.find? fun p => p.spellings.contains word

/-- The words for a text that spells none. -/
def unknownMessage (text : String) : String := "'" ++ text ++ "' is not a primitive type"

end Primitive
end DocModel
