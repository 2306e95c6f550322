import DocModel.Number.Shortest
import DocModel.Text.Escape
import DocModel.Toml.Value
import DocModel.Unicode.CaseMapping

/-!
# DocModel.Settings.Value

Values from which settings are put together. Groups of values are merged; anything else is replaced.
The case of a name does not matter.

Values are read leniently: a truth value may be a word or a number, and a text may be any single
value.
-/

namespace DocModel
namespace Settings

open Number Text

/-- A value. -/
inductive Value where
  | nothing
  | boolean (b : Bool)
  | integer (n : Int)
  | float (x : Double)
  | text (s : String)
  | list (items : List Value)
  | group (entries : List (String × Value))
  deriving Repr, Inhabited

namespace Value

mutual

def ofToml : Toml.Value → Value
  | .text s => .text s
  | .integer n => .integer n
  | .float x => .float x
  | .boolean b => .boolean b
  | .moment s => .text s
  | .list items => .list (ofTomlItems items)
  | .table entries => .group (ofTomlEntries entries)

def ofTomlItems : List Toml.Value → List Value
  | [] => []
  | v :: rest => ofToml v :: ofTomlItems rest

def ofTomlEntries : List (String × Toml.Value) → List (String × Value)
  | [] => []
  | (name, v) :: rest => (name, ofToml v) :: ofTomlEntries rest

end

/-- The values of a group; none for anything else. -/
def entries : Value → List (String × Value)
  | group entries => entries
  | _ => []

/-- The values of a list; none for anything else. -/
def items : Value → List Value
  | list items => items
  | _ => []

/-- The value of a name in a group. -/
def field? (v : Value) (name : String) : Option Value := v.entries.lookup name

/-- The words for a value that is not what it should be. -/
def phrase : Value → String
  | nothing => "unit value"
  | boolean b => "boolean \x60" ++ (if b then "true" else "false") ++ "\x60"
  | integer n => "integer \x60" ++ intText n ++ "\x60"
  | float x => "floating point \x60" ++ x.text positional "inf" "NaN" ++ "\x60"
  | text s => "string " ++ quoted s
  | list _ => "sequence"
  | group _ => "map"

/-- The truth value of a word. -/
def boolWord? (word : String) : Option Bool :=
  if ["1", "true", "on", "yes"].contains word then some true
  else if ["0", "false", "off", "no"].contains word then some false
  else none

def smallLetters (s : String) : String := onChars Unicode.lowercase s

/-- The truth value that a value stands for: a number is true unless it is zero. -/
def asBool? : Value → Option Bool
  | boolean b => some b
  | integer n => some (n != 0)
  | float (.finite _ v) => some (v.mantissa != 0)
  | float _ => some true
  | text s => boolWord? (smallLetters s)
  | _ => none

/-- The text that a value stands for. -/
def asText? : Value → Option String
  | boolean b => some (if b then "true" else "false")
  | integer n => some (intText n)
  | float x => some (x.text positional "inf" "NaN")
  | text s => some s
  | _ => none

/-- The entries with another value for a name, or one more at the end. -/
def setEntry (name : String) (v : Value) : List (String × Value) → List (String × Value)
  | [] => [(name, v)]
  | (other, kept) :: rest =>
    if other == name then (name, v) :: rest else (other, kept) :: setEntry name v rest

mutual

/-- A group with a value for a name. A group as the value is merged with what the name stands
for, anything else replaces it. -/
def assign (name : String) : Value → Value → Value
  | group more, root =>
    let inner := (root.field? (smallLetters name)).getD (group [])
    group (setEntry (smallLetters name) (assignAll more inner) root.entries)
  | v, root => group (setEntry (smallLetters name) v root.entries)

/-- A group with values for names. -/
def assignAll : List (String × Value) → Value → Value
  | [], root => root
  | (name, v) :: rest, root => assignAll rest (assign name v root)

end

end Value
end Settings
end DocModel
