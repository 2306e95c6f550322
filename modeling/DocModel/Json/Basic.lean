import DocModel.Number.Shortest

/-!
# DocModel.Json.Basic

JSON values. The fields of an object are kept in the order in which they are to be written.

* `field?` looks up a field of an object;
* `pretty` writes a value over several lines, two spaces for each level.
-/

namespace DocModel

open Number

/-- A JSON value. -/
inductive Json where
  | null
  | bool (value : Bool)
  | int (value : Int)
  /-- A number that is written with a point or an exponent. -/
  | float (negative : Bool) (magnitude : Magnitude)
  | string (value : String)
  | array (items : List Json)
  | object (fields : List (String × Json))
  deriving BEq, Repr, Inhabited

namespace Json

def nat (n : Nat) : Json := .int n

def optional : Option String → Json
  | some s => .string s
  | none => .null

def fields? : Json → Option (List (String × Json))
  | .object fields => some fields
  | _ => none

/-- The value of a field of an object. -/
def field? (value : Json) (name : String) : Option Json :=
  value.fields? >>= (·.lookup name)

/-- How a character is written inside a text. -/
def characterImage (c : Char) : List Char :=
  match c with
  | '"' => ['\\', '"']
  | '\\' => ['\\', '\\']
  | '\n' => ['\\', 'n']
  | '\r' => ['\\', 'r']
  | '\t' => ['\\', 't']
  | '\x08' => ['\\', 'b']
  | '\x0c' => ['\\', 'f']
  | _ =>
    if c.toNat < 0x20 then
      ['\\', 'u', '0', '0'] ++ (if c.toNat < 0x10 then ['0'] else []) ++ Nat.toDigits 16 c.toNat
    else [c]

def quote (s : String) : String := String.ofList ('"' :: s.toList.flatMap characterImage ++ ['"'])

/-- A line break and the indentation of a level. -/
def newLine (level : Nat) : String := String.ofList ('\n' :: List.replicate (2 * level) ' ')

/-- Pieces between brackets, each on lines of its own. -/
def bracketed (opening closing : String) (level : Nat) (pieces : List String) : String :=
  match pieces with
  | [] => opening ++ closing
  | _ =>
    opening ++ newLine (level + 1) ++ String.intercalate ("," ++ newLine (level + 1)) pieces
      ++ newLine level ++ closing

mutual

/-- A value written at a level of indentation. -/
def prettyAt (level : Nat) : Json → String
  | .null => "null"
  | .bool value => if value then "true" else "false"
  | .int value => Text.intText value
  | .float negative magnitude =>
    String.ofList ((if negative then ['-'] else []) ++ compact ['+'] magnitude)
  | .string value => quote value
  | .array items => bracketed "[" "]" level (prettyItems (level + 1) items)
  | .object fields => bracketed "\x7b" "\x7d" level (prettyFields (level + 1) fields)

/-- The values of a list, each written at a level of indentation. -/
def prettyItems (level : Nat) : List Json → List String
  | [] => []
  | item :: items => prettyAt level item :: prettyItems level items

/-- The fields of an object, each written at a level of indentation. -/
def prettyFields (level : Nat) : List (String × Json) → List String
  | [] => []
  | (name, value) :: fields =>
    (quote name ++ ": " ++ prettyAt level value) :: prettyFields level fields

end

/-- A value written over several lines. -/
def pretty (value : Json) : String := prettyAt 0 value

end Json
end DocModel
