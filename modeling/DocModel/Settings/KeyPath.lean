import DocModel.Settings.Value

/-!
# DocModel.Settings.KeyPath

Keys of settings: a name, then names after dots and numbers in brackets. A number counts the items
of a list from zero, a negative one from its end.
-/

namespace DocModel
namespace Settings

open Number Text

/-- A part of a key. -/
inductive KeyPart where
  /-- The value of a name. -/
  | name (name : String)
  /-- An item of a list. -/
  | item (index : Int)
  deriving DecidableEq, Repr

/-- A key: all parts but the last, and the last. -/
structure KeyPath where
  /-- The parts that lead to a group or a list. -/
  outer : List KeyPart
  last : KeyPart
  deriving DecidableEq, Repr

/-- Whether a character may stand in a name of a key. -/
def isKeyPart (c : Char) : Bool := c.isAlphanum || c == ' ' || c == '_' || c == '-'

/-- The name at the start of a text, and what follows it. -/
def readKeyName? (text : List Char) : Option (KeyPart × List Char) :=
  let name := text.takeWhile isKeyPart
  if name.isEmpty then none else some (.name (String.ofList name), text.dropWhile isKeyPart)

/-- The number before a closing bracket, and what follows that. -/
def readKeyIndex? (text : List Char) : Option (KeyPart × List Char) :=
  let isNumberPart (c : Char) : Bool := c.isDigit || c == '-'
  let start := text.dropWhile (· == ' ')
  let digits := start.takeWhile isNumberPart
  match (start.dropWhile isNumberPart).dropWhile (· == ' ') with
  | ']' :: rest =>
    (integer? digits).map fun n => (.item n, rest)
  | _ => none

/-- The parts of a key after the first; at most `fuel` of them. -/
def readKeyParts? : Nat → List Char → Option (List KeyPart)
  | _, [] => some []
  | 0, _ => none
  | fuel + 1, c :: rest =>
    let part :=
      if c == '.' then readKeyName? rest else if c == '[' then readKeyIndex? rest else none
    match part with
    | some (p, after) => (readKeyParts? fuel after).map (p :: ·)
    | none => none

namespace KeyPath

/-- The key that a text spells. -/
def ofText? (text : String) : Option KeyPath :=
  match readKeyName? text.toList with
  | none => none
  | some (first, rest) =>
    (readKeyParts? rest.length rest).map fun parts =>
      { outer := (first :: parts).dropLast, last := (first :: parts).getLast (by simp) }

/-- The key of a single name. -/
def ofName (name : String) : KeyPath := { outer := [], last := .name name }

end KeyPath

namespace Value

/-- The place of an item in a list of a length. -/
def itemPlace (index : Int) (length : Nat) : Nat :=
  if 0 ≤ index then index.toNat else length - index.natAbs

/-- A list with another item, and nothing in the places before it that are missing. -/
def setItem (index : Int) (change : Value → Value) (v : Value) : Value :=
  let items := v.items
  let place := itemPlace index items.length
  let filled := items ++ List.replicate (place + 1 - items.length) nothing
  list (filled.modify place change)

/-- A change of the value that parts of a key lead to. What is no group or list on the way becomes
one. -/
def changeAt (change : Value → Value) : List KeyPart → Value → Value
  | [], v => change v
  | .name name :: parts, v =>
    let inner := (v.field? (smallLetters name)).getD nothing
    group (setEntry (smallLetters name) (changeAt change parts inner) v.entries)
  | .item index :: parts, v => setItem index (changeAt change parts) v

/-- A value with another for a key. -/
def assignAt (path : KeyPath) (v : Value) (root : Value) : Value :=
  changeAt (fun inner =>
    match path.last with
    | .name name => assign name v inner
    | .item index => setItem index (fun _ => v) inner) path.outer root

end Value
end Settings
end DocModel
