import DocModel.Number.Binary

/-!
# DocModel.Yaml.Resolve

What a plain text without a tag denotes: nothing, a truth value, an integer, a floating point
number, or just a text.

* integers may be written in binary, octal, decimal or hexadecimal, and have at most 128 bits;
* digits after a zero are no number but a text.
-/

namespace DocModel
namespace Yaml

open Number

/-- What a plain text denotes. -/
inductive Resolved where
  | null
  | bool (value : Bool)
  | int (value : Int)
  | float (value : Double)
  | text
  deriving DecidableEq, Repr

/-- Whether a text is a word for nothing. -/
def isNullWord (text : String) : Bool := ["null", "Null", "NULL", "~"].contains text

/-- The truth value that a word denotes. -/
def boolWord? (text : String) : Option Bool :=
  if ["true", "True", "TRUE"].contains text then some true
  else if ["false", "False", "FALSE"].contains text then some false
  else none

def digitValue (c : Char) : Nat :=
  if c.isDigit then c.toNat - 48
  else if 'a' ≤ c && c ≤ 'z' then c.toNat - 87
  else if 'A' ≤ c && c ≤ 'Z' then c.toNat - 55
  else 36

/-- The number that digits denote in a base. -/
def inBase? (base : Nat) (digits : List Char) : Option Nat :=
  if digits.isEmpty || digits.any (base ≤ digitValue ·) then none
  else some (digits.foldl (fun n c => base * n + digitValue c) 0)

/-- Whether a text is a zero and more digits, after a sign or not. -/
def isPaddedNumber (text : List Char) : Bool :=
  let body := match text with
    | '-' :: rest => rest
    | '+' :: rest => rest
    | _ => text
  match body with
  | '0' :: rest => !rest.isEmpty && rest.all Char.isDigit
  | _ => false

def magnitude? (body : List Char) : Option Nat :=
  match body with
  | '0' :: 'x' :: digits => inBase? 16 digits
  | '0' :: 'o' :: digits => inBase? 8 digits
  | '0' :: 'b' :: digits => inBase? 2 digits
  | _ => if isPaddedNumber body then none else inBase? 10 body

/-- The integer that a text denotes. -/
def integerText? (text : List Char) : Option Int :=
  match text with
  | '-' :: body =>
    match magnitude? body with
    | some n => if n ≤ Nat.pow 2 127 then some (-(n : Int)) else none
    | none => none
  | _ =>
    let body := match text with
      | '+' :: body => body
      | _ => text
    match magnitude? body with
    | some n => if n < Nat.pow 2 128 then some n else none
    | none => none

/-- The floating point number that a text denotes. A number beyond the largest is none. -/
def floatText? (text : List Char) : Option Double :=
  let unsigned := match text with
    | '+' :: body => body
    | _ => text
  let doubleSigned := text.head? == some '+' && unsigned.head?.any fun c => c == '+' || c == '-'
  let word := String.ofList unsigned
  let whole := String.ofList text
  if doubleSigned then none
  else if [".inf", ".Inf", ".INF"].contains word then some (.infinite false)
  else if ["-.inf", "-.Inf", "-.INF"].contains whole then some (.infinite true)
  else if [".nan", ".NaN", ".NAN"].contains whole then some .nan
  else
    match Double.read? unsigned with
    | some (.finite negative magnitude) => some (.finite negative magnitude)
    | _ => none

/-- What a plain text without a tag denotes. -/
def resolve (text : List Char) : Resolved :=
  let word := String.ofList text
  if text.isEmpty || isNullWord word then .null
  else
    match boolWord? word, integerText? text, floatText? text with
    | some b, _, _ => .bool b
    | none, some n, _ => .int n
    | none, none, some x => if isPaddedNumber text then .text else .float x
    | none, none, none => .text

end Yaml
end DocModel
