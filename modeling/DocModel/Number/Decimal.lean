import DocModel.Text.Basic

/-!
# DocModel.Number.Decimal

Numbers written in decimal.

* `integer?` reads an integer within bounds;
* `Numeral.read?` reads a number with a fraction and an exponent, an infinity or no number.
-/

namespace DocModel
namespace Number

/-- The number that decimal digits denote. -/
def digitsValue (digits : List Char) : Nat :=
  digits.foldl (fun n c => 10 * n + (c.toNat - 48)) 0

/-- Whether a text is one or more decimal digits. -/
def isDigits (text : List Char) : Bool := !text.isEmpty && text.all Char.isDigit

/-- The integer that a text denotes: digits, after a plus or a minus or not. -/
def signedDigits? (text : List Char) : Option Int :=
  match text with
  | '-' :: digits => if isDigits digits then some (-(digitsValue digits : Int)) else none
  | '+' :: digits => if isDigits digits then some (digitsValue digits) else none
  | _ => if isDigits text then some (digitsValue text) else none

/-- The integer that a text denotes, if it needs at most 64 bits with its sign. -/
def integer? (text : List Char) : Option Int :=
  match signedDigits? text with
  | some n => if -(Nat.pow 2 63 : Int) ≤ n && n < Nat.pow 2 63 then some n else none
  | none => none

/-- The decimal fraction `digits * 10 ^ exponent`, or its negative. -/
structure Decimal where
  /-- Whether there is a minus. -/
  negative : Bool
  /-- All digits as one number. -/
  digits : Nat
  exponent : Int
  deriving DecidableEq, Repr

/-- What the spelling of a number denotes. -/
inductive Numeral where
  | finite (value : Decimal)
  | infinite (negative : Bool)
  | nan
  deriving DecidableEq, Repr

/-- The exponent that a text denotes: empty, or a letter e and an integer. -/
def exponent? (text : List Char) : Option Int :=
  match text with
  | [] => some 0
  | c :: rest => if c == 'e' || c == 'E' then signedDigits? rest else none

/-- A decimal fraction without its sign. At least one digit stands before or after the point. -/
def fraction? (negative : Bool) (text : List Char) : Option Decimal :=
  let whole := text.takeWhile Char.isDigit
  let rest := text.drop whole.length
  let (part, more) := match rest with
    | '.' :: after => (after.takeWhile Char.isDigit, after.dropWhile Char.isDigit)
    | _ => ([], rest)
  if whole.isEmpty && part.isEmpty then none
  else
    (exponent? more).map fun e =>
      { negative, digits := digitsValue (whole ++ part), exponent := e - part.length }

/-- The number that a text spells. -/
def Numeral.read? (text : List Char) : Option Numeral :=
  let (negative, body) := match text with
    | '-' :: rest => (true, rest)
    | '+' :: rest => (false, rest)
    | _ => (false, text)
  let word := String.ofList (body.map Char.toLower)
  if word == "inf" || word == "infinity" then some (.infinite negative)
  else if word == "nan" then some .nan
  else (fraction? negative body).map .finite

end Number
end DocModel
