import DocModel.Number.Binary
import DocModel.Toml.Moment

/-!
# DocModel.Toml.Value

The values of a TOML document, and the reading of those that are a single word.

| Word         | For example             |
|--------------|-------------------------|
| truth value  | `true`                  |
| integer      | `-1_000`, `0xFF`        |
| float        | `6.02e23`, `-inf`       |
| day and time | `1979-05-27T07:32:00Z`  |
-/

namespace DocModel
namespace Toml

open Number

/-- A value. -/
inductive Value where
  | text (s : String)
  | integer (n : Int)
  | float (x : Double)
  | boolean (b : Bool)
  /-- A day, a time or both, in their usual spelling. -/
  | moment (s : String)
  | list (items : List Value)
  | table (entries : List (String × Value))
  deriving Repr, Inhabited

/-- Digits without the underscores between them. -/
def plainDigits? (isDigit : Char → Bool) : List Char → Option (List Char)
  | [] => none
  | [c] => if isDigit c then some [c] else none
  | c :: '_' :: d :: rest =>
    if isDigit c then (plainDigits? isDigit (d :: rest)).map (c :: ·) else none
  | c :: rest => if isDigit c then (plainDigits? isDigit rest).map (c :: ·) else none

/-- The digit of a base that a character is. -/
def digitIn? (base : Nat) (c : Char) : Option Nat :=
  let value :=
    if c.isDigit then some (c.toNat - 48)
    else if 'a' ≤ c && c ≤ 'f' then some (c.toNat - 87)
    else if 'A' ≤ c && c ≤ 'F' then some (c.toNat - 55)
    else none
  value.filter (· < base)

/-- An integer in a base other than ten. -/
def inBase? (base : Nat) (digits : List Char) : Option Int :=
  match plainDigits? (fun c => (digitIn? base c).isSome) digits with
  | some plain =>
    let n := plain.foldl (fun n c => base * n + (digitIn? base c).getD 0) 0
    if n < Nat.pow 2 63 then some n else none
  | none => none

/-- A sign and what follows it. -/
def splitSign : List Char → List Char × List Char
  | '+' :: rest => (['+'], rest)
  | '-' :: rest => (['-'], rest)
  | rest => ([], rest)

/-- Decimal digits without underscores and without a zero in front of others. -/
def wholeDigits? (text : List Char) : Option (List Char) :=
  match plainDigits? Char.isDigit text with
  | some ('0' :: _ :: _) => none
  | digits => digits

def integerWord? : List Char → Option Int
  | '0' :: 'x' :: digits => inBase? 16 digits
  | '0' :: 'o' :: digits => inBase? 8 digits
  | '0' :: 'b' :: digits => inBase? 2 digits
  | word =>
    let (sign, body) := splitSign word
    (wholeDigits? body).bind fun digits => integer? (sign ++ digits)

/-- The part of a number after its point without underscores, with the point; or nothing. -/
def fractionPart? : List Char → Option (List Char)
  | [] => some []
  | '.' :: digits => (plainDigits? Char.isDigit digits).map ('.' :: ·)
  | _ => none

/-- The exponent of a number without underscores, with its letter; or nothing. -/
def exponentPart? : List Char → Option (List Char)
  | [] => some []
  | _ :: rest =>
    let (sign, digits) := splitSign rest
    (plainDigits? Char.isDigit digits).map fun plain => 'e' :: sign ++ plain

/-- A floating point number: with a point or an exponent, or a word. None is too large, except below
zero. -/
def floatWord? (word : List Char) : Option Double :=
  let (sign, body) := splitSign word
  if body = ['i', 'n', 'f'] then some (.infinite (sign == ['-']))
  else if body = ['n', 'a', 'n'] then some .nan
  else do
    let isExponent (c : Char) : Bool := c == 'e' || c == 'E'
    let mantissa := body.takeWhile (!isExponent ·)
    let whole := mantissa.takeWhile (· != '.')
    if whole.length = body.length then none
    let digits := (← wholeDigits? whole) ++ (← fractionPart? (mantissa.drop whole.length))
      ++ (← exponentPart? (body.drop mantissa.length))
    let value ← Double.read? (sign ++ digits)
    if value = .infinite false then none else value

/-- The value of a single word. -/
def word? (word : List Char) : Option Value :=
  if word = "true".toList then some (.boolean true)
  else if word = "false".toList then some (.boolean false)
  else
    match moment? word, integerWord? word, floatWord? word with
    | some s, _, _ => some (.moment s)
    | none, some n, _ => some (.integer n)
    | none, none, some x => some (.float x)
    | none, none, none => none

/-- Whether a character may belong to a word. -/
def isWordPart (c : Char) : Bool :=
  c.isAlphanum || c == '_' || c == '+' || c == '-' || c == '.' || c == ':'

/-- Whether a time follows a day and a space. -/
def timeFollows (day rest : List Char) : Bool :=
  match day? day, rest with
  | some (_, []), ' ' :: a :: b :: ':' :: _ => a.isDigit && b.isDigit
  | _, _ => false

/-- The word at the start of a text, and what follows it. -/
def splitWord (text : List Char) : List Char × List Char :=
  let word := text.takeWhile isWordPart
  let rest := text.dropWhile isWordPart
  if timeFollows word rest then
    let time := (rest.drop 1).takeWhile isWordPart
    (word ++ ' ' :: time, (rest.drop 1).dropWhile isWordPart)
  else (word, rest)

end Toml
end DocModel
