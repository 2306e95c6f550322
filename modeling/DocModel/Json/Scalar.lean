import DocModel.Json.Basic

/-!
# DocModel.Json.Scalar

Texts that are a JSON number or truth value and nothing else.

An integer within 64 bits is kept as it is. Any other number is read as the first digits that fit
into 64 bits, rounded, and then multiplied or divided by a rounded power of ten; so its last bit
may differ from that of the nearest number.
-/

namespace DocModel
namespace Json

open Number

def isSpace (c : Char) : Bool := c == ' ' || c == '\t' || c == '\n' || c == '\r'

def powerOfTen (n : Nat) : Magnitude := (nearest (Nat.pow 10 n) 1).getD ⟨0, 0⟩

/-- The largest power of ten below infinity. -/
def largestPower : Nat := 308

/-- A magnitude divided by a power of ten, in at most `steps` steps of the largest one. -/
def dividedByPower : Nat → Nat → Magnitude → Option Magnitude
  | 0, _, _ => some ⟨0, -1074⟩
  | steps + 1, n, v =>
    if n ≤ largestPower then v.dividedBy (powerOfTen n)
    else
      match v.dividedBy (powerOfTen largestPower) with
      | some small => dividedByPower steps (n - largestPower) small
      | none => none

/-- A magnitude times a power of ten; none if it becomes infinite. -/
def timesPower (v : Magnitude) (exponent : Int) : Option Magnitude :=
  if v.mantissa == 0 then some v
  else if exponent < 0 then dividedByPower 4 (-exponent).toNat v
  else if exponent ≤ largestPower then v.times (powerOfTen exponent.toNat)
  else none

/-- The number of the digits from the first on, after the number `sofar`, as far as it is below
`2 ^ 64`, and how many digits these are after `count`. -/
def leadingDigits (sofar count : Nat) : List Char → Nat × Nat
  | [] => (sofar, count)
  | c :: rest =>
    let next := 10 * sofar + (c.toNat - 48)
    if next < Nat.pow 2 64 then leadingDigits next (count + 1) rest else (sofar, count)

/-- The exponent of a number: none, or a letter, a sign and digits. -/
def exponent? (text : List Char) : Option Int :=
  let digits? (text : List Char) : Option Nat :=
    if isDigits text then some (digitsValue text) else none
  match text with
  | [] => some 0
  | c :: rest =>
    if c == 'e' || c == 'E' then
      match rest with
      | '+' :: digits => (digits? digits).map (·)
      | '-' :: digits => (digits? digits).map fun n => -(n : Int)
      | digits => (digits? digits).map (·)
    else none

/-- Whole digits: a zero, or digits that do not begin with one. -/
def isWhole (digits : List Char) : Bool :=
  isDigits digits && (digits.length == 1 || digits.head? != some '0')

/-- A number with its sign taken off. -/
def unsignedNumber? (negative : Bool) (text : List Char) : Option Json :=
  let whole := text.takeWhile Char.isDigit
  let rest := text.drop whole.length
  let part := match rest with
    | '.' :: after => some (after.takeWhile Char.isDigit)
    | _ => none
  let exponentText := match part with
    | some digits => rest.drop (digits.length + 1)
    | none => rest
  if !isWhole whole || part == some [] then none
  else
    match exponent? exponentText with
    | none => none
    | some exponent =>
      let n := digitsValue whole
      let isInteger := rest.isEmpty &&
        (if negative then 0 < n && n ≤ Nat.pow 2 63 else n < Nat.pow 2 64)
      if isInteger then some (.int (if negative then -(n : Int) else n))
      else
        let (before, taken) := leadingDigits 0 0 whole
        let (digits, places) := leadingDigits before 0 (part.getD [])
        match nearest digits 1 with
        | none => none
        | some v =>
          (timesPower v (exponent + (whole.length - taken : Nat) - places)).map fun v =>
            .float negative v

/-- The number or truth value that a text is. -/
def scalar? (text : String) : Option Json :=
  let body := Text.trimWhere isSpace text.toList
  match body with
  | '-' :: rest => unsignedNumber? true rest
  | _ =>
    match String.ofList body with
    | "true" => some (.bool true)
    | "false" => some (.bool false)
    | _ => unsignedNumber? false body

end Json
end DocModel
