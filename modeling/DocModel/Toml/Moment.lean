import DocModel.Number.Decimal

/-!
# DocModel.Toml.Moment

Days and times of a TOML document, alone or together, with or without an offset. `moment?` reads a
spelling and gives the usual one: a capital T between day and time, and a fraction of a second with
nine digits at most and no zero at its end.
-/

namespace DocModel
namespace Toml

open Number Text

/-- A number of as many decimal digits between bounds, and what follows. -/
def boundedNumber? (digits low high : Nat) (text : List Char) : Option (Nat × List Char) :=
  let part := text.take digits
  let n := digitsValue part
  if part.length = digits && part.all Char.isDigit && low ≤ n && n ≤ high then
    some (n, text.drop digits)
  else none

/-- A number as at least so many digits. -/
def padded (width n : Nat) : String :=
  let digits := natText n
  String.ofList (List.replicate (width - digits.length) '0') ++ digits

/-- The number of days of a month. -/
def daysIn (year month : Nat) : Nat :=
  if month = 2 then
    if year % 4 = 0 && (year % 100 != 0 || year % 400 = 0) then 29 else 28
  else if month = 4 || month = 6 || month = 9 || month = 11 then 30
  else 31

/-- A day, and what follows it. -/
def day? (text : List Char) : Option (String × List Char) := do
  let (year, rest) ← boundedNumber? 4 0 9999 text
  let '-' :: rest := rest | none
  let (month, rest) ← boundedNumber? 2 1 12 rest
  let '-' :: rest := rest | none
  let (day, rest) ← boundedNumber? 2 1 (daysIn year month) rest
  return (padded 4 year ++ "-" ++ padded 2 month ++ "-" ++ padded 2 day, rest)

/-- A fraction of a second, and what follows it. -/
def fraction? (text : List Char) : Option (String × List Char) :=
  match text with
  | '.' :: rest =>
    let digits := rest.takeWhile Char.isDigit
    if digits.isEmpty then none
    else
      let kept := dropEndWhile (· == '0') (digits.take 9)
      some ((if kept.isEmpty then "" else String.ofList ('.' :: kept)), rest.drop digits.length)
  | _ => some ("", text)

/-- A time of a day, and what follows it. -/
def time? (text : List Char) : Option (String × List Char) := do
  let (hour, rest) ← boundedNumber? 2 0 23 text
  let ':' :: rest := rest | none
  let (minute, rest) ← boundedNumber? 2 0 59 rest
  let ':' :: rest := rest | none
  let (second, rest) ← boundedNumber? 2 0 60 rest
  let (part, rest) ← fraction? rest
  return (padded 2 hour ++ ":" ++ padded 2 minute ++ ":" ++ padded 2 second ++ part, rest)

/-- An offset from the time at Greenwich. -/
def offset? (text : List Char) : Option String :=
  match text with
  | [] => some ""
  | ['Z'] => some "Z"
  | ['z'] => some "Z"
  | sign :: rest => do
    if sign != '+' && sign != '-' then none
    let (hour, rest) ← boundedNumber? 2 0 23 rest
    let ':' :: rest := rest | none
    let (minute, rest) ← boundedNumber? 2 0 59 rest
    if !rest.isEmpty then none
    let shown := if hour = 0 && minute = 0 then '+' else sign
    return shown.toString ++ padded 2 hour ++ ":" ++ padded 2 minute

/-- What stands between a day and a time. -/
def isSeparator (c : Char) : Bool := c == 'T' || c == 't' || c == ' '

/-- The usual spelling of a day, a time or both. -/
def moment? (text : List Char) : Option String :=
  match day? text with
  | some (day, []) => some day
  | some (day, separator :: rest) => do
    if !isSeparator separator then none
    let (time, rest) ← time? rest
    return day ++ "T" ++ time ++ (← offset? rest)
  | none =>
    match time? text with
    | some (time, []) => some time
    | _ => none

end Toml
end DocModel
