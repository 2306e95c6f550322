import DocModel.Number.Binary

/-!
# DocModel.Number.Shortest

Floating point numbers in decimal, with the fewest digits that still read back as the same
number.

* `shortestDigits` finds the digits: of all decimals that round to a magnitude, those with the
  fewest digits, and of these the nearest;
* `positional` writes every digit with its place, `compact` uses an exponent for very large and
  very small numbers.
-/

namespace DocModel
namespace Number

/-- The exponent of the leading decimal digit of the ratio `n / d`, both positive. -/
def decimalExponent (n d : Nat) : Int :=
  if d ≤ n then (digitCount (n / d) : Int) - 1
  else
    let k := digitCount (d / n)
    if d % n == 0 && d / n == Nat.pow 10 (k - 1) then -((k : Int) - 1) else -(k : Int)

/-- The decimals that round to a magnitude lie between `low / scale` and `high / scale`; the ends
belong to them if `closed`. -/
structure RoundingInterval where
  low : Nat
  value : Nat
  high : Nat
  scale : Nat
  /-- Whether the ends round to the magnitude. -/
  closed : Bool

/-- The interval of a magnitude. Below a power of two the neighbours are closer. -/
def Magnitude.interval (v : Magnitude) : RoundingInterval :=
  let m := v.mantissa
  let down := if m == Nat.pow 2 52 && -1074 < v.exponent then 1 else 2
  let e := v.exponent - 2
  let up := if 0 ≤ e then Nat.pow 2 e.toNat else 1
  { low := (4 * m - down) * up
    value := 4 * m * up
    high := (4 * m + 2) * up
    scale := if 0 ≤ e then 1 else Nat.pow 2 (-e).toNat
    closed := m % 2 == 0 }

namespace RoundingInterval

/-- Whether `digits * 10 ^ exponent` lies inside. -/
def contains (i : RoundingInterval) (digits : Nat) (exponent : Int) : Bool :=
  let (n, s) :=
    if 0 ≤ exponent then (digits * Nat.pow 10 exponent.toNat * i.scale, 1)
    else (digits * i.scale, Nat.pow 10 (-exponent).toNat)
  if i.closed then i.low * s ≤ n && n ≤ i.high * s else i.low * s < n && n < i.high * s

/-- The better of the two multiples of `10 ^ exponent` around the value, if one lies inside. -/
def onGrid (i : RoundingInterval) (exponent : Int) : Option Nat :=
  let (n, d) :=
    if 0 ≤ exponent then (i.value, i.scale * Nat.pow 10 exponent.toNat)
    else (i.value * Nat.pow 10 (-exponent).toNat, i.scale)
  let below := n / d
  let near := roundedQuotient n d
  if i.contains near exponent then some near
  else if i.contains below exponent then some below
  else if i.contains (below + 1) exponent then some (below + 1)
  else none

/-- The first grid with a hit, from `exponent` downwards over at most `n` more places. -/
def search (i : RoundingInterval) : Nat → Int → Nat × Int
  | 0, exponent => ((i.onGrid exponent).getD 0, exponent)
  | n + 1, exponent =>
    match i.onGrid exponent with
    | some digits => (digits, exponent)
    | none => search i n (exponent - 1)

end RoundingInterval

/-- Trailing zeros of `digits` moved to the exponent; at most `n` of them. -/
def withoutTrailingZeros : Nat → Nat → Int → Nat × Int
  | 0, digits, exponent => (digits, exponent)
  | n + 1, digits, exponent =>
    if digits != 0 && digits % 10 == 0 then withoutTrailingZeros n (digits / 10) (exponent + 1)
    else (digits, exponent)

/-- The shortest digits of a magnitude and their power of ten; zero is the digit zero. -/
def shortestDigits (v : Magnitude) : Nat × Int :=
  if v.mantissa == 0 then (0, 0)
  else
    let i := v.interval
    let (digits, exponent) := i.search 17 (decimalExponent i.value i.scale)
    withoutTrailingZeros 20 digits exponent

def zeros (n : Nat) : List Char := List.replicate n '0'

/-- Digits times a power of ten with every place written and at least one digit before the point;
a whole number has `fraction` after it. -/
def placed (fraction : List Char) (digits : List Char) (exponent : Int) : List Char :=
  let point := digits.length + exponent
  if 0 ≤ exponent then digits ++ zeros exponent.toNat ++ fraction
  else if 0 < point then digits.take point.toNat ++ ['.'] ++ digits.drop point.toNat
  else ['0', '.'] ++ zeros (-point).toNat ++ digits

/-- A magnitude with every place written; whole numbers have no point. -/
def positional (v : Magnitude) : List Char :=
  let (digits, exponent) := shortestDigits v
  placed [] (Nat.toDigits 10 digits) exponent

/-- A magnitude with every place written if its point stands among or near the first sixteen
digits, and with an exponent otherwise. Whole numbers have a zero after the point; `plus` stands
before an exponent that is not negative. -/
def compact (plus : List Char) (v : Magnitude) : List Char :=
  let (n, exponent) := shortestDigits v
  let digits := Nat.toDigits 10 n
  let point := digits.length + exponent
  if -5 < point && point ≤ 16 then placed ['.', '0'] digits exponent
  else
    let power := point - 1
    let powerText :=
      (if power < 0 then ['-'] else plus) ++ Nat.toDigits 10 power.natAbs
    match digits with
    | [d] => d :: 'e' :: powerText
    | d :: more => d :: '.' :: more ++ 'e' :: powerText
    | [] => []

/-- A number with its sign, its magnitude written by `write`, and words for the rest. -/
def Double.text (write : Magnitude → List Char) (infinity noNumber : String) : Double → String
  | .finite negative v => String.ofList ((if negative then ['-'] else []) ++ write v)
  | .infinite negative => (if negative then "-" else "") ++ infinity
  | .nan => noNumber

end Number
end DocModel
