import DocModel.Number.Decimal

/-!
# DocModel.Number.Binary

Floating point numbers of 64 bits as exact values: a mantissa below `2 ^ 53` times a power of two
that is at least `2 ^ (-1074)`.

* `nearest` rounds a ratio to such a number, a tie to the even mantissa;
* `Double.ofNumeral` gives the number that a decimal spelling denotes;
* `times` and `dividedBy` are the rounded operations on magnitudes.
-/

namespace DocModel
namespace Number

/-- The magnitude `mantissa * 2 ^ exponent`. -/
structure Magnitude where
  mantissa : Nat
  exponent : Int
  deriving DecidableEq, Repr

namespace Magnitude

def ratio (v : Magnitude) : Nat × Nat :=
  if 0 ≤ v.exponent then (v.mantissa * Nat.pow 2 v.exponent.toNat, 1)
  else (v.mantissa, Nat.pow 2 (-v.exponent).toNat)

/-- The value, if it is whole. -/
def whole? (v : Magnitude) : Option Nat :=
  let (n, d) := v.ratio
  if n % d == 0 then some (n / d) else none

end Magnitude

/-- The quotient rounded to the nearest number, a tie to the even one. -/
def roundedQuotient (n d : Nat) : Nat :=
  let q := n / d
  let twice := 2 * (n % d)
  if d < twice || (twice == d && q % 2 == 1) then q + 1 else q

/-- The exponent of the magnitude nearest to a ratio: 53 bits of it are kept, and no bit below
`2 ^ (-1074)`. -/
def binaryExponent (n d : Nat) : Int :=
  let guess : Int := (n.log2 : Int) - d.log2
  let below := if 0 ≤ guess then n < d * Nat.pow 2 guess.toNat else n * Nat.pow 2 (-guess).toNat < d
  max (-1074) ((if below then guess - 1 else guess) - 52)

/-- The magnitude nearest to the ratio `n / d`; none if it is too large. -/
def nearest (n d : Nat) : Option Magnitude :=
  if n == 0 then some ⟨0, -1074⟩
  else
    let e := binaryExponent n d
    let m :=
      if 0 ≤ e then roundedQuotient n (d * Nat.pow 2 e.toNat)
      else roundedQuotient (n * Nat.pow 2 (-e).toNat) d
    let v : Magnitude := if m == Nat.pow 2 53 then ⟨Nat.pow 2 52, e + 1⟩ else ⟨m, e⟩
    if 971 < v.exponent then none else some v

def Magnitude.times (a b : Magnitude) : Option Magnitude :=
  let (n, d) := a.ratio
  let (n', d') := b.ratio
  nearest (n * n') (d * d')

/-- The rounded quotient by a magnitude that is not zero. -/
def Magnitude.dividedBy (a b : Magnitude) : Option Magnitude :=
  let (n, d) := a.ratio
  let (n', d') := b.ratio
  nearest (n * d') (d * n')

/-- A floating point number. -/
inductive Double where
  /-- A number of this sign and magnitude. -/
  | finite (negative : Bool) (magnitude : Magnitude)
  | infinite (negative : Bool)
  | nan
  deriving DecidableEq, Repr

def digitCount (n : Nat) : Nat := (Nat.toDigits 10 n).length

/-- The magnitude nearest to a decimal fraction. Far outside the range of exponents the answer
does not depend on the digits. -/
def Decimal.nearest (value : Decimal) : Option Magnitude :=
  let size := value.exponent + digitCount value.digits
  if value.digits == 0 || size < -400 then some ⟨0, -1074⟩
  else if 400 < size then none
  else if 0 ≤ value.exponent then Number.nearest (value.digits * Nat.pow 10 value.exponent.toNat) 1
  else Number.nearest value.digits (Nat.pow 10 (-value.exponent).toNat)

/-- The number nearest to what a spelling denotes; beyond the largest it is infinite. -/
def Double.ofNumeral : Numeral → Double
  | .finite value =>
    match value.nearest with
    | some v => .finite value.negative v
    | none => .infinite value.negative
  | .infinite negative => .infinite negative
  | .nan => .nan

/-- The number nearest to what a text spells. -/
def Double.read? (text : List Char) : Option Double :=
  (Numeral.read? text).map .ofNumeral

end Number
end DocModel
