/-!
# DocModel.Unicode.Ranges

Sets of code points given as lists, and membership in them.

* a *range* is a pair of inclusive bounds;
* a *stride* is an arithmetic progression: alternating capital and small letters make a
  property hold for every second code point of a block;
* a *shift* moves every code point of a stride by one distance.
-/

namespace DocModel
namespace Unicode

/-- Membership in a list of inclusive ranges. -/
def inRanges (table : List (Nat × Nat)) (n : Nat) : Bool :=
  table.any fun r => r.1 ≤ n && n ≤ r.2

/-- The code points `first`, `first + step`, … up to `last`. -/
structure Stride where
  /-- Smallest member. -/
  first : Nat
  /-- Largest member. -/
  last : Nat
  /-- Distance of neighbours. -/
  step : Nat

def Stride.contains (s : Stride) (n : Nat) : Bool :=
  s.first ≤ n && n ≤ s.last && (n - s.first) % s.step == 0

/-- Membership in a list of strides. -/
def inStrides (table : List Stride) (n : Nat) : Bool :=
  table.any (·.contains n)

/-- The code points of `domain`, each moved by `distance`. -/
structure Shift where
  domain : Stride
  /-- By how much. -/
  distance : Int

/-- The image of a code point under the first shift that moves it. -/
def shifted (table : List Shift) (n : Nat) : Option Char :=
  (table.find? (·.domain.contains n)).map fun s => Char.ofNat (Int.toNat (n + s.distance))

end Unicode
end DocModel
