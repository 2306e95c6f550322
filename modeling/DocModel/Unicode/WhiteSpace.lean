/-!
# DocModel.Unicode.WhiteSpace

The property `White_Space`: the one notion of blank that trimming, word splitting and the
line grammar of a document use.
-/

namespace DocModel
namespace Unicode

/-- The property `White_Space`. -/
def isWhiteSpace (c : Char) : Bool :=
  let n := c.toNat
  if n < 0x80 then n == 0x20 || (0x09 ≤ n && n ≤ 0x0D)
  else n == 0x85 || n == 0xA0 || n == 0x1680 || (0x2000 ≤ n && n ≤ 0x200A) || n == 0x2028
    || n == 0x2029 || n == 0x202F || n == 0x205F || n == 0x3000

end Unicode
end DocModel
