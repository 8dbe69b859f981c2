/-!
# White space

The characters with the Unicode `White_Space` property, and trimming them from both ends of
a text. A message that trims to nothing is not sent.

Main definitions: `Text.isSpace`, `Text.trimSpace`.
-/

namespace MarketChat

namespace Text

/-- The character has the Unicode `White_Space` property. -/
def isSpace (c : Char) : Bool :=
  let n := c.toNat
  (0x09 ≤ n && n ≤ 0x0D) || n = 0x20 || n = 0x85 || n = 0xA0 || n = 0x1680 ||
    (0x2000 ≤ n && n ≤ 0x200A) || n = 0x2028 || n = 0x2029 || n = 0x202F || n = 0x205F ||
    n = 0x3000

/-- The text without white space at either end. -/
def trimSpace (s : String) : String :=
  String.ofList (((s.toList.dropWhile isSpace).reverse.dropWhile isSpace).reverse)

end Text

end MarketChat
