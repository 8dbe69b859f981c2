/-!
# Searching text

Whether one text occurs in another, and ASCII case folding. Searching works on characters,
which for UTF-8 text is the same as searching on bytes: a character's encoding never starts
inside another's.

Main definitions: `Text.occursIn`, `Text.asciiLower`.
-/

namespace MarketChat

namespace Text

/-- Whether `pat` occurs in a list of characters at some position. -/
def occursInChars (pat : List Char) : List Char → Bool
  | [] => pat.isEmpty
  | c :: cs => pat.isPrefixOf (c :: cs) || occursInChars pat cs

/-- Whether `pat` occurs in `s`. The empty text occurs everywhere. -/
def occursIn (pat s : String) : Bool := occursInChars pat.toList s.toList

/-- The text with the letters A to Z lowered and every other character kept. -/
def asciiLower (s : String) : String := String.ofList (s.toList.map Char.toLower)

end Text

end MarketChat
