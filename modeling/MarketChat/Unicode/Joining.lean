import MarketChat.Unicode.JoiningData
/-!
# Joining types

How a character of a cursive script joins its neighbours. The zero-width non-joiner is
allowed in a domain name only between two characters that would otherwise join, and these
types say which those are.

Main definitions: `Unicode.JoiningType`, `Unicode.joiningType`.
-/

namespace MarketChat

namespace Unicode

/-- How a character joins its neighbours. -/
inductive JoiningType where
  /-- Joins on both sides (`D`). -/
  | dual
  /-- Joins to the character on its right (`R`). -/
  | right
  /-- Joins to the character on its left (`L`). -/
  | left
  /-- Makes its neighbours join (`C`). -/
  | causing
  /-- Lets joining pass through it (`T`). -/
  | transparent
  /-- Does not join (`U`). -/
  | nonJoining
  deriving Repr, DecidableEq, Inhabited

/-- The type a table word names. -/
def JoiningType.ofName : String → JoiningType
  | "D" => .dual
  | "R" => .right
  | "L" => .left
  | "C" => .causing
  | "T" => .transparent
  | _ => .nonJoining

/-- The joining types, read. -/
def joiningTypes : Runs JoiningType := Runs.ofText JoiningType.ofName joiningText

/-- The joining type of a code point. -/
def joiningType (c : Nat) : JoiningType := joiningTypes.find .nonJoining c

end Unicode

end MarketChat
