import MarketChat.Unicode.BidiData
/-!
# Bidirectional classes

The bidirectional class of a code point, as the bidirectional algorithm names it. A domain
name holding right-to-left text must keep every label's direction unambiguous; that rule
(`Url.bidiLabelValid`) reads these classes.

Main definitions: `Unicode.BidiClass`, `Unicode.bidiClass`.
-/

namespace MarketChat

namespace Unicode

/-- The bidirectional class of a code point. -/
inductive BidiClass where
  /-- Left to right (`L`). -/
  | leftToRight
  /-- Right to left (`R`). -/
  | rightToLeft
  /-- Right-to-left Arabic letter (`AL`). -/
  | arabicLetter
  /-- European number (`EN`). -/
  | europeanNumber
  /-- European number separator (`ES`). -/
  | europeanSeparator
  /-- European number terminator (`ET`). -/
  | europeanTerminator
  /-- Arabic number (`AN`). -/
  | arabicNumber
  /-- Common number separator (`CS`). -/
  | commonSeparator
  /-- Nonspacing mark (`NSM`). -/
  | nonspacingMark
  /-- Boundary neutral (`BN`). -/
  | boundaryNeutral
  /-- Paragraph separator (`B`). -/
  | paragraphSeparator
  /-- Segment separator (`S`). -/
  | segmentSeparator
  /-- White space (`WS`). -/
  | whiteSpace
  /-- Other neutral (`ON`). -/
  | otherNeutral
  /-- An explicit embedding, override or isolate, or their terminators. -/
  | explicitFormatting
  deriving Repr, DecidableEq, Inhabited

/-- The class a table word names. -/
def BidiClass.ofName : String → BidiClass
  | "L" => .leftToRight
  | "R" => .rightToLeft
  | "AL" => .arabicLetter
  | "EN" => .europeanNumber
  | "ES" => .europeanSeparator
  | "ET" => .europeanTerminator
  | "AN" => .arabicNumber
  | "CS" => .commonSeparator
  | "NSM" => .nonspacingMark
  | "BN" => .boundaryNeutral
  | "B" => .paragraphSeparator
  | "S" => .segmentSeparator
  | "WS" => .whiteSpace
  | "ON" => .otherNeutral
  | _ => .explicitFormatting

/-- The bidirectional classes, read. -/
def bidiClasses : Runs BidiClass := Runs.ofText BidiClass.ofName bidiText

/-- The bidirectional class of a code point. -/
def bidiClass (c : Nat) : BidiClass := bidiClasses.find .leftToRight c

end Unicode

end MarketChat
