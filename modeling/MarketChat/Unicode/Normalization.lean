import MarketChat.Unicode.NormalizationData
/-!
# Canonical composition (NFC)

A text is brought to its canonical composed form in three passes over its code points:

* every code point is replaced by its full canonical decomposition (Hangul syllables by the
  arithmetic of their jamo, everything else from `decompositionText`);
* every run of non-starters (code points of nonzero combining class) is sorted by class,
  stably, so marks of different classes stand in one canonical order;
* each code point is composed into the last starter when a primary composite of the two
  exists and nothing between them blocks it: a code point between them blocks when its
  class is zero or at least the class of the one being composed.

A text is in composed form (`isNfc`) when composing it changes nothing.

Main definitions: `Unicode.combiningClass`, `Unicode.isMark`, `Unicode.nfc`,
`Unicode.isNfc`.
-/

namespace MarketChat

namespace Unicode

/-- The canonical combining classes, read. -/
def combiningClasses : Runs Nat := Runs.ofText hexValue combiningClassText

/-- The canonical combining class of a code point; zero for a starter. -/
def combiningClass (c : Nat) : Nat := combiningClasses.find 0 c

/-- The marks, read. -/
def marks : Runs Bool := Runs.ofText (· == "1") markText

/-- The code point is a mark (general category `M`). -/
def isMark (c : Nat) : Bool := marks.find false c

/-- The full canonical decompositions, read. -/
def decompositions : Runs (List Nat) := Runs.ofText hexPoints decompositionText

/-- The primary composites, read. -/
def compositions : Runs Nat := Runs.ofText hexValue compositionText

/-- The first Hangul syllable; syllables are numbered from it. -/
def syllableBase : Nat := 0xAC00

/-- The number of Hangul syllables. -/
def syllableCount : Nat := 11172

/-- The first leading consonant jamo. -/
def leadBase : Nat := 0x1100

/-- The first vowel jamo. -/
def vowelBase : Nat := 0x1161

/-- The code point before the first trailing consonant jamo. -/
def trailBase : Nat := 0x11A7

/-- The full canonical decomposition of a code point. -/
def decompose (c : Nat) : List Nat :=
  if syllableBase ≤ c ∧ c < syllableBase + syllableCount then
    let s := c - syllableBase
    let lead := leadBase + s / 588
    let vowel := vowelBase + s % 588 / 28
    if s % 28 = 0 then [lead, vowel] else [lead, vowel, trailBase + s % 28]
  else (decompositions.entry? c).getD [c]

/-- The primary composite of two code points, if they have one. -/
def composePair (a b : Nat) : Option Nat :=
  if leadBase ≤ a ∧ a < leadBase + 19 ∧ vowelBase ≤ b ∧ b < vowelBase + 21 then
    some (syllableBase + ((a - leadBase) * 21 + (b - vowelBase)) * 28)
  else if syllableBase ≤ a ∧ a < syllableBase + syllableCount ∧ (a - syllableBase) % 28 = 0 ∧
      trailBase < b ∧ b < trailBase + 28 then
    some (a + (b - trailBase))
  else compositions.entry? (a * 0x110000 + b)

/-- A run of non-starters in canonical order: sorted by class, stably. -/
def sortMarks (run : List Nat) : List Nat :=
  run.mergeSort fun a b => decide (combiningClass a ≤ combiningClass b)

/-- Put every run of non-starters in canonical order; `run` holds the current run,
reversed. -/
def reorder : List Nat → List Nat → List Nat
  | [], run => sortMarks run.reverse
  | c :: cs, run =>
    if combiningClass c = 0 then sortMarks run.reverse ++ c :: reorder cs []
    else reorder cs (c :: run)

/-- Where composition stands: the composed code points, the position of the last starter
among them, and the class of the last code point kept, `256` while no starter was seen. -/
structure Composing where
  out : Array Nat := #[]
  starter : Option Nat := none
  lastClass : Nat := 256

/-- Compose one more code point into the text so far. -/
def composeStep (st : Composing) (c : Nat) : Composing :=
  let cc := combiningClass c
  let keep : Composing :=
    { out := st.out.push c, starter := if cc = 0 then some st.out.size else st.starter,
      lastClass := cc }
  match st.starter with
  | some i =>
    match composePair (st.out.getD i 0) c with
    | some p =>
      if st.lastClass < cc || st.lastClass = 0 then { st with out := st.out.setIfInBounds i p }
      else keep
    | none => keep
  | none => keep

/-- Compose a decomposed text in canonical order. -/
def composeAll (cs : List Nat) : List Nat := (cs.foldl composeStep {}).out.toList

/-- The canonical composed form (NFC) of a text. -/
def nfc (cs : List Nat) : List Nat := composeAll (reorder (cs.flatMap decompose) [])

/-- The text is in canonical composed form. -/
def isNfc (cs : List Nat) : Bool := nfc cs == cs

end Unicode

end MarketChat
