import MarketChat.Binary64.Basic
/-!
# Similar words

The Jaro similarity of two words, used to suggest the word a user probably meant. Two
characters match when they are equal and no further apart than half the longer word's
length, less one; each character of the second word matches at most once, the first
available one. With `m` matches, `t` half the number of matched characters that appear in
a different order, and lengths `a` and `b`, the similarity is
`(m / a + m / b + (m - t) / m) / 3`, and zero without matches.

The similarity is a binary64 value, each quotient, sum and the last division rounded to
nearest in that order. Whether a word passes the threshold 0.7 can hang on that rounding:
`(3/5 + 3/6 + 3/3) / 3` comes out just above the double nearest 0.7.

Main definitions: `Text.jaro`, `Text.similarTo`.
-/

namespace MarketChat

namespace Text

/-- Mark the first unmatched character of `bs` equal to `c` whose index lies in
`[lo, hi)`; `none` when there is none. -/
def claim (c : Char) (lo hi : Nat) : List (Char × Bool) → Nat → Option (List (Char × Bool))
  | [], _ => none
  | (d, used) :: rest, j =>
    if lo ≤ j && j < hi && !used && d = c then some ((d, true) :: rest)
    else (claim c lo hi rest (j + 1)).map ((d, used) :: ·)

/-- Match the characters of `as` in order against `bs`: which characters of each matched. -/
def matchAll (range : Nat) : List Char → Nat → List (Char × Bool) → List (Char × Bool) ×
    List (Char × Bool)
  | [], _, bs => ([], bs)
  | c :: cs, i, bs =>
    let lo := i - range
    let hi := min bs.length (i + range + 1)
    match claim c lo hi bs 0 with
    | some bs' =>
      let (rest, bs'') := matchAll range cs (i + 1) bs'
      ((c, true) :: rest, bs'')
    | none =>
      let (rest, bs'') := matchAll range cs (i + 1) bs
      ((c, false) :: rest, bs'')

/-- The matched characters, in order. -/
def matched (xs : List (Char × Bool)) : List Char := xs.filterMap fun (c, m) => if m then some c else none

/-- The double nearest to `n / d`. -/
def quotient (n d : Nat) : Binary64 :=
  ((Binary64.ofNat n).div (Binary64.ofNat d)).getD Binary64.zero

/-- The Jaro similarity of two words. -/
def jaro (a b : String) : Binary64 :=
  let as := a.toList
  let bs := b.toList
  if as.isEmpty && bs.isEmpty then Binary64.ofNat 1
  else if as.isEmpty || bs.isEmpty then Binary64.zero
  else
    let range := max as.length bs.length / 2 - 1
    let (am, bm) := matchAll range as 0 (bs.map (·, false))
    let ma := matched am
    let mb := matched (bm)
    let m := ma.length
    if m = 0 then Binary64.zero
    else
      let t := ((ma.zip mb).filter fun (x, y) => x ≠ y).length / 2
      let sum := ((quotient m as.length).add (quotient m bs.length)).bind
        (·.add (quotient (m - t) m))
      ((sum.bind (·.div (Binary64.ofNat 3))).getD Binary64.zero)

/-- The threshold a similar word exceeds: the double nearest 0.7. -/
def suggestionThreshold : Binary64 := quotient 7 10

/-- The candidates whose similarity to `w` exceeds 0.7, from least to most similar; of
equally similar ones the earlier candidate comes first. -/
def similarTo (w : String) (candidates : List String) : List String :=
  let scored := (candidates.map fun c => (jaro w c, c)).filter fun (r, _) => suggestionThreshold.lt r
  (scored.mergeSort fun x y => !(y.1.lt x.1)).map (·.2)

end Text

end MarketChat
