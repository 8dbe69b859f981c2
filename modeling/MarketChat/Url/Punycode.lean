/-!
# Punycode

The bootstring encoding of a label (RFC 3492) with the parameters of IDNA: base 36,
`tmin = 1`, `tmax = 26`, skew 38, damp 700, initial bias 72 and initial code point 128.

The ASCII characters of the label come first, as they are, followed by `-` when there are
any. Then the other code points are inserted in ascending order of value: each insertion is
a delta, counting every position passed since the last one, written as a variable-length
number of base-36 digits whose thresholds follow a bias adapted after each insertion.

Decoding reads the same numbers back. The ASCII part is what stands before the last `-`
(when that `-` is not the first character); each number read moves an insertion point and
code point forward, and the code point is inserted there. Digits are read in either case. A
text fails to decode when a number is cut short, a character is not a digit, a number or
code point passes 32 bits, or the code point is a surrogate or beyond the last code point.

Every loop has a measure: the adaptation divides its delta, a digit run divides its number,
the insertion loop consumes the sorted code points, and each number read consumes at least
one digit.

Main definitions: `Punycode.encode`, `Punycode.decode`.
-/

namespace MarketChat

namespace Punycode

/-- The digit character of a value below 36: `a`–`z`, then `0`–`9`. -/
def digit (d : Nat) : Char := if d < 26 then Char.ofNat (97 + d) else Char.ofNat (22 + d)

/-- The threshold of the digit at position `k` (a multiple of 36) under a bias. -/
def threshold (k bias : Nat) : Nat :=
  if k ≤ bias then 1 else if k ≥ bias + 26 then 26 else k - bias

/-- A threshold is positive, so every digit position weighs at least one. -/
theorem threshold_pos (k bias : Nat) : 0 < threshold k bias := by
  unfold threshold; split
  · omega
  · split <;> omega

/-- A threshold is at most 26. -/
theorem threshold_le (k bias : Nat) : threshold k bias ≤ 26 := by
  unfold threshold; split
  · omega
  · split <;> omega

/-- Divide the delta by 35 until it is at most 455, counting 36 per division. -/
def scaleDown (delta k : Nat) : Nat × Nat :=
  if 455 < delta then scaleDown (delta / 35) (k + 36) else (delta, k)
termination_by delta
decreasing_by omega

/-- The bias after an insertion. -/
def adapt (delta count : Nat) (first : Bool) : Nat :=
  let d := if first then delta / 700 else delta / 2
  let d := d + d / count
  let (d, k) := scaleDown d 0
  k + 36 * d / (d + 38)

/-- The digits of a delta, least significant first, from position `k`. -/
def deltaDigits (bias k q : Nat) : List Char :=
  let t := threshold k bias
  if h : q < t then [digit q]
  else digit (t + (q - t) % (36 - t)) :: deltaDigits bias (k + 36) ((q - t) / (36 - t))
termination_by q
decreasing_by
  have h1 := threshold_pos k bias
  have h2 := threshold_le k bias
  exact Nat.lt_of_le_of_lt (Nat.div_le_self _ _) (by omega)

/-- The state of the insertion loop: digits written, delta, bias and code points handled. -/
structure Progress where
  out : List Char
  delta : Nat
  bias : Nat
  handled : Nat

/-- Pass one character of the label while inserting code point `m`: a smaller one counts
towards the delta, `m` itself writes the delta and adapts the bias. -/
def passChar (basic m : Nat) (p : Progress) (c : Char) : Progress :=
  if c.toNat < m then { p with delta := p.delta + 1 }
  else if c.toNat = m then
    { out := p.out ++ deltaDigits p.bias 36 p.delta, delta := 0,
      bias := adapt p.delta (p.handled + 1) (p.handled == basic), handled := p.handled + 1 }
  else p

/-- Insert the code points of `pending`, ascending, after code point `n`. -/
def insertAll (label : List Char) (basic : Nat) : List Nat → Nat → Progress → Progress
  | [], _, p => p
  | m :: rest, n, p =>
    let p := { p with delta := p.delta + (m - n) * (p.handled + 1) }
    let p := label.foldl (passChar basic m) p
    insertAll label basic rest (m + 1) { p with delta := p.delta + 1 }

/-- Insert a value into an ascending list without repeats. -/
def insertAscending (x : Nat) : List Nat → List Nat
  | [] => [x]
  | y :: ys => if x < y then x :: y :: ys else if x = y then y :: ys else y :: insertAscending x ys

/-- The Punycode of a label, without the `xn--` prefix. -/
def encode (label : List Char) : String :=
  let basic := label.filter (·.toNat < 0x80)
  let others := (label.filter (0x80 ≤ ·.toNat)).foldr (fun c acc => insertAscending c.toNat acc) []
  let start : Progress := { out := [], delta := 0, bias := 72, handled := basic.length }
  let p := insertAll label basic.length others 128 start
  String.ofList (basic ++ (if basic.isEmpty then [] else ['-']) ++ p.out)

/-- The value of a digit character: `a`–`z` or `A`–`Z` for 0–25, `0`–`9` for 26–35. -/
def digitValue (c : Char) : Option Nat :=
  if 'a' ≤ c && c ≤ 'z' then some (c.toNat - 'a'.toNat)
  else if 'A' ≤ c && c ≤ 'Z' then some (c.toNat - 'A'.toNat)
  else if '0' ≤ c && c ≤ '9' then some (c.toNat - '0'.toNat + 26)
  else none

/-- The bound every number of the decoder stays below: `2^32`. -/
def wordBound : Nat := 4294967296

/-- Read one number, least significant digit first, adding it to `i`: the digit at
position `k` weighs `w`. The new `i` and the rest of the text, or `none` when the digits run
out, a character is no digit, or a value reaches `wordBound`. -/
def readNumber (bias : Nat) : List Char → Nat → Nat → Nat → Option (Nat × List Char)
  | [], _, _, _ => none
  | c :: rest, k, w, i =>
    match digitValue c with
    | none => none
    | some d =>
      let i := i + d * w
      let t := threshold k bias
      if wordBound ≤ i then none
      else if d < t then some (i, rest)
      else if wordBound ≤ w * (36 - t) then none
      else readNumber bias rest (k + 36) (w * (36 - t)) i

/-- Reading a number consumes at least one character. -/
theorem readNumber_length (bias : Nat) :
    ∀ (l : List Char) (k w i : Nat) (r : Nat × List Char),
      readNumber bias l k w i = some r → r.2.length < l.length
  | [], _, _, _, _, h => by simp [readNumber] at h
  | c :: rest, k, w, i, r, h => by
    rw [readNumber] at h
    split at h
    · simp at h
    · dsimp only at h
      split at h
      · simp at h
      · split at h
        · rw [← Option.some.inj h]; simp
        · split at h
          · simp at h
          · have := readNumber_length bias rest (k + 36) _ _ r h
            simp; omega

/-- Insert a character at a position of a list. -/
def insertAt (pos : Nat) (c : Char) (xs : List Char) : List Char := xs.take pos ++ c :: xs.drop pos

/-- Decode the numbers of `input` into insertions into `out`, with the bias, the current
code point `n` and insertion point `i`. -/
def decodeInsertions (bias n i : Nat) (out : List Char) (input : List Char) :
    Option (List Char) :=
  match input with
  | [] => some out
  | c :: cs =>
    match h : readNumber bias (c :: cs) 36 1 i with
    | none => none
    | some (j, rest) =>
      let len := out.length + 1
      let n' := n + j / len
      if wordBound ≤ n' then none
      else if n'.isValidChar then
        have : rest.length < (c :: cs).length := readNumber_length bias (c :: cs) 36 1 i _ h
        decodeInsertions (adapt (j - i) len (i = 0)) n' (j % len + 1)
          (insertAt (j % len) (Char.ofNat n') out) rest
      else none
termination_by input.length
decreasing_by exact this

/-- The position of the last `-` of a text, if it has one. -/
def lastDash (cs : List Char) : Option Nat :=
  (cs.zipIdx.filter (·.1 = '-')).getLast?.map (·.2)

/-- The label a Punycode text (without `xn--`) stands for, or `none` when it fails to
decode. -/
def decode (input : List Char) : Option (List Char) :=
  match lastDash input with
  | some pos =>
    let rest := if pos > 0 then input.drop (pos + 1) else input
    decodeInsertions 72 128 0 (input.take pos) rest
  | none => decodeInsertions 72 128 0 [] input

end Punycode

end MarketChat
