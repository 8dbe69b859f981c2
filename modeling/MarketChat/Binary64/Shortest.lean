import MarketChat.Binary64.Basic
/-!
# Shortest decimal digits of a double

Every positive double `v` owns the interval of reals that round to it: halfway to each
neighbour, both ends included when the significand is even. The shortest decimal of `v` is
the decimal with the fewest significant digits inside that interval, and of two such
decimals the one nearer to `v`. An exact tie is broken by a `Tie` rule: toward the even last
digit, or up to the larger magnitude.

For `n = 1, 2, …, 17` the search looks at the `n`-digit grid around `v`: only the two grid
points next to `v` can lie in the interval, since the interval is contiguous and contains
`v`. Seventeen digits always suffice, so the search stops by then.

Main definition: `Binary64.shortest`, the digits and exponent `(d, k)` of `d · 10^k`, with
no trailing zero in `d`.
-/

namespace MarketChat

namespace Binary64

/-- How a tie between two equally near shortest decimals is broken. -/
inductive Tie where
  /-- The decimal whose last digit is even. -/
  | even
  /-- The decimal of larger magnitude. -/
  | up
  deriving DecidableEq, Repr

/-- `c · 10^k` compared with `x · 2^f`, in exact integers. -/
def cmpScaled (c : Nat) (k : Int) (x : Nat) (f : Int) : Ordering :=
  let lhs := c * Nat.pow 10 k.toNat * Nat.pow 2 (-f).toNat
  let rhs := x * Nat.pow 2 f.toNat * Nat.pow 10 (-k).toNat
  compare lhs rhs

/-- `m · 2^e / 10^k` as quotient, remainder and divisor. -/
def divPow10 (m : Nat) (e k : Int) : Nat × Nat × Nat :=
  let num := m * Nat.pow 2 e.toNat * Nat.pow 10 (-k).toNat
  let den := Nat.pow 2 (-e).toNat * Nat.pow 10 k.toNat
  (num / den, num % den, den)

/-- The decimal exponent `K` with `10^K ≤ m · 2^e < 10^(K+1)`, for `m > 0`.

The first guess is `⌊(log₂ m + e) · log₁₀ 2⌋`, off by at most one either way; the exact
comparisons settle it. -/
def decimalExponent (m : Nat) (e : Int) : Int :=
  let guess : Int := (((m.log2 : Int) + e) * 78913) / 262144
  let fits (k : Int) : Bool :=
    cmpScaled 1 k m e != .gt && cmpScaled 1 (k + 1) m e == .gt
  if fits (guess - 1) then guess - 1
  else if fits guess then guess
  else if fits (guess + 1) then guess + 1
  else guess + 2

/-- The rounding interval of a positive double, scaled by `2^(e-2)`: `(lo, hi, inclusive)`.
The gap below is half as wide at the bottom of a binade. -/
def roundingInterval (x : Binary64) : Nat × Nat × Bool :=
  let lo := if x.mant = mantBound / 2 ∧ x.exp > minExp then 4 * x.mant - 1 else 4 * x.mant - 2
  (lo, 4 * x.mant + 2, x.mant % 2 == 0)

/-- The decimal `c · 10^k` lies in the rounding interval of `x`. -/
def inInterval (x : Binary64) (c : Nat) (k : Int) : Bool :=
  let (lo, hi, incl) := roundingInterval x
  let aboveLo := match cmpScaled c k lo (x.exp - 2) with
    | .gt => true
    | .eq => incl
    | .lt => false
  let belowHi := match cmpScaled c k hi (x.exp - 2) with
    | .lt => true
    | .eq => incl
    | .gt => false
  aboveLo && belowHi

/-- Drop trailing zeros of `d`, moving them into the exponent. -/
def stripZeros : Nat → Nat → Int → Nat × Int
  | 0, d, k => (d, k)
  | fuel + 1, d, k =>
    if d ≠ 0 ∧ d % 10 = 0 then stripZeros fuel (d / 10) (k + 1) else (d, k)

/-- The nearest `n`-digit decimal inside the rounding interval, if there is one. -/
def onGrid (x : Binary64) (tie : Tie) (top : Int) (n : Nat) : Option (Nat × Int) :=
  let k := top - n + 1
  let (q, r, den) := divPow10 x.mant x.exp k
  if r = 0 then some (q, k)
  else
    let downIn := inInterval x q k
    let upIn := inInterval x (q + 1) k
    if downIn && upIn then
      -- both neighbours read back: the nearer wins, a tie goes as the rule says
      if 2 * r < den then some (q, k)
      else if 2 * r > den then some (q + 1, k)
      else match tie with
        | .even => if q % 2 = 0 then some (q, k) else some (q + 1, k)
        | .up => some (q + 1, k)
    else if downIn then some (q, k)
    else if upIn then some (q + 1, k)
    else none

/-- Search the grids of `n, n+1, …` digits, at most `fuel` of them. -/
def searchGrids (x : Binary64) (tie : Tie) (top : Int) : Nat → Nat → Option (Nat × Int)
  | 0, _ => none
  | fuel + 1, n =>
    match onGrid x tie top n with
    | some r => some r
    | none => searchGrids x tie top fuel (n + 1)

/-- The shortest decimal `d · 10^k` that reads back as `|x|`, a tie broken by `tie`;
`(0, 0)` for a zero. -/
def shortest (x : Binary64) (tie : Tie) : Nat × Int :=
  if x.mant = 0 then (0, 0)
  else
    let top := decimalExponent x.mant x.exp
    match searchGrids x tie top 17 1 with
    | some (d, k) => stripZeros 20 d k
    | none =>
      -- seventeen digits always read back; keep the truncation as a total answer
      let (q, _, _) := divPow10 x.mant x.exp (top - 16)
      stripZeros 20 q (top - 16)

end Binary64

end MarketChat
