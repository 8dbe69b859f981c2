/-!
# Binary64 values as exact rationals

A finite IEEE 754 binary64 number is `± m · 2^e` with an integer significand `m < 2^53` and
the exponent `e ≥ -1074` of its last bit. This module keeps exactly those three pieces and
rounds every arithmetic result from the exact rational, to the nearest representable value
with ties going to an even significand. That is all IEEE 754 asks of `×` and `÷`, so results
agree with hardware doubles while every value stays evaluable inside proofs.

An operation whose exact result lies beyond the largest finite double answers `none`: the
readers of this library never keep an infinity, they refuse the number instead.

Main definitions:

* `Binary64.roundQuotient neg num den e` — the double nearest to `± num / den · 2^e`;
* `Binary64.ofNat`, `Binary64.add`, `Binary64.mul`, `Binary64.div`, `Binary64.pow10`;
* `Binary64.lt`, the order of the values.
-/

namespace MarketChat

/-- A finite binary64 number `(-1)^neg · mant · 2^exp`.

Values built by this module are canonical: `mant < 2^53`, `exp ≥ -1074`, and either
`2^52 ≤ mant` (a normal number) or `exp = -1074` (a subnormal number or a zero). A zero
keeps its sign, as IEEE 754 does. -/
structure Binary64 where
  neg : Bool
  mant : Nat
  exp : Int
  deriving DecidableEq, Repr, Inhabited

namespace Binary64

/-- The exponent of the last significand bit of the smallest subnormal. -/
def minExp : Int := -1074

/-- The exponent of the last significand bit of the largest finite double. -/
def maxExp : Int := 971

/-- The significand bound: every canonical significand is below `2^53`. -/
def mantBound : Nat := 9007199254740992

/-- Positive zero. -/
def zero : Binary64 := ⟨false, 0, minExp⟩

/-- The value is a zero of either sign. -/
def isZero (x : Binary64) : Bool := x.mant == 0

/-- The same magnitude with the other sign. -/
def negate (x : Binary64) : Binary64 := { x with neg := !x.neg }

/-- `num · 2^(e2 - e) / den` as a quotient and remainder over the returned divisor:
the value `num / den · 2^e2` measured in units of `2^e`. -/
def scaled (num den : Nat) (e2 e : Int) : Nat × Nat × Nat :=
  if e ≤ e2 then
    let n := num * Nat.pow 2 (e2 - e).toNat
    (n / den, n % den, den)
  else
    let d := den * Nat.pow 2 (e - e2).toNat
    (num / d, num % d, d)

/-- Round a quotient `q + r/d` (with `r < d`) to the nearest integer, a half going to the
even neighbour. -/
def roundHalfEven (q r d : Nat) : Nat :=
  if 2 * r > d then q + 1
  else if 2 * r = d then (if q % 2 = 1 then q + 1 else q)
  else q

/-- The unit exponent of the first guess: the significand then lies in `[2^52, 2^54)`, or
below when the guess is held at the subnormal exponent. -/
def firstUnit (num den : Nat) (e2 : Int) : Int :=
  max ((num.log2 : Int) - (den.log2 : Int) + e2 - 53) minExp

/-- The double nearest to `± num / den · 2^e2`, ties to even; `none` when the magnitude
rounds beyond the largest finite double. A zero numerator gives a zero of the given sign. -/
def roundQuotient (neg : Bool) (num den : Nat) (e2 : Int) : Option Binary64 :=
  if num = 0 ∨ den = 0 then some ⟨neg, 0, minExp⟩
  else
    let e0 := firstUnit num den e2
    let (q0, _, _) := scaled num den e2 e0
    -- one step up brings the truncated significand below 2^53
    let e := if q0 ≥ mantBound then e0 + 1 else e0
    let (q, r, d) := scaled num den e2 e
    let m := roundHalfEven q r d
    -- rounding up may carry into a new binade
    let (m, e) := if m = mantBound then (mantBound / 2, e + 1) else (m, e)
    if e > maxExp then none
    else if m = 0 then some ⟨neg, 0, minExp⟩
    else some ⟨neg, m, e⟩

/-- The double nearest to a natural number. -/
def ofNat (n : Nat) : Binary64 :=
  (roundQuotient false n 1 0).getD zero

/-- The double nearest to `10^k`. -/
def pow10 (k : Nat) : Binary64 :=
  (roundQuotient false (Nat.pow 10 k) 1 0).getD zero

/-- The value as an integer count of units `2^e`, for `e` at most the exponent of `x`. -/
def unitsAt (x : Binary64) (e : Int) : Int :=
  let n : Int := (x.mant * Nat.pow 2 (x.exp - e).toNat : Nat)
  if x.neg then -n else n

/-- IEEE 754 sum, rounded to nearest; `none` on overflow. An exact zero sum is negative only
when both terms are. -/
def add (x y : Binary64) : Option Binary64 :=
  let e := min x.exp y.exp
  let s := x.unitsAt e + y.unitsAt e
  if s = 0 then some ⟨x.neg && y.neg, 0, minExp⟩
  else roundQuotient (decide (s < 0)) s.natAbs 1 e

/-- `x < y` as numbers; the two zeros are equal. -/
def lt (x y : Binary64) : Bool :=
  let e := min x.exp y.exp
  decide (x.unitsAt e < y.unitsAt e)

/-- IEEE 754 product, rounded to nearest; `none` on overflow. -/
def mul (x y : Binary64) : Option Binary64 :=
  roundQuotient (x.neg != y.neg) (x.mant * y.mant) 1 (x.exp + y.exp)

/-- IEEE 754 quotient, rounded to nearest; `none` on overflow or a zero divisor. -/
def div (x y : Binary64) : Option Binary64 :=
  if y.mant = 0 then none
  else roundQuotient (x.neg != y.neg) x.mant y.mant (x.exp - y.exp)

end Binary64

end MarketChat
