import MarketChat.Binary64.Shortest
/-!
# Decimal text of a double

Two spellings of the shortest digits `d · 10^k` are used by this library, and both write
only those digits, padded with zeros where the decimal point needs them.

* `Binary64.jsonText`, the number text of a JSON document, a tie of digits going to the even
  one: positional while the decimal
  point stays within sixteen places left of the last digit and five places right of the
  first, always with a fractional part (`12.0`); otherwise scientific with a signed
  exponent (`1e+20`, `1.2345678901234568e+29`, `1e-7`). Zero is `0.0` or `-0.0`.
* `Binary64.plainText`, the positional text of an id, a tie of digits going up to the larger
  magnitude (`1125899906842624.3` for `2^50 + 0.25`): never an exponent and no `.0` on a
  whole number (`1`, `100000000000000000000`, `0.00000025`). Zero is `0` or `-0`.
-/

namespace MarketChat

namespace Binary64

/-- `n` zeros. -/
def zeros (n : Nat) : String := String.ofList (List.replicate n '0')

/-- The sign prefix: a minus for a negative value, a negative zero included. -/
def signText (x : Binary64) : String := if x.neg then "-" else ""

/-- The JSON number text of a double. -/
def jsonText (x : Binary64) : String :=
  if x.mant = 0 then signText x ++ "0.0"
  else
    let (d, k) := x.shortest .even
    let digits := (Nat.repr d).toList
    let n := digits.length
    let point : Int := n + k
    let body :=
      if 0 ≤ k ∧ point ≤ 16 then
        String.ofList digits ++ zeros k.toNat ++ ".0"
      else if 0 < point ∧ point ≤ 16 then
        String.ofList (digits.take point.toNat) ++ "." ++ String.ofList (digits.drop point.toNat)
      else if -5 < point ∧ point ≤ 0 then
        "0." ++ zeros (-point).toNat ++ String.ofList digits
      else
        let e := point - 1
        let expText := if e < 0 then "-" ++ Nat.repr (-e).toNat else "+" ++ Nat.repr e.toNat
        let mantText := match digits with
          | [c] => String.singleton c
          | c :: rest => String.singleton c ++ "." ++ String.ofList rest
          | [] => "0"
        mantText ++ "e" ++ expText
    signText x ++ body

/-- The positional text of a double, without exponent and without a trailing `.0`. -/
def plainText (x : Binary64) : String :=
  if x.mant = 0 then signText x ++ "0"
  else
    let (d, k) := x.shortest .up
    let digits := (Nat.repr d).toList
    let n := digits.length
    let point : Int := n + k
    let body :=
      if point ≤ 0 then "0." ++ zeros (-point).toNat ++ String.ofList digits
      else if point < n then
        String.ofList (digits.take point.toNat) ++ "." ++ String.ofList (digits.drop point.toNat)
      else String.ofList digits ++ zeros (point - n).toNat
    signText x ++ body

end Binary64

end MarketChat
