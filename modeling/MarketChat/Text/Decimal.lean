/-!
# Decimal integers

Reading a signed 64-bit integer from text: an optional `+` or `-`, then one or more ASCII
digits and nothing else. The digits are read left to right, and the first problem met is
the one reported: a character that is not a digit, or a value leaving the 64-bit range.
So `99999999999999999999x` is too large rather than malformed, because the value leaves
the range before the `x` is reached.

Main definitions: `IntError`, `Text.readInt64`.
-/

namespace MarketChat

/-- Why a text is not a 64-bit integer. -/
inductive IntError where
  | empty
  | invalidDigit
  | tooLarge
  | tooSmall
  deriving Repr, DecidableEq

/-- The sentence describing the problem. -/
def IntError.message : IntError → String
  | .empty => "cannot parse integer from empty string"
  | .invalidDigit => "invalid digit found in string"
  | .tooLarge => "number too large to fit in target type"
  | .tooSmall => "number too small to fit in target type"

namespace Text

/-- The largest magnitude a 64-bit integer of the given sign can have: `2^63`, or `2^63 - 1`. -/
def int64Bound (negative : Bool) : Nat :=
  if negative then 9223372036854775808 else 9223372036854775807

/-- Read digits onto `acc`, failing at the first non-digit or when the magnitude passes
`bound`. -/
def readDigits (negative : Bool) : Nat → List Char → Except IntError Nat
  | acc, [] => .ok acc
  | acc, c :: cs =>
    if c.isDigit then
      let acc := acc * 10 + (c.toNat - '0'.toNat)
      if acc > int64Bound negative then .error (if negative then .tooSmall else .tooLarge)
      else readDigits negative acc cs
    else .error .invalidDigit

/-- Read a signed 64-bit integer. -/
def readInt64 (s : String) : Except IntError Int :=
  match s.toList with
  | [] => .error .empty
  | ['+'] | ['-'] => .error .invalidDigit
  | '-' :: cs => (fun n => -(n : Int)) <$> readDigits true 0 cs
  | '+' :: cs => (fun n => (n : Int)) <$> readDigits false 0 cs
  | cs => (fun n => (n : Int)) <$> readDigits false 0 cs

end Text

end MarketChat
