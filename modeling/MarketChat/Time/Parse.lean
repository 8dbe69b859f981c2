import MarketChat.Time.Instant
/-!
# Reading timestamps

Two forms are accepted, tried in this order.

* **RFC 3339**: `YYYY-MM-DD`, then `T`, `t` or a space, then `hh:mm:ss`, an optional
  fraction of any length (digits past the ninth are dropped), and an offset `Z`, `z` or
  `±hh:mm` with the minus also written `−` (U+2212). The offset lies strictly within a day.
  Every field has exactly its two or four digits.
* **Naive ISO 8601**, read as UTC: `%Y-%m-%dT%H:%M:%S` with an optional fraction. Each number
  may be preceded by white space and has one or two digits (up to four for an unsigned year;
  a signed year has any number), and the `T` is an upper-case `T`.

In both forms the date must exist in the proleptic Gregorian calendar, hours run to 23,
minutes to 59, and second 60 is a leap second.

Main definition: `Instant.parse?`.
-/

namespace MarketChat

namespace Instant

/-- The fields of a timestamp as read, before the calendar check. -/
structure Fields where
  year : Int
  month : Nat
  day : Nat
  hour : Nat
  minute : Nat
  second : Nat
  nanos : Nat
  /-- Offset east of UTC, in seconds. -/
  offset : Int := 0

/-- Characters that the naive form skips before a number: Unicode white space. -/
def isBlank (c : Char) : Bool :=
  c == ' ' || ('\t' ≤ c && c ≤ '\r') || c == '\u0085' || c == '\u00A0' || c == '\u1680' ||
    ('\u2000' ≤ c && c ≤ '\u200A') || c == '\u2028' || c == '\u2029' || c == '\u202F' ||
    c == '\u205F' || c == '\u3000'

/-- The value of an ASCII digit. -/
def digitValue (c : Char) : Option Nat :=
  if c.isDigit then some (c.toNat - '0'.toNat) else none

/-- Read at least `least` and at most `most` leading digits, as many as there are; fails on a
value beyond a signed 64-bit word. -/
def number (least most : Nat) (cs : List Char) : Option (Nat × List Char) :=
  let rec go : Nat → Nat → Nat → List Char → Option (Nat × List Char)
    | _, _, acc, [] => some (acc, [])
    | 0, _, acc, rest => some (acc, rest)
    | budget + 1, taken, acc, c :: rest =>
      match digitValue c with
      | some v =>
        let acc := acc * 10 + v
        if acc ≥ 9223372036854775808 then none else go budget (taken + 1) acc rest
      | none => some (acc, c :: rest)
  -- too few digits fail; so do too few characters
  if cs.length < least then none
  else
    match go most 0 0 cs with
    | some (v, rest) => if cs.length - rest.length < least then none else some (v, rest)
    | none => none

/-- Read a fraction after its point: up to nine digits scaled to nanoseconds, later digits
dropped. -/
def fraction (cs : List Char) : Option (Nat × List Char) :=
  match number 1 9 cs with
  | some (v, rest) =>
    let used := cs.length - rest.length
    some (v * Nat.pow 10 (9 - used), rest.dropWhile Char.isDigit)
  | none => none

/-- Expect one given character. -/
def expect (c : Char) : List Char → Option (List Char)
  | d :: rest => if c = d then some rest else none
  | [] => none

/-- Read the optional fraction of a second. -/
def optFraction : List Char → Option (Nat × List Char)
  | '.' :: rest => fraction rest
  | cs => some (0, cs)

/-- Read the RFC 3339 offset: `Z`, `z` or `±hh:mm`. -/
def offset : List Char → Option (Int × List Char)
  | 'Z' :: rest => some (0, rest)
  | 'z' :: rest => some (0, rest)
  | c :: rest =>
    let sign : Option Int := if c = '+' then some 1 else if c = '-' ∨ c = '−' then some (-1)
      else none
    match sign, rest with
    | some s, h1 :: h2 :: ':' :: m1 :: m2 :: tail =>
      match digitValue h1, digitValue h2, digitValue m1, digitValue m2 with
      | some a, some b, some x, some y =>
        if x ≥ 6 then none else some (s * ((a * 10 + b) * 3600 + (x * 10 + y) * 60), tail)
      | _, _, _, _ => none
    | _, _ => none
  | [] => none

/-- Read the RFC 3339 form; the whole text must be used. -/
def rfc3339Fields (cs : List Char) : Option Fields := do
  let (year, cs) ← number 4 4 cs
  let cs ← expect '-' cs
  let (month, cs) ← number 2 2 cs
  let cs ← expect '-' cs
  let (day, cs) ← number 2 2 cs
  let cs ← match cs with
    | c :: rest => if c = 'T' ∨ c = 't' ∨ c = ' ' then some rest else none
    | [] => none
  let (hour, cs) ← number 2 2 cs
  let cs ← expect ':' cs
  let (minute, cs) ← number 2 2 cs
  let cs ← expect ':' cs
  let (second, cs) ← number 2 2 cs
  let (nanos, cs) ← optFraction cs
  let (off, cs) ← offset cs
  if off.natAbs > 23 * 3600 + 59 * 60 then none
  else if cs.isEmpty then some ⟨year, month, day, hour, minute, second, nanos, off⟩
  else none

/-- Read a naive number: white space first, then one to `most` digits. -/
def naiveNumber (most : Nat) (cs : List Char) : Option (Nat × List Char) :=
  number 1 most (cs.dropWhile isBlank)

/-- Read a naive year: an optional sign with any number of digits, else up to four digits. -/
def naiveYear (cs : List Char) : Option (Int × List Char) :=
  match cs.dropWhile isBlank with
  | '-' :: rest => (number 1 rest.length rest).map fun (v, r) => (-(v : Int), r)
  | '+' :: rest => (number 1 rest.length rest).map fun (v, r) => ((v : Int), r)
  | rest => (number 1 4 rest).map fun (v, r) => ((v : Int), r)

/-- Read the naive form `%Y-%m-%dT%H:%M:%S%.f`; the whole text must be used. -/
def naiveFields (cs : List Char) : Option Fields := do
  let (year, cs) ← naiveYear cs
  let cs ← expect '-' cs
  let (month, cs) ← naiveNumber 2 cs
  let cs ← expect '-' cs
  let (day, cs) ← naiveNumber 2 cs
  let cs ← expect 'T' cs
  let (hour, cs) ← naiveNumber 2 cs
  let cs ← expect ':' cs
  let (minute, cs) ← naiveNumber 2 cs
  let cs ← expect ':' cs
  let (second, cs) ← naiveNumber 2 cs
  let (nanos, cs) ← optFraction cs
  if cs.isEmpty then some ⟨year, month, day, hour, minute, second, nanos, 0⟩ else none

/-- The earliest year of the calendar range. -/
def minYear : Int := -262143

/-- The latest year of the calendar range. -/
def maxYear : Int := 262142

/-- The instant the fields name, after the calendar and clock checks. -/
def ofFields (f : Fields) : Option Instant :=
  if f.month < 1 ∨ f.month > 12 ∨ f.day < 1 ∨ f.day > daysInMonth f.year f.month then none
  else if f.year < minYear ∨ f.year > maxYear then none
  else if f.hour > 23 ∨ f.minute > 59 ∨ f.second > 60 then none
  else
    -- second 60 is the leap second after second 59
    let (second, nanos) := if f.second = 60 then (59, f.nanos + 1000000000) else (f.second, f.nanos)
    let localSecs := daysOfCivil ⟨f.year, f.month, f.day⟩ * 86400 +
      ((f.hour * 3600 + f.minute * 60 + second : Nat) : Int)
    let utc := localSecs - f.offset
    let days := utc / 86400
    let t : Instant := ⟨days, (utc % 86400).toNat, nanos⟩
    let year := (civilOfDays days).year
    if year < minYear ∨ year > maxYear then none else some t

/-- Read a timestamp in either accepted form, RFC 3339 first. -/
def parse? (s : String) : Option Instant :=
  match (rfc3339Fields s.toList).bind ofFields with
  | some t => some t
  | none => (naiveFields s.toList).bind ofFields

end Instant

end MarketChat
