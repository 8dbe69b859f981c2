/-!
# Instants on the UTC time line

An instant is a day of the proleptic Gregorian calendar, counted from 1970-01-01, a second of
that day and a nanosecond within the second. A nanosecond count of one second or more marks
a leap second: `23:59:59` with `1_000_000_000` nanoseconds more is written `23:59:60`.

The calendar conversion is the usual era arithmetic: four hundred Gregorian years are
146097 days, and inside an era the day of the year follows from a year that starts in March.
Divisions by a positive divisor round down here, so negative day counts need no correction.

Main definitions:

* `civilOfDays` and `daysOfCivil`, the two directions of the calendar;
* `Instant.rfc3339`, the RFC 3339 text in UTC (`2024-05-01T12:30:00.123+00:00`), the
  fraction written with 3, 6 or 9 digits and left out when zero;
* `Instant.epochMillis`, milliseconds since 1970-01-01T00:00:00Z.
-/

namespace MarketChat

/-- A calendar date of the proleptic Gregorian calendar. -/
structure CivilDate where
  year : Int
  month : Nat
  day : Nat
  deriving DecidableEq, Repr

/-- The year is a leap year of the Gregorian calendar. -/
def isLeapYear (y : Int) : Bool :=
  (y % 4 == 0 && y % 100 != 0) || y % 400 == 0

/-- The number of days of a month, for a month from 1 to 12. -/
def daysInMonth (y : Int) (m : Nat) : Nat :=
  match m with
  | 2 => if isLeapYear y then 29 else 28
  | 4 | 6 | 9 | 11 => 30
  | _ => 31

/-- Days from 1970-01-01 to the given date. -/
def daysOfCivil (d : CivilDate) : Int :=
  let y : Int := if d.month ≤ 2 then d.year - 1 else d.year
  let era : Int := y / 400
  let yoe : Int := y - era * 400
  let mp : Int := if d.month > 2 then (d.month : Int) - 3 else (d.month : Int) + 9
  let doy : Int := (153 * mp + 2) / 5 + (d.day : Int) - 1
  let doe : Int := yoe * 365 + yoe / 4 - yoe / 100 + doy
  era * 146097 + doe - 719468

/-- The date that lies the given number of days after 1970-01-01. -/
def civilOfDays (z : Int) : CivilDate :=
  let z := z + 719468
  let era : Int := z / 146097
  let doe : Int := z - era * 146097
  let yoe : Int := (doe - doe / 1460 + doe / 36524 - doe / 146096) / 365
  let y : Int := yoe + era * 400
  let doy : Int := doe - (365 * yoe + yoe / 4 - yoe / 100)
  let mp : Int := (5 * doy + 2) / 153
  let d : Int := doy - (153 * mp + 2) / 5 + 1
  let m : Int := if mp < 10 then mp + 3 else mp - 9
  { year := if m ≤ 2 then y + 1 else y, month := m.toNat, day := d.toNat }

/-- A point of the UTC time line, with room for a leap second. -/
structure Instant where
  /-- Days since 1970-01-01. -/
  days : Int
  /-- Seconds since the start of the day, below 86400. -/
  secondOfDay : Nat
  /-- Nanoseconds since the start of the second; from `10^9` on, a leap second. -/
  nanos : Nat
  deriving DecidableEq, Repr

namespace Instant

/-- Seconds since 1970-01-01T00:00:00Z, a leap second counted as the second before it. -/
def epochSeconds (t : Instant) : Int := t.days * 86400 + t.secondOfDay

/-- Milliseconds since 1970-01-01T00:00:00Z; a leap second adds its full second. -/
def epochMillis (t : Instant) : Int := t.epochSeconds * 1000 + (t.nanos / 1000000 : Nat)

/-- Two digits, zero padded. -/
def twoDigits (n : Nat) : String :=
  if n < 10 then "0" ++ Nat.repr n else Nat.repr n

/-- `n` written with at least `width` digits, zero padded on the left. -/
def padded (width n : Nat) : String :=
  let s := Nat.repr n
  String.ofList (List.replicate (width - s.length) '0') ++ s

/-- The year as RFC 3339 writes it: four digits from 0 to 9999, else signed with at least
four digits. -/
def yearText (y : Int) : String :=
  if 0 ≤ y ∧ y ≤ 9999 then padded 4 y.toNat
  else if y < 0 then "-" ++ padded 4 (-y).toNat
  else "+" ++ padded 4 y.toNat

/-- The second fraction: nothing when zero, else 3, 6 or 9 digits, the fewest that are exact. -/
def fractionText (nanos : Nat) : String :=
  if nanos = 0 then ""
  else if nanos % 1000000 = 0 then "." ++ padded 3 (nanos / 1000000)
  else if nanos % 1000 = 0 then "." ++ padded 6 (nanos / 1000)
  else "." ++ padded 9 nanos

/-- The RFC 3339 text of the instant in UTC, with the offset written `+00:00`. -/
def rfc3339 (t : Instant) : String :=
  let date := civilOfDays t.days
  let hour := t.secondOfDay / 3600
  let minute := t.secondOfDay % 3600 / 60
  let second := t.secondOfDay % 60
  -- a leap second shows as second 60
  let (second, nanos) := if t.nanos ≥ 1000000000 then (second + 1, t.nanos - 1000000000)
    else (second, t.nanos)
  yearText date.year ++ "-" ++ twoDigits date.month ++ "-" ++ twoDigits date.day ++ "T" ++
    twoDigits hour ++ ":" ++ twoDigits minute ++ ":" ++ twoDigits second ++
    fractionText nanos ++ "+00:00"

end Instant

end MarketChat
