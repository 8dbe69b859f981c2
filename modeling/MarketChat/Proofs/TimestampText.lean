import MarketChat.Proofs.JsonReadBack
import Mathlib.Tactic.IntervalCases
/-!
# Timestamps read back from their RFC 3339 text

A message's creation instant is written as RFC 3339 text in UTC (`Instant.rfc3339`) and read
by `Instant.parse?`, which takes that form with any offset, or the naive ISO 8601 form read as
UTC. This module shows which instants the text written reads back as.

* **The calendar.** `civilOfDays` and `daysOfCivil` are inverse on day counts, and
  `civilOfDays` gives a date of the calendar: a month from 1 to 12 and a day of that month.
  The proof follows the algorithm's own split of a 400-year era into centuries, four-year
  cycles and years counted from March (`dayOfEra_split`); the leap day is the last day of
  such a year, the one before a leap year's March.
* **Digits.** A zero-padded number reads back as the number, and a fraction written with 3, 6
  or 9 digits as its nanoseconds.
* **Instants.** Every instant a timestamp reads as is `Instant.Valid`: a second of the day, a
  nanosecond count below two seconds, and a leap second only at the last second of a minute,
  since offsets are whole minutes. A valid instant whose year has four digits, 0 to 9999,
  reads back from its text. A later or earlier year is written with a sign, which neither
  accepted form reads back (see `Message.createdAt_past_9999_unread`).

Main statements: `daysOfCivil_civilOfDays`, `civilOfDays_valid`, `Instant.valid_of_parse?`,
`Instant.parse?_rfc3339`.
-/

namespace MarketChat

/-! ## The calendar -/

/-- **A day of an era, split as the calendar algorithm splits it**: `c` centuries, `k`
four-year cycles and `r` years, all years counted from March, then the day `j` of that year.
Only the last day of a cycle's last year is its 366th (`j = 365`), and in a century's last
cycle only in the era's last century. -/
theorem dayOfEra_split {doe : Int} (h0 : 0 ≤ doe) (h1 : doe ≤ 146096) :
    ∃ c k r j : Int, 0 ≤ c ∧ c ≤ 3 ∧ 0 ≤ k ∧ k ≤ 24 ∧ 0 ≤ r ∧ r ≤ 3 ∧ 0 ≤ j ∧
      doe = 36524 * c + 1461 * k + 365 * r + j ∧
      (j ≤ 364 ∨ j = 365 ∧ r = 3 ∧ (k ≠ 24 ∨ c = 3)) := by
  obtain ⟨c, hc⟩ : ∃ c, c = min (doe / 36524) 3 := ⟨_, rfl⟩
  obtain ⟨k, hk⟩ : ∃ k, k = min ((doe - 36524 * c) / 1461) 24 := ⟨_, rfl⟩
  obtain ⟨r, hr⟩ : ∃ r, r = min ((doe - 36524 * c - 1461 * k) / 365) 3 := ⟨_, rfl⟩
  exact ⟨c, k, r, doe - 36524 * c - 1461 * k - 365 * r, by omega⟩

/-- The year of the era that `civilOfDays` computes from a day of the era is the year of its
split. -/
theorem yearOfEra_of_split {c k r j : Int} (hc0 : 0 ≤ c) (hc : c ≤ 3) (hk0 : 0 ≤ k) (hk : k ≤ 24)
    (hr0 : 0 ≤ r) (hr : r ≤ 3) (hj : 0 ≤ j) (hl : j ≤ 364 ∨ j = 365 ∧ r = 3 ∧ (k ≠ 24 ∨ c = 3)) :
    let doe := 36524 * c + 1461 * k + 365 * r + j
    (doe - doe / 1460 + doe / 36524 - doe / 146096) / 365 = 100 * c + 4 * k + r := by
  intro doe
  -- the four-year count is the split's, but one more near the end of a cycle's last year
  have h4 : doe / 1460 = 25 * c + k ∧ (r < 3 ∨ j < 365 - 24 * c - k) ∨
      doe / 1460 = 25 * c + k + 1 ∧ r = 3 ∧ 365 - 24 * c - k ≤ j := by omega
  -- the century count is the split's, but on the era's last day
  have h100 : doe / 36524 = c ∧ doe / 146096 = 0 ∨
      doe / 36524 = c + 1 ∧ doe / 146096 = 1 ∧ c = 3 := by omega
  omega

/-- The date of day `j` of the year `y` counted from March: the tail of `civilOfDays`. -/
def marchDate (y j : Int) : CivilDate :=
  let mp : Int := (5 * j + 2) / 153
  let d : Int := j - (153 * mp + 2) / 5 + 1
  let m : Int := if mp < 10 then mp + 3 else mp - 9
  { year := if m ≤ 2 then y + 1 else y, month := m.toNat, day := d.toNat }

/-- **What `civilOfDays` computes**, by the split of its day of the era. -/
theorem civilOfDays_eq (z : Int) : ∃ era c k r j : Int,
    z = era * 146097 + 36524 * c + 1461 * k + 365 * r + j - 719468 ∧
    0 ≤ c ∧ c ≤ 3 ∧ 0 ≤ k ∧ k ≤ 24 ∧ 0 ≤ r ∧ r ≤ 3 ∧ 0 ≤ j ∧
    (j ≤ 364 ∨ j = 365 ∧ r = 3 ∧ (k ≠ 24 ∨ c = 3)) ∧
    civilOfDays z = marchDate (100 * c + 4 * k + r + era * 400) j := by
  obtain ⟨c, k, r, j, hc0, hc, hk0, hk, hr0, hr, hj, hdoe, hl⟩ :=
    dayOfEra_split (show 0 ≤ z + 719468 - (z + 719468) / 146097 * 146097 by omega) (by omega)
  have hz : z = (z + 719468) / 146097 * 146097 + 36524 * c + 1461 * k + 365 * r + j - 719468 := by
    omega
  have hdoy : 36524 * c + 1461 * k + 365 * r + j -
      (365 * (100 * c + 4 * k + r) + (100 * c + 4 * k + r) / 4 - (100 * c + 4 * k + r) / 100) = j := by
    omega
  have hyoe := yearOfEra_of_split hc0 hc hk0 hk hr0 hr hj hl
  refine ⟨(z + 719468) / 146097, c, k, r, j, hz, hc0, hc, hk0, hk, hr0, hr, hj, hl, ?_⟩
  simp only [civilOfDays, marchDate]
  rw [hdoe, hyoe, hdoy]

/-- The day count of the date of day `j` of year `y` of an era. -/
theorem daysOfCivil_marchDate {era y j : Int} (hy0 : 0 ≤ y) (hy : y ≤ 399) (hj0 : 0 ≤ j)
    (hj : j ≤ 365) :
    daysOfCivil (marchDate (y + era * 400) j) =
      era * 146097 + (365 * y + y / 4 - y / 100) + j - 719468 := by
  have hmp : (5 * j + 2) / 153 ≤ 11 := by omega
  simp only [daysOfCivil, marchDate]
  by_cases hlt : (5 * j + 2) / 153 < 10
  · have hm : ¬ ((5 * j + 2) / 153 + 3).toNat ≤ 2 := by omega
    simp only [if_pos hlt, if_neg (show ¬ (5 * j + 2) / 153 + 3 ≤ 2 by omega), if_neg hm,
      if_pos (show ((5 * j + 2) / 153 + 3).toNat > 2 by omega)]
    omega
  · have hm : ((5 * j + 2) / 153 - 9).toNat ≤ 2 := by omega
    simp only [if_neg hlt, if_pos (show (5 * j + 2) / 153 - 9 ≤ 2 by omega), if_pos hm,
      if_neg (show ¬ ((5 * j + 2) / 153 - 9).toNat > 2 by omega)]
    omega

/-- **The calendar's two directions are inverse on day counts.** -/
theorem daysOfCivil_civilOfDays (z : Int) : daysOfCivil (civilOfDays z) = z := by
  obtain ⟨era, c, k, r, j, hz, hc0, hc, hk0, hk, hr0, hr, hj, hl, heq⟩ := civilOfDays_eq z
  rw [heq, daysOfCivil_marchDate (by omega) (by omega) hj (by omega)]
  omega

/-- A date of the calendar: a month from 1 to 12, and a day of that month. -/
structure CivilDate.Valid (d : CivilDate) : Prop where
  month_pos : 1 ≤ d.month
  month_le : d.month ≤ 12
  day_pos : 1 ≤ d.day
  day_le : d.day ≤ daysInMonth d.year d.month

/-- The 366th day of a year counted from March closes a leap year's February. -/
theorem isLeapYear_of_split {era c k : Int} (hk0 : 0 ≤ k) (hk : k ≤ 24) (hl : k ≠ 24 ∨ c = 3) :
    isLeapYear (100 * c + 4 * k + 3 + era * 400 + 1) = true := by
  simp only [isLeapYear, Bool.or_eq_true, Bool.and_eq_true, beq_iff_eq, bne_iff_ne, ne_eq]
  by_cases hk24 : k = 24
  · -- the last cycle of a century: the era's last year, divisible by 400
    right
    obtain rfl : c = 3 := hl.resolve_left (absurd hk24)
    omega
  · left
    omega

theorem daysInMonth_le_31 (y : Int) (m : Nat) : daysInMonth y m ≤ 31 := by
  unfold daysInMonth
  split
  · split <;> omega
  all_goals omega

/-- **`civilOfDays` gives a date of the calendar.** -/
theorem civilOfDays_valid (z : Int) : (civilOfDays z).Valid := by
  obtain ⟨era, c, k, r, j, -, hc0, hc, hk0, hk, hr0, hr, hj, hl, heq⟩ := civilOfDays_eq z
  rw [heq]
  have hleap : j = 365 → isLeapYear (100 * c + 4 * k + r + era * 400 + 1) = true := by
    intro h365
    obtain ⟨-, rfl, hkc⟩ := hl.resolve_left (by omega)
    exact isLeapYear_of_split hk0 hk hkc
  generalize 100 * c + 4 * k + r + era * 400 = y at hleap
  have hj' : j ≤ 365 := by omega
  obtain ⟨mp, hmp⟩ : ∃ mp, mp = (5 * j + 2) / 153 := ⟨_, rfl⟩
  have hmp0 : 0 ≤ mp := by omega
  have hmp11 : mp ≤ 11 := by omega
  simp only [marchDate, ← hmp]
  by_cases hfeb : mp = 11
  · -- February closes the year counted from March; its 29th day is that year's 366th
    subst hfeb
    have hday : j - 336 ≤ (daysInMonth (y + 1) 2 : Int) := by
      by_cases h365 : j = 365
      · simp [daysInMonth, hleap h365, h365]
      · rw [show daysInMonth (y + 1) 2 = if isLeapYear (y + 1) then 29 else 28 from rfl]
        split_ifs <;> omega
    constructor <;> simp <;> omega
  · -- March to January: one case per month
    have hmp10 : mp ≤ 10 := by omega
    interval_cases mp <;>
    · constructor <;> simp [daysInMonth] <;> omega

/-! ## Digits -/

namespace Instant

/-- A run of digits is worth at least what was read before it. -/
theorem le_ofDigitChars (l : List Char) (init : Nat) : init ≤ Nat.ofDigitChars 10 l init := by
  rw [Nat.ofDigitChars_eq_ofDigitChars_zero]
  exact Nat.le_add_right_of_le (Nat.le_mul_of_pos_left init (Nat.pow_pos (by decide)))

/-- A run of digits is worth less than ten to its length. -/
theorem ofDigitChars_lt : ∀ (ds : List Char), (∀ ch ∈ ds, ch.isDigit = true) →
    Nat.ofDigitChars 10 ds 0 < 10 ^ ds.length
  | [], _ => by simp [Nat.ofDigitChars_nil]
  | ch :: ds, hds => by
    have hch : ch.toNat - '0'.toNat ≤ 9 := by
      have := Char.isDigit_iff_toNat.1 (hds ch List.mem_cons_self)
      simp only [Char.reduceToNat] at this ⊢
      omega
    have ih := ofDigitChars_lt ds fun c hc => hds c (List.mem_cons_of_mem ch hc)
    rw [Nat.ofDigitChars_cons, Nat.ofDigitChars_eq_ofDigitChars_zero, List.length_cons,
      Nat.pow_succ, Nat.mul_zero, Nat.zero_add]
    have hle : 10 ^ ds.length * (ch.toNat - '0'.toNat) ≤ 10 ^ ds.length * 9 :=
      Nat.mul_le_mul_left _ hch
    omega

/-- **The timestamp digits reader takes a run of digits**, as many as its budget allows, and
stops at the first other character. -/
theorem number_go_digits : ∀ (ds : List Char) (budget taken acc : Nat) (rest : List Char),
    (∀ ch ∈ ds, ch.isDigit = true) → ds.length ≤ budget →
    (ds.length = budget ∨ ∀ ch ∈ rest.head?, ch.isDigit = false) →
    Nat.ofDigitChars 10 ds acc < 2 ^ 63 →
    number.go budget taken acc (ds ++ rest) = some (Nat.ofDigitChars 10 ds acc, rest)
  | [], budget, taken, acc, rest, _, _, hend, _ => by
    cases rest with
    | nil => cases budget <;> rfl
    | cons ch t =>
      cases budget with
      | zero => rfl
      | succ b =>
        have hch : ch.isDigit = false := hend.resolve_left (by simp) ch rfl
        simp [number.go, digitValue, hch, Nat.ofDigitChars_nil]
  | ch :: ds, budget, taken, acc, rest, hds, hlen, hend, hv => by
    obtain ⟨b, rfl⟩ : ∃ b, budget = b + 1 := ⟨budget - 1, by simp at hlen; omega⟩
    have hdig : ch.isDigit = true := hds ch List.mem_cons_self
    rw [Nat.ofDigitChars_cons] at hv ⊢
    have hmono := le_ofDigitChars ds (10 * acc + (ch.toNat - '0'.toNat))
    have ih := number_go_digits ds b (taken + 1) (10 * acc + (ch.toNat - '0'.toNat)) rest
      (fun c hc => hds c (List.mem_cons_of_mem ch hc)) (by simp at hlen; omega)
      (by simpa using hend) hv
    simp only [List.cons_append, number.go, digitValue, hdig, if_true]
    rw [if_neg (by omega), Nat.mul_comm acc 10, ih]

/-- A run of digits within the bounds of `number`, followed by anything else, reads as its
value. -/
theorem number_digits_eq {ds rest : List Char} {least most : Nat}
    (hds : ∀ ch ∈ ds, ch.isDigit = true) (hl : least ≤ ds.length) (hm : ds.length ≤ most)
    (hend : ds.length = most ∨ ∀ ch ∈ rest.head?, ch.isDigit = false)
    (hv : Nat.ofDigitChars 10 ds 0 < 2 ^ 63) :
    number least most (ds ++ rest) = some (Nat.ofDigitChars 10 ds 0, rest) := by
  unfold number
  rw [if_neg (by simp; omega), number_go_digits ds most 0 0 rest hds hm hend hv]
  simp only [List.length_append, Nat.add_sub_cancel, if_neg (Nat.not_lt.2 hl)]

theorem padded_toList (w n : Nat) :
    (padded w n).toList = List.replicate (w - (Nat.toDigits 10 n).length) '0' ++ Nat.toDigits 10 n := by
  simp [padded, Nat.repr_eq_ofList_toDigits]

theorem padded_digits (w n : Nat) : ∀ ch ∈ (padded w n).toList, ch.isDigit = true := by
  rw [padded_toList]
  intro ch hch
  rcases List.mem_append.1 hch with h | h
  · rw [List.eq_of_mem_replicate h]
    rfl
  · exact Reader.isDigit_of_mem_toDigits ch h

theorem padded_length {w n : Nat} (hw : 0 < w) (hn : n < 10 ^ w) : (padded w n).toList.length = w := by
  have := (Nat.length_toDigits_le_iff (by decide) hw).2 hn
  rw [padded_toList, List.length_append, List.length_replicate]
  omega

theorem padded_value (w n : Nat) : Nat.ofDigitChars 10 (padded w n).toList 0 = n := by
  rw [padded_toList, Nat.ofDigitChars_append, Nat.ofDigitChars_replicate_zero, Nat.mul_zero,
    Nat.ofDigitChars_ten_toDigits]

/-- **A zero-padded number reads back**, at its full width. -/
theorem number_padded {w n : Nat} {rest : List Char} (hw : 0 < w) (hn : n < 10 ^ w)
    (h63 : n < 2 ^ 63) : number w w ((padded w n).toList ++ rest) = some (n, rest) := by
  have hlen := padded_length hw hn
  rw [number_digits_eq (padded_digits w n) hlen.ge hlen.le (.inl hlen) (by rw [padded_value]; exact h63),
    padded_value]

theorem twoDigits_eq_padded (n : Nat) : twoDigits n = padded 2 n := by
  unfold twoDigits padded
  by_cases h : n < 10
  · have hlen : (Nat.repr n).length = 1 := by
      have := (Nat.length_repr_le_iff (n := n) (k := 1) (by decide)).2 (by simpa using h)
      have := @Nat.length_repr_pos n
      omega
    simp only [if_pos h, hlen]
    rfl
  · have hlen : 2 ≤ (Nat.repr n).length := by
      have := (Nat.length_repr_le_iff (n := n) (k := 1) (by decide)).not.2 (by simpa using h)
      omega
    simp [if_neg h, Nat.sub_eq_zero_of_le hlen]

/-- Two digits read back. -/
theorem number_twoDigits {n : Nat} {rest : List Char} (hn : n < 100) :
    number 2 2 ((twoDigits n).toList ++ rest) = some (n, rest) := by
  rw [twoDigits_eq_padded]
  exact number_padded (by decide) hn (by omega)

/-- A fraction written with `w` digits reads back as that many tenths, hundredths, …, of a
second, in nanoseconds. -/
theorem fraction_padded {w v : Nat} {rest : List Char} (hw : 0 < w) (hw9 : w ≤ 9)
    (hv : v < 10 ^ w) (hrest : ∀ ch ∈ rest.head?, ch.isDigit = false) :
    fraction ((padded w v).toList ++ rest) = some (v * 10 ^ (9 - w), rest) := by
  have hlen := padded_length hw hv
  have h63 : v < 2 ^ 63 := lt_of_lt_of_le hv (le_trans (Nat.pow_le_pow_right (by decide) hw9) (by decide))
  unfold fraction
  rw [number_digits_eq (padded_digits w v) (by omega) (by omega) (.inr hrest)
    (by rw [padded_value]; exact h63), padded_value]
  have hdrop : rest.dropWhile Char.isDigit = rest := by
    cases rest with
    | nil => rfl
    | cons ch t => simp [hrest ch rfl]
  simp [hlen, hdrop]

/-- **The fraction written for a nanosecond count below a second reads back**, before the
offset. -/
theorem optFraction_fractionText {n : Nat} (hn : n < 10 ^ 9) (t : List Char) :
    optFraction ((fractionText n).toList ++ '+' :: t) = some (n, '+' :: t) := by
  have hplus : ∀ ch ∈ ('+' :: t).head?, ch.isDigit = false := by simp
  unfold fractionText
  split_ifs with h0 h6 h3
  · subst h0
    rfl
  · simp only [String.toList_append, List.append_assoc]
    rw [show ".".toList = ['.'] from rfl, List.singleton_append, optFraction,
      fraction_padded (by decide) (by decide) (by omega) hplus]
    congr 2
    omega
  · simp only [String.toList_append, List.append_assoc]
    rw [show ".".toList = ['.'] from rfl, List.singleton_append, optFraction,
      fraction_padded (by decide) (by decide) (by omega) hplus]
    congr 2
    omega
  · simp only [String.toList_append, List.append_assoc]
    rw [show ".".toList = ['.'] from rfl, List.singleton_append, optFraction,
      fraction_padded (by decide) (by decide) hn hplus]
    simp

/-! ## Instants -/

/-- The year of an instant's UTC date. -/
def year (t : Instant) : Int := (civilOfDays t.days).year

/-- **An instant as the timestamp readers make it**: a second of the day, a nanosecond count
below two seconds, and a leap second (a nanosecond count of a second or more) only at the last
second of a minute. -/
structure Valid (t : Instant) : Prop where
  secondOfDay_lt : t.secondOfDay < 86400
  nanos_lt : t.nanos < 2 * 10 ^ 9
  leap_at_59 : 10 ^ 9 ≤ t.nanos → t.secondOfDay % 60 = 59

/-- The characters of a UTC timestamp with a year of four digits, as `rfc3339` writes it. -/
def utcText (y mo d h mi s n : Nat) : List Char :=
  (padded 4 y).toList ++ '-' :: ((twoDigits mo).toList ++ '-' :: ((twoDigits d).toList ++
    'T' :: ((twoDigits h).toList ++ ':' :: ((twoDigits mi).toList ++ ':' ::
    ((twoDigits s).toList ++ ((fractionText n).toList ++ ['+', '0', '0', ':', '0', '0']))))))

/-- **The fields of a UTC timestamp read back from its text.** -/
theorem rfc3339Fields_utcText {y mo d h mi s n : Nat} (hy : y < 10000) (hmo : mo < 100)
    (hd : d < 100) (hh : h < 100) (hmi : mi < 100) (hs : s < 100) (hn : n < 10 ^ 9) :
    rfc3339Fields (utcText y mo d h mi s n) = some ⟨y, mo, d, h, mi, s, n, 0⟩ := by
  have hoff : offset ['+', '0', '0', ':', '0', '0'] = some (0, []) := rfl
  unfold rfc3339Fields utcText
  rw [number_padded (by decide) (show y < 10 ^ 4 from hy) (by omega)]
  simp only [bind, Option.bind, expect, number_twoDigits hmo, number_twoDigits hd,
    number_twoDigits hh, number_twoDigits hmi, number_twoDigits hs, optFraction_fractionText hn,
    hoff, if_true]
  simp

/-- The text of an instant of the years 0 to 9999: a leap second is shown as second 60. -/
theorem rfc3339_toList {t : Instant} (hy0 : 0 ≤ t.year) (hy : t.year ≤ 9999) :
    t.rfc3339.toList = utcText t.year.toNat (civilOfDays t.days).month (civilOfDays t.days).day
      (t.secondOfDay / 3600) (t.secondOfDay % 3600 / 60)
      (if 10 ^ 9 ≤ t.nanos then t.secondOfDay % 60 + 1 else t.secondOfDay % 60)
      (if 10 ^ 9 ≤ t.nanos then t.nanos - 10 ^ 9 else t.nanos) := by
  unfold rfc3339 utcText
  unfold year at hy0 hy
  have hdash : "-".toList = ['-'] := rfl
  have hT : "T".toList = ['T'] := rfl
  have hcolon : ":".toList = [':'] := rfl
  have hzone : "+00:00".toList = ['+', '0', '0', ':', '0', '0'] := rfl
  by_cases hl : 10 ^ 9 ≤ t.nanos
  · simp only [show t.nanos ≥ 1000000000 from hl, if_true, yearText,
      if_pos (And.intro hy0 hy), String.toList_append, List.append_assoc, hdash, hT, hcolon, hzone,
      List.cons_append, List.nil_append, year, Nat.reducePow]
  · simp only [show ¬ t.nanos ≥ 1000000000 from hl, if_false, yearText,
      if_pos (And.intro hy0 hy), String.toList_append, List.append_assoc, hdash, hT, hcolon, hzone,
      List.cons_append, List.nil_append, year, Nat.reducePow]

/-- The fields shown for a valid instant name that instant again. -/
theorem ofFields_shown {t : Instant} (ht : t.Valid) (hy0 : 0 ≤ t.year) (hy : t.year ≤ 9999) :
    ofFields ⟨t.year.toNat, (civilOfDays t.days).month, (civilOfDays t.days).day,
      t.secondOfDay / 3600, t.secondOfDay % 3600 / 60,
      if 10 ^ 9 ≤ t.nanos then t.secondOfDay % 60 + 1 else t.secondOfDay % 60,
      if 10 ^ 9 ≤ t.nanos then t.nanos - 10 ^ 9 else t.nanos, 0⟩ = some t := by
  obtain ⟨hmo1, hmo12, hd1, hdmax⟩ := civilOfDays_valid t.days
  have hdays : daysOfCivil ⟨(civilOfDays t.days).year, (civilOfDays t.days).month,
      (civilOfDays t.days).day⟩ = t.days := daysOfCivil_civilOfDays t.days
  unfold year at hy0 hy
  have hyear : (((civilOfDays t.days).year.toNat : Nat) : Int) = (civilOfDays t.days).year := by
    omega
  have hrange : ¬ ((civilOfDays t.days).year < minYear ∨ (civilOfDays t.days).year > maxYear) := by
    unfold minYear maxYear
    omega
  obtain ⟨hsod, hnanos, hleap⟩ := ht
  have hsecs : t.secondOfDay / 3600 * 3600 + t.secondOfDay % 3600 / 60 * 60 + t.secondOfDay % 60 =
      t.secondOfDay := by omega
  have hday : (t.days * 86400 + (t.secondOfDay : Int) - 0) / 86400 = t.days := by omega
  have hsec : ((t.days * 86400 + (t.secondOfDay : Int) - 0) % 86400).toNat = t.secondOfDay := by
    omega
  unfold ofFields
  by_cases hl : 10 ^ 9 ≤ t.nanos
  · -- a leap second is shown as second 60 and read as second 59 with a second of nanoseconds
    have hsecs59 : t.secondOfDay / 3600 * 3600 + t.secondOfDay % 3600 / 60 * 60 + 59 =
        t.secondOfDay := by
      have := hleap hl
      omega
    simp only [year, if_pos hl, if_pos (show t.secondOfDay % 60 + 1 = 60 by have := hleap hl; omega),
      hyear, hdays, hsecs59, hday, hsec]
    rw [if_neg (by omega), if_neg hrange, if_neg (by omega), if_neg hrange]
    rw [show t.nanos - 10 ^ 9 + 1000000000 = t.nanos by omega]
  · simp only [year, if_neg hl, if_neg (show t.secondOfDay % 60 ≠ 60 by omega), hyear, hdays,
      hsecs, hday, hsec]
    rw [if_neg (by omega), if_neg hrange, if_neg (by omega), if_neg hrange]

/-- **A valid instant of the years 0 to 9999 reads back from its RFC 3339 text.** -/
theorem parse?_rfc3339 {t : Instant} (ht : t.Valid) (hy0 : 0 ≤ t.year) (hy : t.year ≤ 9999) :
    parse? t.rfc3339 = some t := by
  have hsod := ht.secondOfDay_lt
  have hnanos := ht.nanos_lt
  obtain ⟨hmo1, hmo12, hd1, hdmax⟩ := civilOfDays_valid t.days
  have hdim := daysInMonth_le_31 (civilOfDays t.days).year (civilOfDays t.days).month
  -- every field fits its digits
  have hy' : t.year.toNat < 10000 := by omega
  have hs : (if 10 ^ 9 ≤ t.nanos then t.secondOfDay % 60 + 1 else t.secondOfDay % 60) < 100 := by
    split_ifs <;> omega
  have hn : (if 10 ^ 9 ≤ t.nanos then t.nanos - 10 ^ 9 else t.nanos) < 10 ^ 9 := by
    split_ifs <;> omega
  unfold parse?
  rw [rfc3339_toList hy0 hy, rfc3339Fields_utcText hy' (by omega) (by omega) (by omega) (by omega)
    hs hn, Option.bind_some, ofFields_shown ht hy0 hy]

/-! ### What the readers accept -/

/-- What the timestamp digits reader took: a run of digits within its budget. -/
theorem number_go_some : ∀ {budget taken acc : Nat} {cs rest : List Char} {v : Nat},
    number.go budget taken acc cs = some (v, rest) →
    ∃ ds, cs = ds ++ rest ∧ (∀ ch ∈ ds, ch.isDigit = true) ∧ ds.length ≤ budget ∧
      v = Nat.ofDigitChars 10 ds acc
  | _, _, acc, [], rest, v, h => by
    rw [number.go] at h
    obtain ⟨rfl, rfl⟩ := Prod.mk.inj (Option.some.inj h)
    exact ⟨[], by simp, by simp, by simp, by simp [Nat.ofDigitChars_nil]⟩
  | 0, _, acc, c :: cs, rest, v, h => by
    simp only [number.go] at h
    obtain ⟨rfl, rfl⟩ := Prod.mk.inj (Option.some.inj h)
    exact ⟨[], by simp, by simp, by simp, by simp [Nat.ofDigitChars_nil]⟩
  | budget + 1, taken, acc, c :: cs, rest, v, h => by
    rw [number.go] at h
    cases hd : digitValue c with
    | none =>
      rw [hd] at h
      obtain ⟨rfl, rfl⟩ := Prod.mk.inj (Option.some.inj h)
      exact ⟨[], by simp, by simp, by simp, by simp [Nat.ofDigitChars_nil]⟩
    | some d =>
      simp only [hd] at h
      split at h
      · cases h
      · obtain ⟨ds, rfl, hdig, hlen, rfl⟩ := number_go_some h
        have hc : c.isDigit = true := by
          unfold digitValue at hd
          split at hd
          · assumption
          · cases hd
        have hval : d = c.toNat - '0'.toNat := by
          unfold digitValue at hd
          rw [if_pos hc] at hd
          exact (Option.some.inj hd).symm
        refine ⟨c :: ds, rfl, ?_, by simp; omega, ?_⟩
        · intro ch hch
          rcases List.mem_cons.1 hch with rfl | h
          · exact hc
          · exact hdig ch h
        · rw [Nat.ofDigitChars_cons, hval, Nat.mul_comm]

/-- What the bounded digits reader took: between `least` and `most` digits. -/
theorem number_some {least most : Nat} {cs rest : List Char} {v : Nat}
    (h : number least most cs = some (v, rest)) :
    ∃ ds, cs = ds ++ rest ∧ (∀ ch ∈ ds, ch.isDigit = true) ∧ ds.length ≤ most ∧
      v = Nat.ofDigitChars 10 ds 0 := by
  unfold number at h
  split at h
  · cases h
  · split at h
    · split at h
      · cases h
      · obtain ⟨rfl, rfl⟩ := Prod.mk.inj (Option.some.inj h)
        exact number_go_some (by assumption)
    · cases h

/-- A fraction is read as fewer than a second of nanoseconds. -/
theorem fraction_lt {cs rest : List Char} {n : Nat} (h : fraction cs = some (n, rest)) :
    n < 10 ^ 9 := by
  unfold fraction at h
  split at h
  · rename_i v r hv
    obtain ⟨ds, rfl, hdig, hlen, rfl⟩ := number_some hv
    obtain ⟨rfl, -⟩ := Prod.mk.inj (Option.some.inj h)
    have hused : (ds ++ r).length - r.length = ds.length := by simp
    have hlt := ofDigitChars_lt ds hdig
    calc Nat.ofDigitChars 10 ds 0 * 10 ^ (9 - ((ds ++ r).length - r.length))
        < 10 ^ ds.length * 10 ^ (9 - ds.length) := by
          rw [hused]
          exact Nat.mul_lt_mul_of_pos_right hlt (Nat.pow_pos (by decide))
      _ = 10 ^ 9 := by rw [← Nat.pow_add, Nat.add_sub_cancel' (by omega)]
  · cases h

theorem optFraction_lt {cs rest : List Char} {n : Nat} (h : optFraction cs = some (n, rest)) :
    n < 10 ^ 9 := by
  unfold optFraction at h
  split at h
  · exact fraction_lt h
  · obtain ⟨rfl, -⟩ := Prod.mk.inj (Option.some.inj h)
    decide

/-- An offset is a whole number of minutes. -/
theorem offset_dvd {cs rest : List Char} {o : Int} (h : offset cs = some (o, rest)) :
    60 ∣ o := by
  unfold offset at h
  split at h
  · obtain ⟨rfl, -⟩ := Prod.mk.inj (Option.some.inj h)
    decide
  · obtain ⟨rfl, -⟩ := Prod.mk.inj (Option.some.inj h)
    decide
  · -- hours and minutes are read whatever the sign
    rename_i _ c r _ _
    dsimp only at h
    generalize (if c = '+' then some (1 : Int) else if c = '-' ∨ c = '−' then some (-1)
      else none) = sign at h
    split at h
    · split at h
      · split at h
        · cases h
        · obtain ⟨rfl, -⟩ := Prod.mk.inj (Option.some.inj h)
          exact Dvd.dvd.mul_left (by omega) _
      · cases h
    · cases h
  · cases h

/-- Fields as the readers produce them: less than a second of nanoseconds, and an offset of
whole minutes. -/
structure Fields.Sound (f : Fields) : Prop where
  nanos_lt : f.nanos < 10 ^ 9
  offset_minutes : 60 ∣ f.offset

theorem rfc3339Fields_sound {cs : List Char} {f : Fields} (h : rfc3339Fields cs = some f) :
    f.Sound := by
  unfold rfc3339Fields at h
  obtain ⟨⟨year, cs⟩, -, h⟩ := Option.bind_eq_some_iff.1 h
  obtain ⟨cs, -, h⟩ := Option.bind_eq_some_iff.1 h
  obtain ⟨⟨month, cs⟩, -, h⟩ := Option.bind_eq_some_iff.1 h
  obtain ⟨cs, -, h⟩ := Option.bind_eq_some_iff.1 h
  obtain ⟨⟨day, cs⟩, -, h⟩ := Option.bind_eq_some_iff.1 h
  dsimp only at h
  -- the date and time separator
  split at h
  · split at h
    · obtain ⟨cs, -, h⟩ := Option.bind_eq_some_iff.1 h
      obtain ⟨⟨hour, cs⟩, -, h⟩ := Option.bind_eq_some_iff.1 h
      obtain ⟨cs, -, h⟩ := Option.bind_eq_some_iff.1 h
      obtain ⟨⟨minute, cs⟩, -, h⟩ := Option.bind_eq_some_iff.1 h
      obtain ⟨cs, -, h⟩ := Option.bind_eq_some_iff.1 h
      obtain ⟨⟨second, cs⟩, -, h⟩ := Option.bind_eq_some_iff.1 h
      obtain ⟨⟨nanos, cs⟩, hn, h⟩ := Option.bind_eq_some_iff.1 h
      obtain ⟨⟨off, cs⟩, ho, h⟩ := Option.bind_eq_some_iff.1 h
      dsimp only at h hn ho
      split_ifs at h
      cases h
      exact ⟨optFraction_lt hn, offset_dvd ho⟩
    · cases h
  · cases h

theorem naiveFields_sound {cs : List Char} {f : Fields} (h : naiveFields cs = some f) :
    f.Sound := by
  unfold naiveFields at h
  obtain ⟨⟨year, cs⟩, -, h⟩ := Option.bind_eq_some_iff.1 h
  obtain ⟨cs, -, h⟩ := Option.bind_eq_some_iff.1 h
  obtain ⟨⟨month, cs⟩, -, h⟩ := Option.bind_eq_some_iff.1 h
  obtain ⟨cs, -, h⟩ := Option.bind_eq_some_iff.1 h
  obtain ⟨⟨day, cs⟩, -, h⟩ := Option.bind_eq_some_iff.1 h
  obtain ⟨cs, -, h⟩ := Option.bind_eq_some_iff.1 h
  obtain ⟨⟨hour, cs⟩, -, h⟩ := Option.bind_eq_some_iff.1 h
  obtain ⟨cs, -, h⟩ := Option.bind_eq_some_iff.1 h
  obtain ⟨⟨minute, cs⟩, -, h⟩ := Option.bind_eq_some_iff.1 h
  obtain ⟨cs, -, h⟩ := Option.bind_eq_some_iff.1 h
  obtain ⟨⟨second, cs⟩, -, h⟩ := Option.bind_eq_some_iff.1 h
  obtain ⟨⟨nanos, cs⟩, hn, h⟩ := Option.bind_eq_some_iff.1 h
  dsimp only at h hn
  split_ifs at h
  cases h
  exact ⟨optFraction_lt hn, Int.dvd_zero 60⟩

/-- The calendar check turns sound fields into a valid instant. -/
theorem ofFields_valid {f : Fields} {t : Instant} (hf : f.Sound) (h : ofFields f = some t) :
    t.Valid := by
  obtain ⟨hnanos, k, hk⟩ := hf
  unfold ofFields at h
  by_cases h60 : f.second = 60
  · -- a leap second: second 59 of its minute, whatever the whole-minute offset
    simp only [h60, if_true] at h
    split_ifs at h
    obtain rfl := Option.some.inj h
    refine ⟨?_, ?_, fun _ => ?_⟩ <;> dsimp only
    · omega
    · omega
    · rw [hk]
      omega
  · simp only [h60, if_false] at h
    split_ifs at h
    obtain rfl := Option.some.inj h
    refine ⟨?_, ?_, fun hl => ?_⟩ <;> dsimp only at *
    · omega
    · omega
    · omega

/-- **Every instant read from text is valid.** -/
theorem valid_of_parse? {s : String} {t : Instant} (h : parse? s = some t) : t.Valid := by
  unfold parse? at h
  split at h
  · rename_i hr
    obtain rfl := Option.some.inj h
    obtain ⟨f, hf, ho⟩ := Option.bind_eq_some_iff.1 hr
    exact ofFields_valid (rfc3339Fields_sound hf) ho
  · obtain ⟨f, hf, ho⟩ := Option.bind_eq_some_iff.1 h
    exact ofFields_valid (naiveFields_sound hf) ho

end Instant

end MarketChat
