import MarketChat.Json.Cursor
/-!
# Strings, numbers and literals of JSON text

The lexical layer of the reader, each piece with the faults it reports and where.

* A string runs to its closing quote. The escapes are `\" \\ \/ \b \f \n \r \t` and `\uXXXX`;
  a surrogate pair written as two escapes is one character, and a lone surrogate is refused.
  A raw control character is refused: placed after it when the string is read, and where it
  stands when the string is skipped.
* A number is read the way it is written: an integer stays exact while it fits 64 bits
  (natural below `2^64`, negative down to `-2^63`); past that, or with a fraction or an
  exponent, it becomes a double. The double is built from at most 64 bits of significand
  and a power of ten, by one rounded multiplication or division (`Binary64.scaleByTen`), so
  a long significand is rounded twice. A magnitude beyond the largest double is refused.
* `null`, `true` and `false` are read letter by letter.

Each lexeme also has a *skipping* form, which checks the syntax without building anything:
skipped numbers are never out of range and skipped escapes are not paired.

Main definitions: `Reader.string`, `Reader.number`, `Reader.literalRest`,
`Reader.skipString`, `Reader.skipNumber`.
-/

namespace MarketChat

namespace Binary64

/-- The double of `significand · 10^exponent`, computed as one rounded product or quotient
with a power of ten below `10^309`; smaller exponents divide by `10^308` first, one step at
a time, until the rest fits or the value is zero. `none` when the magnitude overflows. -/
def scaleByTen (significand : Nat) (exponent : Int) : Option Binary64 :=
  let rec go : Nat → Binary64 → Int → Option Binary64
    | 0, f, _ => some f
    | fuel + 1, f, e =>
      if e.natAbs ≤ 308 then
        if e ≥ 0 then f.mul (pow10 e.toNat) else f.div (pow10 e.natAbs)
      else if f.mant = 0 then some f
      else if e ≥ 0 then none
      else match f.div (pow10 308) with
        | some g => go fuel g (e + 308)
        | none => none
  go (exponent.natAbs / 308 + 2) (ofNat significand) exponent

end Binary64

namespace Reader

/-- A hexadecimal digit's value. -/
def hexValue (c : Char) : Option Nat :=
  if '0' ≤ c ∧ c ≤ '9' then some (c.toNat - '0'.toNat)
  else if 'a' ≤ c ∧ c ≤ 'f' then some (c.toNat - 'a'.toNat + 10)
  else if 'A' ≤ c ∧ c ≤ 'F' then some (c.toNat - 'A'.toNat + 10)
  else none

/-- The UTF-8 size of a list of characters. -/
def byteSize (cs : List Char) : Nat := cs.foldl (fun n ch => n + ch.utf8Size) 0

/-- Read the four hex digits of a `\u` escape: four bytes are taken whatever they are. -/
def hexEscape : Reader Nat := fun c =>
  match c.rest with
  | a :: b :: d :: e :: rest =>
    match hexValue a, hexValue b, hexValue d, hexValue e with
    | some w, some x, some y, some z =>
      .ok (((w * 16 + x) * 16 + y) * 16 + z) { c with rest := rest, column := c.column + 4 }
    | _, _, _, _ => .error ⟨.invalidEscape, some (c.posAfterBytes 4)⟩ c
  | cs =>
    if byteSize cs < 4 then .error ⟨.eofWhileParsingString, some c.endPos⟩ c
    else .error ⟨.invalidEscape, some (c.posAfterBytes 4)⟩ c

/-- Fail after reading one more byte. -/
def failAfterByte {α : Type} (f : Fault) : Reader α := fun c =>
  .error ⟨f, some (c.posAfterBytes 1)⟩ c

/-- The character of a `\u` escape, after the `u`: a lead surrogate must be followed by an
escaped trail surrogate. -/
def unicodeEscape : Reader Char := do
  let n ← hexEscape
  if 0xDC00 ≤ n ∧ n ≤ 0xDFFF then fail .loneLeadingSurrogateInHexEscape
  else if 0xD800 ≤ n ∧ n ≤ 0xDBFF then
    match ← peek with
    | none => fail .eofWhileParsingString
    | some '\\' =>
      bump
      match ← peek with
      | none => fail .eofWhileParsingString
      | some 'u' =>
        bump
        let m ← hexEscape
        if 0xDC00 ≤ m ∧ m ≤ 0xDFFF then
          pure (Char.ofNat (((n - 0xD800) * 1024 + (m - 0xDC00)) + 0x10000))
        else fail .loneLeadingSurrogateInHexEscape
      | some _ => failAfterByte .unexpectedEndOfHexEscape
    | some _ => failAfterByte .unexpectedEndOfHexEscape
  else pure (Char.ofNat n)

/-- The character an escape stands for, after the backslash. -/
def escape : Reader Char := do
  match ← peek with
  | none => fail .eofWhileParsingString
  | some ch =>
    match ch with
    | '"' => bump; pure '"'
    | '\\' => bump; pure '\\'
    | '/' => bump; pure '/'
    | 'b' => bump; pure '\x08'
    | 'f' => bump; pure '\x0c'
    | 'n' => bump; pure '\n'
    | 'r' => bump; pure '\r'
    | 't' => bump; pure '\t'
    | 'u' => bump; unicodeEscape
    | _ => failAfterByte .invalidEscape

/-- Read string contents up to and including the closing quote, at most `fuel` steps. -/
def stringBody : Nat → List Char → Reader String
  | 0, acc => pure (String.ofList acc.reverse)
  | fuel + 1, acc => do
    match ← peek with
    | none => fail .eofWhileParsingString
    | some '"' => bump; pure (String.ofList acc.reverse)
    | some '\\' =>
      bump
      let ch ← escape
      stringBody fuel (ch :: acc)
    | some ch =>
      if ch.toNat < 0x20 then failAfterByte .controlCharacterWhileParsingString
      else
        bump
        stringBody fuel (ch :: acc)

/-- Read a string whose opening quote has been read. -/
def string : Reader String := fun c => stringBody (c.rest.length + 1) [] c

/-- Skip string contents up to and including the closing quote, at most `fuel` steps. -/
def skipStringBody : Nat → Reader Unit
  | 0 => pure ()
  | fuel + 1 => do
    match ← peek with
    | none => fail .eofWhileParsingString
    | some '"' => bump
    | some '\\' =>
      bump
      match ← peek with
      | none => fail .eofWhileParsingString
      | some ch =>
        if ch = '"' ∨ ch = '\\' ∨ ch = '/' ∨ ch = 'b' ∨ ch = 'f' ∨ ch = 'n' ∨ ch = 'r' ∨ ch = 't'
        then bump; skipStringBody fuel
        else if ch = 'u' then
          bump
          let _ ← hexEscape
          skipStringBody fuel
        else failAfterByte .invalidEscape
    | some ch =>
      if ch.toNat < 0x20 then fail .controlCharacterWhileParsingString
      else bump; skipStringBody fuel

/-- Skip a string whose opening quote has been read. -/
def skipString : Reader Unit := fun c => skipStringBody (c.rest.length + 1) c

/-- Read the rest of a literal, letter by letter, after its first letter. -/
def literalRest : List Char → Reader Unit
  | [] => pure ()
  | ch :: rest => do
    match ← peek with
    | none => fail .eofWhileParsingValue
    | some d => if d = ch then bump; literalRest rest else failAfterByte .expectedSomeIdent

/-- The digits at the cursor, read. -/
def digits : Reader (List Nat) := fun c =>
  let ds := c.rest.takeWhile Char.isDigit
  .ok (ds.map fun d => d.toNat - '0'.toNat)
    { c with rest := c.rest.drop ds.length, column := c.column + ds.length }

/-- The largest natural number the reader keeps exact: `2^64 - 1`. -/
def natLimit : Nat := 18446744073709551615

/-- Take digits into a significand while it stays within 64 bits: the significand and the
digits left over. -/
def absorb : Nat → List Nat → Nat × List Nat
  | s, [] => (s, [])
  | s, d :: rest => if s * 10 + d > natLimit then (s, d :: rest) else absorb (s * 10 + d) rest

/-- The double of a sign, significand and decimal exponent, or a range fault here. -/
def float (positive : Bool) (significand : Nat) (exponent : Int) : Reader Binary64 :=
  match Binary64.scaleByTen significand exponent with
  | some x => pure (if positive then x else x.negate)
  | none => fail .numberOutOfRange

/-- The largest exponent the reader counts exactly. -/
def expLimit : Int := 2147483647

/-- An exponent kept within 32 bits, saturating. -/
def clampExp (e : Int) : Int := max (-2147483648) (min expLimit e)

/-- Exponent digits read into a number while it stays within 32 bits: the value, how many
digits were read, and whether the last digit read would have passed 32 bits. -/
def expDigits : Nat → List Char → Nat × Nat × Bool
  | e, [] => (e, 0, false)
  | e, d :: rest =>
    let e' := e * 10 + (d.toNat - '0'.toNat)
    if (e' : Int) > expLimit then (e, 1, true) else
      let (v, n, overflow) := expDigits e' rest
      (v, n + 1, overflow)

/-- The digits of an exponent, its sign read, then the double. An exponent past 32 bits is a
range fault for a nonzero significand raised by it, and zero otherwise; the digit that passes
32 bits is read before the fault. -/
def exponentDigits (positive sign : Bool) (significand : Nat) (start : Int) : Reader Binary64 :=
  fun c =>
    let (e, used, overflow) := expDigits 0 (c.rest.takeWhile Char.isDigit)
    let c := { c with rest := c.rest.drop used, column := c.column + used }
    if overflow then
      if significand ≠ 0 ∧ sign then .error ⟨.numberOutOfRange, some c.here⟩ c
      else
        let more := c.rest.takeWhile Char.isDigit
        .ok (if positive then Binary64.zero else Binary64.zero.negate)
          { c with rest := c.rest.drop more.length, column := c.column + more.length }
    else float positive significand (clampExp (if sign then start + e else start - e)) c

/-- Read an exponent after its `e` or `E`, then build the double. -/
def exponent (positive : Bool) (significand : Nat) (start : Int) : Reader Binary64 := do
  bump
  let sign ← match ← peek with
    | some '+' => do bump; pure true
    | some '-' => do bump; pure false
    | _ => pure true
  match ← peek with
  | none => fail .eofWhileParsingValue
  | some ch =>
    if !ch.isDigit then failAfterByte .invalidNumber
    else exponentDigits positive sign significand start

/-- Read a fraction after its point, then an exponent if one follows. -/
def fraction (positive : Bool) (significand : Nat) (start : Int) : Reader Binary64 := do
  bump
  let ds ← digits
  if ds.isEmpty then
    match ← peek with
    | some _ => failNext .invalidNumber
    | none => failNext .eofWhileParsingValue
  else
    let (s, left) := absorb significand ds
    let e := start - ((ds.length - left.length : Nat) : Int)
    match ← peek with
    | some 'e' => exponent positive s e
    | some 'E' => exponent positive s e
    | _ => float positive s e

/-- The number of an integer part with neither fraction nor exponent: exact while it fits,
a double otherwise. -/
def numberEnd (positive : Bool) (significand : Nat) (extra : Nat) (exact : Bool) :
    Reader JsonNumber :=
  if !exact then return .float (← float positive significand extra)
  else if positive then return .nat significand
  else if significand = 0 then return .float Binary64.zero.negate
  else if significand ≤ 9223372036854775808 then return .negInt (-(significand : Int))
  else return .float (← float false significand 0)

/-- What follows the digits of an integer part: a fraction, an exponent, or nothing. -/
def numberTail (positive : Bool) (significand : Nat) (extra : Nat) (exact : Bool) :
    Reader JsonNumber := do
  match ← peek with
  | some '.' => return .float (← fraction positive significand extra)
  | some 'e' => return .float (← exponent positive significand extra)
  | some 'E' => return .float (← exponent positive significand extra)
  | _ => numberEnd positive significand extra exact

/-- Read a number, its minus sign already read when `positive` is false. -/
def number (positive : Bool) : Reader JsonNumber := do
  match ← peek with
  | none => fail .eofWhileParsingValue
  | some '0' =>
    bump
    match ← peek with
    | some ch => if ch.isDigit then failNext .invalidNumber else numberTail positive 0 0 true
    | none => numberTail positive 0 0 true
  | some ch =>
    if ch.isDigit then
      let ds ← digits
      let (s, left) := absorb 0 ds
      numberTail positive s left.length left.isEmpty
    else failAfterByte .invalidNumber

/-- Skip an exponent after its `e` or `E`. -/
def skipExponent : Reader Unit := do
  bump
  match ← peek with
  | some '+' => bump
  | some '-' => bump
  | _ => pure ()
  match ← peek with
  | some ch => if ch.isDigit then (do let _ ← digits; pure ()) else failAfterByte .invalidNumber
  | none => fail .invalidNumber

/-- Skip a number, its minus sign already read. -/
def skipNumber : Reader Unit := do
  match ← peek with
  | some '0' =>
    bump
    match ← peek with
    | some ch => if ch.isDigit then failNext .invalidNumber else pure ()
    | none => pure ()
  | some ch => if ch.isDigit then (do let _ ← digits; pure ()) else failAfterByte .invalidNumber
  | none => fail .invalidNumber
  match ← peek with
  | some '.' =>
    bump
    let ds ← digits
    if ds.isEmpty then failNext .invalidNumber
    else
      match ← peek with
      | some 'e' => skipExponent
      | some 'E' => skipExponent
      | _ => pure ()
  | some 'e' => skipExponent
  | some 'E' => skipExponent
  | _ => pure ()

end Reader

end MarketChat
