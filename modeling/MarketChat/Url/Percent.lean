/-!
# Percent-encoding

A URL carries text as bytes: every character is written as its UTF-8 bytes, and a byte is
escaped as `%XX` (two uppercase hexadecimal digits) when it is a control, not ASCII, or in the
encode set of the component it stands in. The sets nest: the fragment set and the query set
add a few ASCII marks to the controls, the path set adds `?`, backquote and braces to the query
set, and the userinfo set adds the delimiters of an authority to the path set.

Form encoding (`application/x-www-form-urlencoded`) keeps letters, digits and `*-._`, writes a
space as `+` and escapes every other byte.

Decoding reads `%XX` back into a byte where both digits are hexadecimal, leaves any other `%`
as it is, and reads the bytes back as UTF-8.

Main definitions: `EncodeSet`, `percentEncode`, `formEncode`, `percentDecodeBytes`,
`utf8Decode`.
-/

namespace MarketChat

namespace Url

/-- The UTF-8 bytes of a character. -/
def utf8Bytes (c : Char) : List Nat :=
  let n := c.toNat
  if n < 0x80 then [n]
  else if n < 0x800 then [0xC0 + n / 64, 0x80 + n % 64]
  else if n < 0x10000 then [0xE0 + n / 4096, 0x80 + n / 64 % 64, 0x80 + n % 64]
  else [0xF0 + n / 262144, 0x80 + n / 4096 % 64, 0x80 + n / 64 % 64, 0x80 + n % 64]

/-- The UTF-8 bytes of a text. -/
def textBytes (s : String) : List Nat := s.toList.flatMap utf8Bytes

/-- An uppercase hexadecimal digit. -/
def hexUpper (n : Nat) : Char := if n < 10 then Char.ofNat (48 + n) else Char.ofNat (55 + n)

/-- A byte written as `%XX`. -/
def escapeByte (b : Nat) : List Char := ['%', hexUpper (b / 16 % 16), hexUpper (b % 16)]

/-- The ASCII marks a component escapes beside controls and non-ASCII bytes. -/
structure EncodeSet where
  marks : List Char

namespace EncodeSet

/-- The byte is escaped: a control, DEL, a non-ASCII byte or one of the marks. -/
def escapes (set : EncodeSet) (b : Nat) : Bool :=
  b < 0x20 || 0x7F ≤ b || set.marks.contains (Char.ofNat b)

/-- Controls only: opaque paths and opaque hosts. -/
def controls : EncodeSet := ⟨[]⟩

/-- The fragment set. -/
def fragment : EncodeSet := ⟨[' ', '"', '<', '>', '\x60']⟩

/-- The query set of URLs whose scheme is not special. -/
def query : EncodeSet := ⟨[' ', '"', '#', '<', '>']⟩

/-- The query set of special URLs: the query set and the apostrophe. -/
def specialQuery : EncodeSet := ⟨query.marks ++ ['\x27']⟩

/-- The path set. -/
def path : EncodeSet := ⟨query.marks ++ ['?', '\x60', '\x7b', '\x7d']⟩

/-- The userinfo set. -/
def userinfo : EncodeSet :=
  ⟨path.marks ++ ['/', ':', ';', '=', '@', '[', '\\', ']', '^', '|']⟩

end EncodeSet

/-- A byte as it stands in a component: itself, or escaped. -/
def encodeByte (set : EncodeSet) (b : Nat) : List Char :=
  if set.escapes b then escapeByte b else [Char.ofNat b]

/-- A character as it stands in a component. -/
def encodeChar (set : EncodeSet) (c : Char) : List Char := (utf8Bytes c).flatMap (encodeByte set)

/-- A text as it stands in a component. -/
def percentEncode (set : EncodeSet) (s : String) : String :=
  String.ofList (s.toList.flatMap (encodeChar set))

/-- A byte is kept by form encoding: an ASCII letter or digit, or one of `*-._`. -/
def formKeeps (b : Nat) : Bool :=
  (48 ≤ b && b ≤ 57) || (65 ≤ b && b ≤ 90) || (97 ≤ b && b ≤ 122) ||
    b = 42 || b = 45 || b = 46 || b = 95

/-- A byte as form encoding writes it. -/
def formByte (b : Nat) : List Char :=
  if b = 32 then ['+'] else if formKeeps b then [Char.ofNat b] else escapeByte b

/-- A text as form encoding writes it. -/
def formEncode (s : String) : String := String.ofList ((textBytes s).flatMap formByte)

/-- The value of a hexadecimal digit, in either case. -/
def hexValue (c : Char) : Option Nat :=
  if c.isDigit then some (c.toNat - 48)
  else if 'a' ≤ c ∧ c ≤ 'f' then some (c.toNat - 87)
  else if 'A' ≤ c ∧ c ≤ 'F' then some (c.toNat - 55)
  else none

/-- Read `%XX` escapes of a text into bytes; any other `%` stays a byte of its own. -/
def percentDecodeChars : List Char → List Nat
  | [] => []
  | '%' :: a :: b :: rest =>
    match hexValue a, hexValue b with
    | some x, some y => (16 * x + y) :: percentDecodeChars rest
    | _, _ => 37 :: percentDecodeChars (a :: b :: rest)
  | c :: rest => utf8Bytes c ++ percentDecodeChars rest

/-- The bytes a text stands for once its escapes are read. -/
def percentDecodeBytes (s : String) : List Nat := percentDecodeChars s.toList

/-- A continuation byte's six bits. -/
def contBits (b : Nat) : Option Nat := if 0x80 ≤ b && b < 0xC0 then some (b - 0x80) else none

/-- Read bytes as UTF-8: the characters, or `none` at the first ill-formed sequence. -/
def utf8Decode : List Nat → Option (List Char)
  | [] => some []
  | b :: rest =>
    if b < 0x80 then (Char.ofNat b :: ·) <$> utf8Decode rest
    else if 0xC2 ≤ b && b < 0xE0 then
      match rest with
      | c1 :: more => do
        let x ← contBits c1
        let cs ← utf8Decode more
        pure (Char.ofNat ((b - 0xC0) * 64 + x) :: cs)
      | [] => none
    else if 0xE0 ≤ b && b < 0xF0 then
      match rest with
      | c1 :: c2 :: more => do
        let x ← contBits c1
        let y ← contBits c2
        let n := (b - 0xE0) * 4096 + x * 64 + y
        if n < 0x800 ∨ (0xD800 ≤ n ∧ n < 0xE000) then none
        else
          let cs ← utf8Decode more
          pure (Char.ofNat n :: cs)
      | _ => none
    else if 0xF0 ≤ b && b < 0xF5 then
      match rest with
      | c1 :: c2 :: c3 :: more => do
        let x ← contBits c1
        let y ← contBits c2
        let z ← contBits c3
        let n := (b - 0xF0) * 262144 + x * 4096 + y * 64 + z
        if n < 0x10000 ∨ 0x110000 ≤ n then none
        else
          let cs ← utf8Decode more
          pure (Char.ofNat n :: cs)
      | _ => none
    else none

end Url

end MarketChat
