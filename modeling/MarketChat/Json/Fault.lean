import MarketChat.Json.Value
/-!
# What a JSON reader can find wrong

A `JsonError` is a `Fault` and, when the reader knew it, the position where it was found:
the line (from 1) and the column, which counts the bytes of that line read before the point
of the fault. The text of an error is the fault's sentence followed by
` at line L column C` when a position is known.

Faults are of two families: the text is not JSON (an unexpected end, a missing comma, a bad
escape), or the JSON does not fit what the reader expected (a wrong type, a value out of
range, a missing or repeated member). The second family names what it found, as an
`Unexpected`, and what it expected, in words.

Main definitions: `Unexpected.describe`, `Fault.describe`, `JsonError.message`.
-/

namespace MarketChat

/-- What a reader found where it expected something else. -/
inductive Unexpected where
  | bool (b : Bool)
  | unsigned (n : Nat)
  | signed (i : Int)
  | float (x : Binary64)
  | str (s : String)
  | null
  | seq
  | map
  deriving Repr

/-- Characters a debug listing shows as escapes: controls, format characters, combining marks
and private use. -/
def isShownEscaped (c : Char) : Bool :=
  let n := c.toNat
  n < 0x20 || (0x7f ≤ n && n ≤ 0x9f) || n == 0xad || (0x300 ≤ n && n ≤ 0x36f) ||
    (0x200b ≤ n && n ≤ 0x200f) || (0x2028 ≤ n && n ≤ 0x202e) || (0x2060 ≤ n && n ≤ 0x206f) ||
    (0x20d0 ≤ n && n ≤ 0x20ff) || (0xe000 ≤ n && n ≤ 0xf8ff) || (0xfe00 ≤ n && n ≤ 0xfe0f) ||
    (0xfe20 ≤ n && n ≤ 0xfe2f) || n == 0xfeff || (0xfff0 ≤ n && n ≤ 0xfffb)

/-- Lower-case hexadecimal digits of a number, without leading zeros. -/
def hexText (n : Nat) : String :=
  String.ofList (Nat.toDigits 16 n)

/-- A string as a debug listing shows it: in double quotes, with `\"`, `\\`, `\n`, `\r`, `\t`,
`\0`, and `\u{…}` for characters that do not print. -/
def debugQuote (s : String) : String :=
  let escape (c : Char) : String :=
    match c with
    | '"' => "\\\""
    | '\\' => "\\\\"
    | '\n' => "\\n"
    | '\r' => "\\r"
    | '\t' => "\\t"
    | '\x00' => "\\0"
    | c => if isShownEscaped c then "\\u\x7b" ++ hexText c.toNat ++ "\x7d" else String.singleton c
  "\"" ++ String.join (s.toList.map escape) ++ "\""

namespace Unexpected

/-- The words for what was found. -/
def describe : Unexpected → String
  | .bool b => "boolean `" ++ (if b then "true" else "false") ++ "`"
  | .unsigned n => "integer `" ++ Nat.repr n ++ "`"
  | .signed i => "integer `" ++ (if i < 0 then "-" else "") ++ Nat.repr i.natAbs ++ "`"
  | .float x => "floating point `" ++ x.jsonText ++ "`"
  | .str s => "string " ++ debugQuote s
  | .null => "null"
  | .seq => "sequence"
  | .map => "map"

/-- What a JSON number is, as found. -/
def ofNumber : JsonNumber → Unexpected
  | .nat n => .unsigned n
  | .negInt i => .signed i
  | .float x => .float x

/-- What a JSON tree is, as found. -/
def ofJson : Json → Unexpected
  | .null => .null
  | .bool b => .bool b
  | .num n => ofNumber n
  | .str s => .str s
  | .arr _ => .seq
  | .obj _ => .map

end Unexpected

/-- A fault found while reading JSON. -/
inductive Fault where
  | eofWhileParsingList
  | eofWhileParsingObject
  | eofWhileParsingString
  | eofWhileParsingValue
  | expectedColon
  | expectedListCommaOrEnd
  | expectedObjectCommaOrEnd
  | expectedSomeIdent
  | expectedSomeValue
  | invalidEscape
  | invalidNumber
  | numberOutOfRange
  | invalidUnicodeCodePoint
  | controlCharacterWhileParsingString
  | keyMustBeAString
  | expectedNumericKey
  | loneLeadingSurrogateInHexEscape
  | trailingComma
  | trailingCharacters
  | unexpectedEndOfHexEscape
  | recursionLimitExceeded
  | invalidType (found : Unexpected) (expected : String)
  | invalidValue (found : Unexpected) (expected : String)
  | invalidLength (length : Nat) (expected : String)
  | missingField (name : String)
  | duplicateField (name : String)
  | custom (text : String)
  deriving Repr

namespace Fault

/-- The sentence that names the fault. -/
def describe : Fault → String
  | .eofWhileParsingList => "EOF while parsing a list"
  | .eofWhileParsingObject => "EOF while parsing an object"
  | .eofWhileParsingString => "EOF while parsing a string"
  | .eofWhileParsingValue => "EOF while parsing a value"
  | .expectedColon => "expected `:`"
  | .expectedListCommaOrEnd => "expected `,` or `]`"
  | .expectedObjectCommaOrEnd => "expected `,` or `\x7d`"
  | .expectedSomeIdent => "expected ident"
  | .expectedSomeValue => "expected value"
  | .invalidEscape => "invalid escape"
  | .invalidNumber => "invalid number"
  | .numberOutOfRange => "number out of range"
  | .invalidUnicodeCodePoint => "invalid unicode code point"
  | .controlCharacterWhileParsingString =>
    "control character (\\u0000-\\u001F) found while parsing a string"
  | .keyMustBeAString => "key must be a string"
  | .expectedNumericKey => "invalid value: expected key to be a number in quotes"
  | .loneLeadingSurrogateInHexEscape => "lone leading surrogate in hex escape"
  | .trailingComma => "trailing comma"
  | .trailingCharacters => "trailing characters"
  | .unexpectedEndOfHexEscape => "unexpected end of hex escape"
  | .recursionLimitExceeded => "recursion limit exceeded"
  | .invalidType found expected => "invalid type: " ++ found.describe ++ ", expected " ++ expected
  | .invalidValue found expected => "invalid value: " ++ found.describe ++ ", expected " ++ expected
  | .invalidLength n expected => "invalid length " ++ Nat.repr n ++ ", expected " ++ expected
  | .missingField name => "missing field `" ++ name ++ "`"
  | .duplicateField name => "duplicate field `" ++ name ++ "`"
  | .custom text => text

end Fault

/-- A place in a JSON text: the line from 1, and the bytes of that line before the place. -/
structure Pos where
  line : Nat
  column : Nat
  deriving DecidableEq, Repr

/-- A fault with the position where it was found, when known. -/
structure JsonError where
  fault : Fault
  pos : Option Pos := none
  deriving Repr

namespace JsonError

/-- The error text: the fault, then its position if known. -/
def message (e : JsonError) : String :=
  match e.pos with
  | some p => e.fault.describe ++ " at line " ++ Nat.repr p.line ++ " column " ++ Nat.repr p.column
  | none => e.fault.describe

/-- Give the error a position unless it has one. -/
def placeAt (e : JsonError) (p : Pos) : JsonError :=
  match e.pos with
  | some _ => e
  | none => { e with pos := some p }

end JsonError

end MarketChat
