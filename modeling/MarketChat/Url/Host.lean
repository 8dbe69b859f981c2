import MarketChat.Url.Percent
import MarketChat.Url.Idna
/-!
# Hosts

The host of a URL is a domain, an IPv4 address or an IPv6 address; a URL whose scheme is not
special may also have an opaque host, kept as written with controls escaped.

* A special host in brackets is an IPv6 address. Otherwise its escapes are read, it is
  brought to ASCII (`domainToAscii`), and when its last label is a number (decimal, octal
  after `0`, hexadecimal after `0x`) the whole host must be an IPv4 address of up to four
  numbers, the last of which fills the remaining bytes.
* An IPv4 address is written in dotted decimal; an IPv6 address in lowercase hexadecimal
  pieces with the longest run of two or more zero pieces (the first of equal runs) written as
  `::`.

Main definitions: `Host`, `UrlError`, `Host.parse`, `Host.parseNonSpecial`, `Host.serialize`.
-/

namespace MarketChat

/-- Why a text is not a URL. -/
inductive UrlError where
  | emptyHost
  | idna
  | invalidPort
  | invalidIpv4
  | invalidIpv6
  | invalidDomainCharacter
  | relativeWithoutBase
  deriving Repr, DecidableEq

/-- The sentence of a URL error. -/
def UrlError.message : UrlError → String
  | .emptyHost => "empty host"
  | .idna => "invalid international domain name"
  | .invalidPort => "invalid port number"
  | .invalidIpv4 => "invalid IPv4 address"
  | .invalidIpv6 => "invalid IPv6 address"
  | .invalidDomainCharacter => "invalid domain character"
  | .relativeWithoutBase => "relative URL without a base"

/-- The host of a URL. -/
inductive Host where
  /-- A domain, or the opaque host of a URL whose scheme is not special. -/
  | domain (name : String)
  /-- An IPv4 address as a 32-bit number. -/
  | ipv4 (address : Nat)
  /-- An IPv6 address as eight 16-bit pieces. -/
  | ipv6 (pieces : List Nat)
  deriving Repr, DecidableEq

namespace Host

/-- The digits of a number in a radix, most significant first, or `none` when a character is
not a digit of it. -/
def radixValue (radix : Nat) (cs : List Char) : Option Nat :=
  cs.foldlM (fun acc c =>
    match Url.hexValue c with
    | some d => if d < radix then some (acc * radix + d) else none
    | none => none) 0

/-- An IPv4 number: decimal, octal after a leading `0`, hexadecimal after `0x`. `none` when
it is not a number; a number may exceed 32 bits. -/
def ipv4Number (part : List Char) : Option Nat :=
  if part.isEmpty then none
  else
    let (radix, digits) :=
      match part with
      | '0' :: 'x' :: rest | '0' :: 'X' :: rest => (16, rest)
      | '0' :: rest@(_ :: _) => (8, rest)
      | _ => (10, part)
    if digits.isEmpty then some 0 else radixValue radix digits

/-- The last label of a domain (before a final dot) is a number: all digits, or an IPv4
number of another radix. -/
def endsInNumber (domain : List Char) : Bool :=
  let parts := (domain.splitOn '.').reverse
  let last := match parts with
    | [] :: p :: _ => some p
    | [] :: [] => none
    | p :: _ => some p
    | [] => none
  match last with
  | none => false
  | some p => (!p.isEmpty && p.all Char.isDigit) || (ipv4Number p).isSome

/-- Parse an IPv4 address from a domain that ends in a number. -/
def parseIpv4 (domain : List Char) : Except UrlError Nat := do
  let parts := domain.splitOn '.'
  let parts := if parts.getLast? = some [] then parts.dropLast else parts
  if parts.length > 4 then throw .invalidIpv4
  let numbers ← parts.mapM fun p =>
    match ipv4Number p with
    | some n => if n < 4294967296 then pure n else throw .invalidIpv4
    | none => throw .invalidIpv4
  match numbers.reverse with
  | [] => throw .invalidIpv4
  | last :: revFirst =>
    let first := revFirst.reverse
    if last ≥ Nat.pow 256 (4 - first.length) then throw .invalidIpv4
    if first.any (· > 255) then throw .invalidIpv4
    let (_, total) :=
      first.foldl (fun (i, acc) n => (i + 1, acc + n * Nat.pow 256 (3 - i))) (0, last)
    pure total

/-- The hexadecimal digits of one IPv6 piece, at most four. -/
def hexRun : Nat → List Char → Nat → Nat × Nat × List Char
  | 0, cs, v => (v, 0, cs)
  | n + 1, c :: cs, v =>
    match Url.hexValue c with
    | some d => let (v', k, rest) := hexRun n cs (v * 16 + d); (v', k + 1, rest)
    | none => (v, 0, c :: cs)
  | _ + 1, [], v => (v, 0, [])

/-- The decimal part of an embedded IPv4 number: no leading zero, at most 255. -/
def decimalByte : List Char → Option Nat → Except UrlError (Option Nat × List Char)
  | c :: cs, acc =>
    if c.isDigit then
      let d := c.toNat - 48
      match acc with
      | none => decimalByte cs (some d)
      | some 0 => throw .invalidIpv6
      | some v => if v * 10 + d > 255 then throw .invalidIpv6 else decimalByte cs (some (v * 10 + d))
    else pure (acc, c :: cs)
  | [], acc => pure (acc, [])

/-- Read the embedded IPv4 part after `written` pieces: four decimal numbers separated by
dots, filling two pieces. -/
def embeddedIpv4 (written : List Nat) (cs : List Char) : Except UrlError (List Nat) := do
  if written.length > 6 then throw .invalidIpv6
  let (a, r1) ← decimalByte cs none
  let r1 ← match r1 with | '.' :: r => pure r | _ => throw .invalidIpv6
  let (b, r2) ← decimalByte r1 none
  let r2 ← match r2 with | '.' :: r => pure r | _ => throw .invalidIpv6
  let (c, r3) ← decimalByte r2 none
  let r3 ← match r3 with | '.' :: r => pure r | _ => throw .invalidIpv6
  let (d, r4) ← decimalByte r3 none
  match a, b, c, d, r4 with
  | some a, some b, some c, some d, [] => pure (written ++ [a * 256 + b, c * 256 + d])
  | _, _, _, _, _ => throw .invalidIpv6

/-- Read IPv6 pieces into `written`; a compression reserves one zero piece and records where
it stands. -/
def ipv6Pieces : Nat → List Char → List Nat → Option Nat →
    Except UrlError (List Nat × Option Nat)
  | 0, _, _, _ => throw .invalidIpv6
  | _ + 1, [], written, compress => pure (written, compress)
  | fuel + 1, cs, written, compress => do
    if written.length = 8 then throw .invalidIpv6
    match cs with
    | ':' :: rest =>
      if compress.isSome then throw .invalidIpv6
      ipv6Pieces fuel rest (written ++ [0]) (some (written.length + 1))
    | _ =>
      let (v, k, rest) := hexRun 4 cs 0
      match rest with
      | '.' :: _ =>
        if k = 0 then throw .invalidIpv6
        pure (← embeddedIpv4 written cs, compress)
      | ':' :: [] => throw .invalidIpv6
      | ':' :: more => ipv6Pieces fuel more (written ++ [v]) compress
      | [] => pure (written ++ [v], compress)
      | _ => throw .invalidIpv6

/-- Parse an IPv6 address, the text between the brackets. -/
def parseIpv6 (s : List Char) : Except UrlError (List Nat) := do
  if s.length < 2 then throw .invalidIpv6
  let (start, written, compress) ←
    match s with
    | ':' :: ':' :: rest => pure (rest, [0], some 1)
    | ':' :: _ => throw .invalidIpv6
    | _ => pure (s, [], none)
  let (written, compress) ← ipv6Pieces (s.length + 1) start written compress
  match compress with
  | some c =>
    let before := written.take c
    let after := written.drop c
    pure (before ++ List.replicate (8 - before.length - after.length) 0 ++ after)
  | none =>
    if written.length = 8 then pure written else throw .invalidIpv6

/-- A special host: an IPv6 address in brackets, else a domain in ASCII or an IPv4 address. -/
def parse (s : String) : Except UrlError Host := do
  let cs := s.toList
  if cs.head? = some '[' then
    if cs.getLast? ≠ some ']' then throw .invalidIpv6
    return .ipv6 (← parseIpv6 (cs.drop 1).dropLast)
  let chars ← match Url.utf8Decode (Url.percentDecodeBytes s) with
    | some chars => pure chars
    | none => throw .idna
  let domain ← match Url.domainToAscii chars with
    | some d => pure d
    | none => throw .idna
  if domain.isEmpty then throw .emptyHost
  if endsInNumber domain.toList then return .ipv4 (← parseIpv4 domain.toList)
  pure (.domain domain)

/-- Characters an opaque host may not hold. -/
def forbiddenNonSpecial (c : Char) : Bool := "\x00\t\n\r #/:<>?@[\\]^|".toList.contains c

/-- The host of a URL whose scheme is not special: IPv6 in brackets, else kept as written with
controls escaped. -/
def parseNonSpecial (s : String) : Except UrlError Host := do
  let cs := s.toList
  if cs.head? = some '[' then
    if cs.getLast? ≠ some ']' then throw .invalidIpv6
    return .ipv6 (← parseIpv6 (cs.drop 1).dropLast)
  if cs.any forbiddenNonSpecial then throw .invalidDomainCharacter
  pure (.domain (Url.percentEncode .controls s))

/-- Lowercase hexadecimal without leading zeros. -/
def hexLower (n : Nat) : String :=
  String.ofList ((Nat.toDigits 16 n).map Char.toLower)

/-- The longest run of two or more zero pieces: its start and length. -/
def longestZeros (pieces : List Nat) : Option (Nat × Nat) :=
  let step := fun (acc : Option (Nat × Nat) × Option Nat × Nat) (p : Nat) =>
    let (best, start, i) := acc
    if p = 0 then
      let s := start.getD i
      let len := i + 1 - s
      let best := match best with
        | some (_, l) => if len > l then some (s, len) else best
        | none => some (s, len)
      (best, some s, i + 1)
    else (best, none, i + 1)
  match (pieces.foldl step (none, none, 0)).1 with
  | some (s, l) => if l ≥ 2 then some (s, l) else none
  | none => none

/-- An IPv6 address in its shortest text. -/
def ipv6Text (pieces : List Nat) : String :=
  let texts := pieces.map hexLower
  match longestZeros pieces with
  | none => ":".intercalate texts
  | some (s, l) =>
    ":".intercalate (texts.take s) ++ "::" ++ ":".intercalate (texts.drop (s + l))

/-- The host as written in a URL. -/
def serialize : Host → String
  | .domain d => d
  | .ipv4 a => ".".intercalate ([a / 16777216 % 256, a / 65536 % 256, a / 256 % 256, a % 256].map Nat.repr)
  | .ipv6 ps => "[" ++ ipv6Text ps ++ "]"

end Host

end MarketChat
