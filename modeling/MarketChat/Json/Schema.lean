import MarketChat.Json.Text
import MarketChat.Json.Fault
import MarketChat.Time.Parse
/-!
# Record shapes

The records this library reads from JSON are described as data: a record has a name for
its messages and a list of fields, each field a key, a `FieldRule` saying how its value is
read, and a default used when the key is absent (no default: the key is required).

The same shape is read from text (with positions, `Json/Read`) and from an already read
document (without positions, `Json/Tree`); both produce one `FieldValue` per field, in the
order of the shape.

Main definitions: `FieldRule`, `FieldValue`, `Json.userIdText`, `Json.idText`.
-/

namespace MarketChat

/-- A field's value as read. -/
inductive FieldValue where
  | int (i : Int)
  | nat (n : Nat)
  | flag (b : Bool)
  | text (s : String)
  | absent
  | instant (t : Instant)
  | json (j : Json)
  | jsons (items : List Json)
  | record (fields : List FieldValue)
  deriving Repr, Inhabited

/-- How a field's value is read. -/
inductive FieldRule where
  /-- A signed 64-bit integer. -/
  | int64
  /-- An unsigned 32-bit integer. -/
  | uint32
  /-- An unsigned 64-bit integer. -/
  | uint64
  /-- An unsigned machine-word integer. -/
  | size
  /-- A boolean. -/
  | flag
  /-- A string. -/
  | text
  /-- A string naming a file system path. -/
  | pathText
  /-- A signed 64-bit integer or `null`. -/
  | maybeInt64
  /-- A string or `null`. -/
  | maybeText
  /-- An identifier sent as a string or as a number, kept as its text. -/
  | id
  /-- An identifier as for `id`, or `null`. -/
  | maybeId
  /-- A timestamp string. -/
  | instant
  /-- A timestamp string or `null`. -/
  | maybeInstant
  /-- Any JSON value naming a user, kept as its text. -/
  | userId
  /-- As `userId`, with `null` meaning absent. -/
  | maybeUserId
  /-- Any JSON value, kept with its objects' members sorted. -/
  | any
  /-- An array of arbitrary JSON values. -/
  | values
  /-- A nested record. -/
  | record (name : String) (fields : List (String × FieldRule × Option FieldValue))
  deriving Inhabited

/-- A record as read: the words for it in fault texts, and its fields with their defaults. -/
structure RecordShape where
  expecting : String
  fields : List (String × FieldRule × Option FieldValue)

namespace RecordShape

/-- The words for a record written as an array, which names its field count. -/
def expectingSeq (shape : RecordShape) : String :=
  shape.expecting ++ " with " ++ Nat.repr shape.fields.length ++
    (if shape.fields.length = 1 then " element" else " elements")

end RecordShape

namespace FieldRule

/-- The words for what the rule expects, as fault texts quote them. -/
def expecting : FieldRule → String
  | .int64 | .maybeInt64 => "i64"
  | .uint32 => "u32"
  | .uint64 => "u64"
  | .size => "usize"
  | .flag => "a boolean"
  | .text | .maybeText | .instant | .maybeInstant => "a string"
  | .pathText => "path string"
  | .id | .maybeId => "a string or integer id"
  | .userId | .maybeUserId | .any => "any valid JSON value"
  | .values => "a sequence"
  | .record name _ => name

/-- The inclusive bounds of an integer rule: `-2^63` to `2^63 - 1`, `0` to `2^32 - 1`, or `0` to
`2^64 - 1`. -/
def bounds : FieldRule → Int × Int
  | .int64 | .maybeInt64 => (-9223372036854775808, 9223372036854775807)
  | .uint32 => (0, 4294967295)
  | _ => (0, 18446744073709551615)

end FieldRule

/-- The fault of a timestamp that reads as neither accepted form. -/
def badInstant (raw : String) : Fault := .custom ("invalid timestamp: " ++ raw)

/-- A timestamp, or the fault naming the text. -/
def readInstant (raw : String) : Except Fault Instant :=
  match Instant.parse? raw with
  | some t => .ok t
  | none => .error (badInstant raw)

namespace Json

/-- The text of a user named by any JSON value: a string as it is, anything else as its
compact JSON text with object keys sorted. -/
def userIdText (j : Json) : String :=
  match j with
  | .str s => s
  | j => j.toValue.compact

/-- The text of an identifier number: integers in decimal, doubles positionally. -/
def idText : JsonNumber → String
  | .nat n => Nat.repr n
  | .negInt i => "-" ++ Nat.repr i.natAbs
  | .float x => x.plainText

end Json

/-- An integer that fits a rule's bounds, or the fault that names it. -/
def fitInteger (rule : FieldRule) (n : JsonNumber) : Except Fault Int :=
  let (lo, hi) := rule.bounds
  match n with
  | .nat v => if (v : Int) ≤ hi then .ok v else .error (.invalidValue (.unsigned v) rule.expecting)
  | .negInt v => if lo ≤ v then .ok v else .error (.invalidValue (.signed v) rule.expecting)
  | .float x => .error (.invalidType (.float x) rule.expecting)

namespace FieldValue

/-- The integer held, or `none`. -/
def int? : FieldValue → Option Int
  | .int i => some i
  | .nat n => some n
  | _ => none

/-- The natural number held, else zero. -/
def natD : FieldValue → Nat
  | .nat n => n
  | .int i => i.toNat
  | _ => 0

/-- The integer held, else zero. -/
def intD (v : FieldValue) : Int := v.int?.getD 0

/-- The text held, or `none`. -/
def text? : FieldValue → Option String
  | .text s => some s
  | _ => none

/-- The text held, else the empty text. -/
def textD (v : FieldValue) : String := v.text?.getD ""

/-- The boolean held, else false. -/
def flagD : FieldValue → Bool
  | .flag b => b
  | _ => false

/-- The instant held, or `none`. -/
def instant? : FieldValue → Option Instant
  | .instant t => some t
  | _ => none

/-- The instant held, else the epoch. -/
def instantD (v : FieldValue) : Instant := v.instant?.getD ⟨0, 0, 0⟩

/-- The JSON values held, else none. -/
def jsonsD : FieldValue → List Json
  | .jsons items => items
  | _ => []

end FieldValue

/-- The value at position `i` of read fields. -/
def fieldAt (vs : List FieldValue) (i : Nat) : FieldValue := (vs[i]?).getD .absent

end MarketChat
