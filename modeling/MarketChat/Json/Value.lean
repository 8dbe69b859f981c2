import MarketChat.Binary64.Text
/-!
# JSON values

A JSON number keeps the kind the reader gave it: a natural number below `2^64`, a negative
integer not below `-2^63`, or a double for everything else (a fraction, an exponent, a
negative zero, or an integer too large for the other two).

`Json` is one tree type for two uses. A *document* keeps object members as written, in order
and with repeated keys. A *value* has the members of every object sorted by key, each key
once, the last written member winning: `Json.toValue` turns a document into its value, and
`Json.insertMember` is the insertion that builds one.

Main definitions: `JsonNumber`, `Json`, `Json.toValue`.
-/

namespace MarketChat

/-- A JSON number as the reader classifies it. -/
inductive JsonNumber where
  /-- A natural number below `2^64`. -/
  | nat (n : Nat)
  /-- A negative integer not below `-2^63`. -/
  | negInt (i : Int)
  /-- Any other number, as the nearest double. -/
  | float (x : Binary64)
  deriving DecidableEq, Repr, Inhabited

namespace JsonNumber

/-- The number text of a JSON document: integers in decimal, doubles by `jsonText`. -/
def text : JsonNumber → String
  | .nat n => Nat.repr n
  | .negInt i => "-" ++ Nat.repr i.natAbs
  | .float x => x.jsonText

end JsonNumber

/-- A JSON tree: a document with members as written, or a value with members sorted. -/
inductive Json where
  | null
  | bool (b : Bool)
  | num (n : JsonNumber)
  | str (s : String)
  | arr (items : List Json)
  | obj (members : List (String × Json))
  deriving Repr, Inhabited

namespace Json

/-- Insert a member into members sorted by key: a present key takes the new value in place. -/
def insertMember (k : String) (v : Json) : List (String × Json) → List (String × Json)
  | [] => [(k, v)]
  | (k', v') :: rest =>
    if k < k' then (k, v) :: (k', v') :: rest
    else if k = k' then (k, v) :: rest
    else (k', v') :: insertMember k v rest

mutual

/-- The value of a document: every object sorted by key, the last of equal keys kept. -/
def toValue : Json → Json
  | .arr items => .arr (toValues items)
  | .obj members => .obj (sortMembers members [])
  | j => j

/-- `toValue` on each item. -/
def toValues : List Json → List Json
  | [] => []
  | j :: rest => toValue j :: toValues rest

/-- Insert members in written order into a sorted accumulator, converting each value. -/
def sortMembers : List (String × Json) → List (String × Json) → List (String × Json)
  | [], acc => acc
  | (k, v) :: rest, acc => sortMembers rest (insertMember k (toValue v) acc)

end

/-- The member of an object with the given key: the last one written. -/
def member? (j : Json) (key : String) : Option Json :=
  match j with
  | .obj members => (members.reverse.find? (·.1 == key)).map (·.2)
  | _ => none

/-- A string-valued JSON. -/
def ofString (s : String) : Json := .str s

/-- A JSON natural number. -/
def ofNat (n : Nat) : Json := .num (.nat n)

/-- A JSON integer, natural or negative. -/
def ofInt (i : Int) : Json := if i ≥ 0 then .num (.nat i.toNat) else .num (.negInt i)

end Json

end MarketChat
