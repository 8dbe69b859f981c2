import MarketChat.Json.Schema
/-!
# Reading records from a document

A document already read keeps every member as written, so a record can be read from it
again without positions: faults found here carry none.

An object gives the fields by key, in written order: a repeated known key is a fault, an
unknown key is passed over, and a missing key takes the field's default or is a fault. An
array gives the fields in order: a short array takes defaults for the missing tail or is a
fault at the first field without one, and a long array is a fault naming both lengths.

Main definitions: `FieldRule.fromTree`, `RecordShape.fromTree`.
-/

namespace MarketChat

/-- The index of the field with the given key. -/
def fieldIndex (key : String) : List (String × FieldRule × Option FieldValue) → Option Nat
  | [] => none
  | (k, _, _) :: rest => if k = key then some 0 else (fieldIndex key rest).map (· + 1)

/-- The values found for each field, or their defaults; a missing required field is a fault. -/
def fillDefaults : List (String × FieldRule × Option FieldValue) → List (Option FieldValue) →
    Except Fault (List FieldValue)
  | [], _ => .ok []
  | (k, _, dflt) :: rest, found =>
    let here := (found.head?).getD none
    let tail := found.drop 1
    match here, dflt with
    | some v, _ => (fillDefaults rest tail).map (v :: ·)
    | none, some d => (fillDefaults rest tail).map (d :: ·)
    | none, none => .error (.missingField k)

/-- Record a value found for field `i`. -/
def setFound (found : List (Option FieldValue)) (i : Nat) (v : FieldValue) :
    List (Option FieldValue) :=
  found.set i (some v)

/-- An integer read from a document, within the rule's bounds. -/
def intFromTree (rule : FieldRule) : Json → Except Fault FieldValue
  | .num n => (fitInteger rule n).map fun i => if rule.bounds.1 < 0 then .int i else .nat i.toNat
  | j => .error (.invalidType (.ofJson j) rule.expecting)

/-- An identifier read from a document: a string or a number, kept as its text. -/
def idFromTree : Json → Except Fault FieldValue
  | .str s => .ok (.text s)
  | .num n => .ok (.text (Json.idText n))
  | j => .error (.invalidType (.ofJson j) "a string or integer id")

/-- The fault of an array record with items left over. -/
def surplusItems (total used : Nat) : Fault :=
  .invalidLength total
    (Nat.repr used ++ (if used = 1 then " element in sequence" else " elements in sequence"))

mutual

/-- A field value read from a document by its rule. -/
def FieldRule.fromTree : FieldRule → Json → Except Fault FieldValue
  | .int64, j => intFromTree .int64 j
  | .uint32, j => intFromTree .uint32 j
  | .uint64, j => intFromTree .uint64 j
  | .size, j => intFromTree .size j
  | .flag, .bool b => .ok (.flag b)
  | .flag, j => .error (.invalidType (.ofJson j) "a boolean")
  | .text, .str s => .ok (.text s)
  | .text, j => .error (.invalidType (.ofJson j) "a string")
  | .pathText, .str s => .ok (.text s)
  | .pathText, j => .error (.invalidType (.ofJson j) "path string")
  | .maybeInt64, .null => .ok .absent
  | .maybeInt64, j => intFromTree .int64 j
  | .maybeText, .null => .ok .absent
  | .maybeText, .str s => .ok (.text s)
  | .maybeText, j => .error (.invalidType (.ofJson j) "a string")
  | .id, j => idFromTree j
  | .maybeId, .null => .ok .absent
  | .maybeId, j => idFromTree j
  | .instant, .str s => (readInstant s).map .instant
  | .instant, j => .error (.invalidType (.ofJson j) "a string")
  | .maybeInstant, .null => .ok .absent
  | .maybeInstant, .str s => (readInstant s).map .instant
  | .maybeInstant, j => .error (.invalidType (.ofJson j) "a string")
  | .userId, j => .ok (.text j.userIdText)
  | .maybeUserId, .null => .ok .absent
  | .maybeUserId, j => .ok (.text j.userIdText)
  | .any, j => .ok (.json j.toValue)
  | .values, .arr items => .ok (.jsons (items.map Json.toValue))
  | .values, j => .error (.invalidType (.ofJson j) "a sequence")
  | .record _ fields, .obj members =>
    -- members in written order: known keys once each, unknown keys passed over
    let start : Except Fault (List (Option FieldValue)) := .ok (fields.map fun _ => none)
    let found := members.foldl (fun (acc : Except Fault (List (Option FieldValue))) (k, v) =>
      acc.bind fun fs =>
        match memberInto k v fields fs with
        | some r => r
        | none => .ok fs) start
    found.bind fun fs => (fillDefaults fields fs).map .record
  | .record name fields, .arr items =>
    match itemsFromTree (RecordShape.expectingSeq ⟨name, fields⟩) 0 fields items with
    | .ok (vals, []) => .ok (.record vals)
    | .ok (_, left) => .error (surplusItems items.length (items.length - left.length))
    | .error f => .error f
  | .record name _, j => .error (.invalidType (.ofJson j) name)

/-- Take the member `k: v` into the values found so far: `none` for an unknown key, a fault
for a key already taken or a value that does not read. -/
def memberInto (k : String) (v : Json) :
    List (String × FieldRule × Option FieldValue) → List (Option FieldValue) →
    Option (Except Fault (List (Option FieldValue)))
  | [], _ => none
  | _ :: _, [] => none
  | (k', rule, _) :: rest, f :: fs =>
    if k' = k then
      match f with
      | some _ => some (.error (.duplicateField k))
      | none => some ((rule.fromTree v).map fun val => some val :: fs)
    else (memberInto k v rest fs).map fun r => r.map (f :: ·)

/-- Items in field order; a missing item takes the default or is a fault. Returns the values
and the items left over. -/
def itemsFromTree (expecting : String) (index : Nat) :
    List (String × FieldRule × Option FieldValue) → List Json →
    Except Fault (List FieldValue × List Json)
  | [], items => .ok ([], items)
  | (_, _, dflt) :: rest, [] =>
    match dflt with
    | some d => (itemsFromTree expecting (index + 1) rest []).map fun (vs, l) => (d :: vs, l)
    | none => .error (.invalidLength index expecting)
  | (_, rule, _) :: rest, j :: items =>
    match rule.fromTree j with
    | .ok v => (itemsFromTree expecting (index + 1) rest items).map fun (vs, l) => (v :: vs, l)
    | .error f => .error f

end

/-- A record read from a document, by its shape. -/
def RecordShape.fromTree (shape : RecordShape) (j : Json) : Except Fault (List FieldValue) :=
  match (FieldRule.record shape.expecting shape.fields).fromTree j with
  | .ok (.record vals) => .ok vals
  | .ok _ => .ok []
  | .error f => .error f

end MarketChat
