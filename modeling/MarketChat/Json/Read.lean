import MarketChat.Json.Lexeme
import MarketChat.Json.Tree
/-!
# Reading JSON text

The readers of this module read JSON text from left to right and stop at the first fault,
so of two faults the one earlier in the text is reported; a fault about a record as a whole
(a missing or repeated field, a timestamp that does not read) is placed where the record's
closing bracket was looked for.

* `Reader.document` reads any value as written. Arrays and objects nest at most 127 deep.
* `Reader.skipValue` checks a value's syntax and keeps nothing; it has no nesting limit.
* `Reader.field` reads a value by a `FieldRule`, and `Reader.record` a record by its shape,
  from an object by keys or from an array by position.
* `Reader.items`, `Reader.optional` and `Reader.intKeyed` read arrays, `null`-or-value and
  objects whose keys are integers.
* `Reader.run` reads a whole text: after the value only blanks may follow.

A comma must separate items and members; a comma before the closing bracket is a trailing
comma, and a key must be a string.

Main definitions: the readers above.
-/

namespace MarketChat

namespace Reader

/-- Lift a fault without a position: the enclosing reader places it. -/
def ofExcept {α : Type} : Except Fault α → Reader α
  | .ok a => pure a
  | .error f => failLoose f

/-- Read the rest of `null`, `true` or `false` after the first letter. -/
def literal (first : Char) : Reader Unit :=
  match first with
  | 'n' => literalRest ['u', 'l', 'l']
  | 't' => literalRest ['r', 'u', 'e']
  | _ => literalRest ['a', 'l', 's', 'e']

/-- At a value that is not what `expected` names: read it if it is a scalar, then fail
saying what it was. Arrays and objects are not entered. -/
def mismatch {α : Type} (expected : String) : Reader α := placing do
  match ← peek with
  | some 'n' => bump; literal 'n'; failLoose (.invalidType .null expected)
  | some 't' => bump; literal 't'; failLoose (.invalidType (.bool true) expected)
  | some 'f' => bump; literal 'f'; failLoose (.invalidType (.bool false) expected)
  | some '-' => bump; let n ← number false; failLoose (.invalidType (.ofNumber n) expected)
  | some '"' => bump; let s ← string; failLoose (.invalidType (.str s) expected)
  | some '[' => failLoose (.invalidType .seq expected)
  | some '{' => failLoose (.invalidType .map expected)
  | some ch =>
    if ch.isDigit then do let n ← number true; failLoose (.invalidType (.ofNumber n) expected)
    else failNext .expectedSomeValue
  | none => failNext .expectedSomeValue

/-- Whether another item follows in an array: `]` ends it, a comma must separate items. -/
def nextItem (first : Bool) : Reader Bool := do
  match ← skipBlank with
  | none => failNext .eofWhileParsingList
  | some ']' => pure false
  | some ',' =>
    if first then pure true
    else
      bump
      match ← skipBlank with
      | some ']' => failNext .trailingComma
      | some _ => pure true
      | none => failNext .eofWhileParsingValue
  | some _ => if first then pure true else failNext .expectedListCommaOrEnd

/-- Whether another member follows in an object: `}` ends it, a comma must separate members,
and a key starts with a quote. -/
def nextMember (first : Bool) : Reader Bool := do
  match ← skipBlank with
  | none => failNext .eofWhileParsingObject
  | some '}' => pure false
  | some ',' =>
    if first then failNext .keyMustBeAString
    else
      bump
      match ← skipBlank with
      | some '"' => pure true
      | some '}' => failNext .trailingComma
      | some _ => failNext .keyMustBeAString
      | none => failNext .eofWhileParsingValue
  | some '"' => if first then pure true else failNext .expectedObjectCommaOrEnd
  | some _ => if first then failNext .keyMustBeAString else failNext .expectedObjectCommaOrEnd

/-- The colon after a key. -/
def colon : Reader Unit := do
  match ← skipBlank with
  | some ':' => bump
  | some _ => failNext .expectedColon
  | none => failNext .eofWhileParsingObject

/-- The end of an array, after its items. -/
def closeArray : Reader Unit := do
  match ← skipBlank with
  | some ']' => bump
  | some ',' =>
    bump
    match ← skipBlank with
    | some ']' => failNext .trailingComma
    | _ => failNext .trailingCharacters
  | some _ => failNext .trailingCharacters
  | none => failNext .eofWhileParsingList

/-- The end of an object, after its members. -/
def closeObject : Reader Unit := do
  match ← skipBlank with
  | some '}' => bump
  | some ',' => failNext .trailingComma
  | some _ => failNext .trailingCharacters
  | none => failNext .eofWhileParsingObject

/-- An object key, its quote not yet read. -/
def key : Reader String := do bump; string

/-- Enough steps for any loop over the rest of the text: each step reads a character. -/
def budget : Reader Nat := fun c => .ok (c.rest.length + 1) c

mutual

/-- Read any value as written. `d` is how many arrays and objects may still be opened. -/
def document (d : Nat) : Reader Json := do
  match ← skipBlank with
  | none => failNext .eofWhileParsingValue
  | some 'n' => bump; literal 'n'; pure .null
  | some 't' => bump; literal 't'; pure (.bool true)
  | some 'f' => bump; literal 'f'; pure (.bool false)
  | some '-' => bump; return .num (← number false)
  | some '"' => bump; return .str (← string)
  | some '[' =>
    match d with
    | 0 | 1 => failNext .recursionLimitExceeded
    | e + 2 =>
      bump
      let n ← budget
      let items ← thenClose (documentItems (e + 1) n true []) closeArray
      pure (.arr items)
  | some '{' =>
    match d with
    | 0 | 1 => failNext .recursionLimitExceeded
    | e + 2 =>
      bump
      let n ← budget
      let members ← thenClose (documentMembers (e + 1) n true []) closeObject
      pure (.obj members)
  | some ch => if ch.isDigit then return .num (← number true) else failNext .expectedSomeValue
termination_by (d, 0)

/-- The items of an array, in order. -/
def documentItems (d : Nat) : Nat → Bool → List Json → Reader (List Json)
  | 0, _, acc => pure acc.reverse
  | fuel + 1, first, acc => do
    if ← nextItem first then
      let j ← document d
      documentItems d fuel false (j :: acc)
    else pure acc.reverse
termination_by fuel _ _ => (d, fuel + 1)

/-- The members of an object, in written order. -/
def documentMembers (d : Nat) : Nat → Bool → List (String × Json) →
    Reader (List (String × Json))
  | 0, _, acc => pure acc.reverse
  | fuel + 1, first, acc => do
    if ← nextMember first then
      let k ← key
      colon
      let v ← document d
      documentMembers d fuel false ((k, v) :: acc)
    else pure acc.reverse
termination_by fuel _ _ => (d, fuel + 1)

end

/-- Read any value as written, with the nesting allowance left. -/
def documentHere : Reader Json := fun c => document c.depth c

/-- Read any value, as a value: object keys sorted, the last of equal keys kept. -/
def value : Reader Json := Json.toValue <$> documentHere

/-- The states of the skipping machine: at a value, or after a value or an opening bracket
inside the bracket `frame`. -/
inductive SkipAt where
  | value (enclosing : Option Char)
  | after (frame : Char) (acceptComma : Bool)

/-- Pass over an object key and its colon, when the frame is an object. -/
def skipKey (frame : Char) : Reader Unit := do
  if frame = '{' then
    match ← skipBlank with
    | some '"' => bump
    | some _ => failNext .keyMustBeAString
    | none => failNext .eofWhileParsingObject
    skipString
    match ← skipBlank with
    | some ':' => bump
    | some _ => failNext .expectedColon
    | none => failNext .eofWhileParsingObject

/-- Check the syntax of values without keeping them; `open` holds the brackets opened
around the current one. -/
def skipMachine : Nat → SkipAt → List Char → Reader Unit
  | 0, _, _ => pure ()
  | fuel + 1, .value enclosing, opened => do
    match ← skipBlank with
    | none => failNext .eofWhileParsingValue
    | some ch =>
      let scalar : Reader Unit := do
        match enclosing, opened with
        | some f, _ => skipMachine fuel (.after f true) opened
        | none, f :: rest => skipMachine fuel (.after f true) rest
        | none, [] => pure ()
      match ch with
      | 'n' | 't' | 'f' => bump; literal ch; scalar
      | '-' => bump; skipNumber; scalar
      | '"' => bump; skipString; scalar
      | '[' | '{' =>
        bump
        skipMachine fuel (.after ch false) (match enclosing with
          | some f => f :: opened
          | none => opened)
      | _ => if ch.isDigit then do skipNumber; scalar else failNext .expectedSomeValue
  | fuel + 1, .after frame acceptComma, opened => do
    let closer := if frame = '[' then ']' else '}'
    match ← skipBlank with
    | none => failNext (if frame = '[' then .eofWhileParsingList else .eofWhileParsingObject)
    | some ch =>
      if ch = ',' ∧ acceptComma then
        bump
        skipKey frame
        skipMachine fuel (.value (some frame)) opened
      else if ch = closer then
        bump
        match opened with
        | f :: rest => skipMachine fuel (.after f true) rest
        | [] => pure ()
      else if acceptComma then
        failNext (if frame = '[' then .expectedListCommaOrEnd else .expectedObjectCommaOrEnd)
      else
        skipKey frame
        skipMachine fuel (.value (some frame)) opened

/-- Check the syntax of one value and pass over it. -/
def skipValue : Reader Unit := do
  let n ← budget
  skipMachine (2 * n) (.value none) []

/-- Read an integer within a rule's bounds. -/
def integer (rule : FieldRule) : Reader Int := placing do
  match ← skipBlank with
  | none => failNext .eofWhileParsingValue
  | some '-' => bump; let n ← number false; ofExcept (fitInteger rule n)
  | some ch =>
    if ch.isDigit then do let n ← number true; ofExcept (fitInteger rule n)
    else mismatch rule.expecting

/-- Read a boolean. -/
def flag : Reader Bool := placing do
  match ← skipBlank with
  | none => failNext .eofWhileParsingValue
  | some 't' => bump; literal 't'; pure true
  | some 'f' => bump; literal 'f'; pure false
  | some _ => mismatch "a boolean"

/-- Read a string; `expected` names it in the fault of another value. -/
def text (expected : String) : Reader String := placing do
  match ← skipBlank with
  | none => failNext .eofWhileParsingValue
  | some '"' => bump; string
  | some _ => mismatch expected

/-- `null` reads as `none`, anything else by `r`. -/
def optional {α : Type} (r : Reader α) : Reader (Option α) := do
  match ← skipBlank with
  | some 'n' => bump; literal 'n'; pure none
  | _ => some <$> r

/-- Read an identifier: a string as it is, a number as its text; anything else is refused
after it, an array or object after its opening bracket (and its closing one when empty). -/
def identifier : Reader String := placing do
  let expected := "a string or integer id"
  match ← skipBlank with
  | none => failNext .eofWhileParsingValue
  | some 'n' => bump; literal 'n'; failLoose (.invalidType .null expected)
  | some 't' => bump; literal 't'; failLoose (.invalidType (.bool true) expected)
  | some 'f' => bump; literal 'f'; failLoose (.invalidType (.bool false) expected)
  | some '-' => bump; return Json.idText (← number false)
  | some '"' => bump; string
  | some '[' =>
    enter
    bump
    leave
    thenClose (failLoose (.invalidType .seq expected)) closeArray
  | some '{' =>
    enter
    bump
    leave
    thenClose (failLoose (.invalidType .map expected)) closeObject
  | some ch =>
    if ch.isDigit then return Json.idText (← number true) else failNext .expectedSomeValue

/-- Read the items of an array, each by `r`. -/
def itemsOf {α : Type} (r : Reader α) : Nat → Bool → List α → Reader (List α)
  | 0, _, acc => pure acc.reverse
  | fuel + 1, first, acc => do
    if ← nextItem first then
      let a ← r
      itemsOf r fuel false (a :: acc)
    else pure acc.reverse

/-- Read an array whose items are read by `r`. -/
def items {α : Type} (r : Reader α) : Reader (List α) := placing do
  match ← skipBlank with
  | none => failNext .eofWhileParsingValue
  | some '[' =>
    enter
    bump
    let n ← budget
    let xs ← thenClose (do let xs ← itemsOf r n true []; leave; pure xs) closeArray
    pure xs
  | some _ => mismatch "a sequence"

/-- Read a field value by its rule. -/
def field (rule : FieldRule) : Reader FieldValue :=
  match rule with
  | .int64 => .int <$> integer .int64
  | .uint32 => (fun i => .nat i.toNat) <$> integer .uint32
  | .uint64 => (fun i => .nat i.toNat) <$> integer .uint64
  | .size => (fun i => .nat i.toNat) <$> integer .size
  | .flag => .flag <$> flag
  | .text => .text <$> text "a string"
  | .pathText => .text <$> text "path string"
  | .maybeInt64 => (fun o => (o.map FieldValue.int).getD .absent) <$> optional (integer .int64)
  | .maybeText => (fun o => (o.map FieldValue.text).getD .absent) <$> optional (text "a string")
  | .id => .text <$> identifier
  | .maybeId => (fun o => (o.map FieldValue.text).getD .absent) <$> optional identifier
  | .instant => do
    let raw ← text "a string"
    .instant <$> ofExcept (readInstant raw)
  | .maybeInstant => do
    match ← optional (text "a string") with
    | none => pure .absent
    | some raw => .instant <$> ofExcept (readInstant raw)
  | .userId => (fun j => .text j.userIdText) <$> value
  | .maybeUserId => (fun o => (o.map fun j => FieldValue.text j.userIdText).getD .absent) <$>
      optional value
  | .any => .json <$> value
  | .values => .jsons <$> items value
  | .record name fields => do
    let j ← value
    ofExcept ((FieldRule.record name fields).fromTree j)

/-- Read the fields of a record from an array, in order. -/
def recordItems (expecting : String) :
    Nat → List (String × FieldRule × Option FieldValue) → Bool → Reader (List FieldValue)
  | _, [], _ => pure []
  | index, (_, rule, dflt) :: rest, first => do
    if ← nextItem first then
      let v ← field rule
      let vs ← recordItems expecting (index + 1) rest false
      pure (v :: vs)
    else
      match dflt with
      | some d => do let vs ← recordItems expecting (index + 1) rest first; pure (d :: vs)
      | none => failLoose (.invalidLength index expecting)

/-- Take the value of member `k` into the values found so far; `none` for an unknown key.
A key already taken is refused before its value is read. -/
def memberField (k : String) :
    List (String × FieldRule × Option FieldValue) → List (Option FieldValue) →
    Option (Reader (List (Option FieldValue)))
  | [], _ => none
  | _ :: _, [] => none
  | (k', rule, _) :: rest, f :: fs =>
    if k' = k then
      some (match f with
        | some _ => failLoose (.duplicateField k)
        | none => do colon; let v ← field rule; pure (some v :: fs))
    else (memberField k rest fs).map fun r => (f :: ·) <$> r

/-- Read the members of a record from an object, by keys. -/
def recordMembers (fields : List (String × FieldRule × Option FieldValue)) :
    Nat → Bool → List (Option FieldValue) → Reader (List (Option FieldValue))
  | 0, _, found => pure found
  | fuel + 1, first, found => do
    if ← nextMember first then
      let k ← key
      match memberField k fields found with
      | some r => do let found ← r; recordMembers fields fuel false found
      | none => do colon; skipValue; recordMembers fields fuel false found
    else pure found

/-- Read a record by its shape, from an object or an array. -/
def record (shape : RecordShape) : Reader (List FieldValue) := placing do
  match ← skipBlank with
  | none => failNext .eofWhileParsingValue
  | some '[' =>
    enter
    bump
    thenClose (do let vs ← recordItems shape.expectingSeq 0 shape.fields true; leave; pure vs)
      closeArray
  | some '{' =>
    enter
    bump
    let n ← budget
    thenClose (do
        let found ← recordMembers shape.fields n true (shape.fields.map fun _ => none)
        leave
        ofExcept (fillDefaults shape.fields found))
      closeObject
  | some _ => mismatch shape.expecting

/-- An integer key: digits or a minus sign right after the quote, a closing quote right
after the number. -/
def intKey (rule : FieldRule) : Reader Int := do
  bump
  match ← peek with
  | some ch =>
    if ch.isDigit ∨ ch = '-' then pure () else fail .expectedNumericKey
  | none => fail .expectedNumericKey
  let i ← integer rule
  match ← peek with
  | some '"' => bump; pure i
  | _ => failNext .expectedNumericKey

/-- The entries of an object with integer keys, in written order. -/
def intEntries {α : Type} (r : Reader α) : Nat → Bool → List (Int × α) → Reader (List (Int × α))
  | 0, _, acc => pure acc.reverse
  | fuel + 1, first, acc => do
    if ← nextMember first then
      let k ← intKey .int64
      colon
      let v ← r
      intEntries r fuel false ((k, v) :: acc)
    else pure acc.reverse

/-- Read an object whose keys are 64-bit integers written in quotes. -/
def intKeyed {α : Type} (r : Reader α) : Reader (List (Int × α)) := placing do
  match ← skipBlank with
  | none => failNext .eofWhileParsingValue
  | some '{' =>
    enter
    bump
    let n ← budget
    thenClose (do let es ← intEntries r n true []; leave; pure es) closeObject
  | some _ => mismatch "a map"

/-- Read a whole text: one value, then only blanks. -/
def run {α : Type} (r : Reader α) (s : String) : Except JsonError α :=
  let full : Reader α := do
    let a ← r
    match ← skipBlank with
    | some _ => failNext .trailingCharacters
    | none => pure a
  match full (Cursor.start s) with
  | .ok a _ => .ok a
  | .error e _ => .error e

end Reader

end MarketChat
