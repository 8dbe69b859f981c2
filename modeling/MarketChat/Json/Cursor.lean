import MarketChat.Json.Fault
/-!
# The reading cursor

A cursor is the text still to read, the position reached, and the nesting the reader may
still enter. Positions count bytes: a character of `k` UTF-8 bytes moves the column by `k`,
a line feed starts the next line at column 0.

Faults are placed in one of two ways. A fault *here* is placed after what was read. A fault
*at the next byte* is placed as if one more byte had been read: the column moves by one, or
the line by one when that byte is a line feed; at the end of the text the two coincide.

A `Reader` is a computation over the cursor that may fail with a `JsonError`; a failure keeps
the cursor where the fault was found, so that an enclosing reader can still place it.

Main definitions: `Cursor`, `Reader`, `Reader.skipBlank`.
-/

namespace MarketChat

/-- The text still to read, and where it stands. -/
structure Cursor where
  rest : List Char
  line : Nat := 1
  column : Nat := 0
  /-- How many more arrays and objects may be opened; reading fails when it reaches zero. -/
  depth : Nat := 128
  deriving Repr

namespace Cursor

/-- A cursor at the start of a text. -/
def start (s : String) : Cursor := { rest := s.toList }

/-- The position reached. -/
def here (c : Cursor) : Pos := ⟨c.line, c.column⟩

/-- The position one byte further on. -/
def nextPos (c : Cursor) : Pos :=
  match c.rest with
  | [] => c.here
  | '\n' :: _ => ⟨c.line + 1, 0⟩
  | _ :: _ => ⟨c.line, c.column + 1⟩

/-- The next character, if any. -/
def peek (c : Cursor) : Option Char := c.rest.head?

/-- The cursor past its next character. -/
def bump (c : Cursor) : Cursor :=
  match c.rest with
  | [] => c
  | '\n' :: rest => { c with rest := rest, line := c.line + 1, column := 0 }
  | ch :: rest => { c with rest := rest, column := c.column + ch.utf8Size }

/-- The position after `n` more bytes, a character cut in two counting the bytes read. -/
def posAfterBytes (c : Cursor) (n : Nat) : Pos :=
  let rec go : List Char → Nat → Nat → Nat → Pos
    | [], line, col, _ => ⟨line, col⟩
    | _, line, col, 0 => ⟨line, col⟩
    | ch :: rest, line, col, k + 1 =>
      if ch = '\n' then go rest (line + 1) 0 k
      else if ch.utf8Size ≤ k + 1 then go rest line (col + ch.utf8Size) (k + 1 - ch.utf8Size)
      else ⟨line, col + k + 1⟩
  go c.rest c.line c.column n

/-- The position at the end of the text. -/
def endPos (c : Cursor) : Pos :=
  c.posAfterBytes (c.rest.foldl (fun n ch => n + ch.utf8Size) 0)

/-- Drop blanks: space, tab, line feed and carriage return. -/
def skipBlank (c : Cursor) : Cursor :=
  let rec go : List Char → Nat → Nat → List Char × Nat × Nat
    | ' ' :: rest, line, col => go rest line (col + 1)
    | '\t' :: rest, line, col => go rest line (col + 1)
    | '\r' :: rest, line, col => go rest line (col + 1)
    | '\n' :: rest, line, _ => go rest (line + 1) 0
    | rest, line, col => (rest, line, col)
  let (rest, line, column) := go c.rest c.line c.column
  { c with rest := rest, line := line, column := column }

end Cursor

/-- A reading step: it may fail, and a failure keeps the cursor where it was found. -/
abbrev Reader := EStateM JsonError Cursor

namespace Reader

/-- Fail with the fault placed here. -/
def fail {α : Type} (f : Fault) : Reader α := fun c => .error ⟨f, some c.here⟩ c

/-- Fail with the fault placed at the next byte. -/
def failNext {α : Type} (f : Fault) : Reader α := fun c => .error ⟨f, some c.nextPos⟩ c

/-- Fail with the fault left unplaced, for an enclosing reader to place. -/
def failLoose {α : Type} (f : Fault) : Reader α := fun c => .error ⟨f, none⟩ c

/-- The next character, without reading it. -/
def peek : Reader (Option Char) := fun c => .ok c.peek c

/-- Read one character. -/
def bump : Reader Unit := fun c => .ok () c.bump

/-- Drop blanks, then look at the next character. -/
def skipBlank : Reader (Option Char) := fun c => let c := c.skipBlank; .ok c.peek c

/-- Run a reader; a fault it leaves unplaced is placed where it stopped. -/
def placing {α : Type} (r : Reader α) : Reader α := fun c =>
  match r c with
  | .ok a c' => .ok a c'
  | .error e c' => .error (e.placeAt c'.here) c'

/-- Open one level of nesting: fails at the next byte once the allowance is used up. -/
def enter : Reader Unit := fun c =>
  if c.depth ≤ 1 then .error ⟨.recursionLimitExceeded, some c.nextPos⟩ c
  else .ok () { c with depth := c.depth - 1 }

/-- Close one level of nesting. -/
def leave : Reader Unit := fun c => .ok () { c with depth := c.depth + 1 }

/-- Run a reader; on failure, run `after` from where it stopped, keep the first fault, and
place it where `after` stopped. `after` also runs on success, and its own fault counts then. -/
def thenClose {α : Type} (r : Reader α) (after : Reader Unit) : Reader α := fun c =>
  match r c with
  | .ok a c' =>
    match after c' with
    | .ok () c'' => .ok a c''
    | .error e c'' => .error e c''
  | .error e c' =>
    match after c' with
    | .ok () c'' => .error e c''
    | .error _ c'' => .error e c''

end Reader

end MarketChat
