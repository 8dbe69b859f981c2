/-!
# Tables of code point properties

A property of code points is kept as *runs*: ascending start points, each with the value
that holds from it up to the next start. A table is written as text, one entry per word,
`start:value` with the start in hexadecimal, and read once into two arrays; a look-up is a
binary search for the last start at or below the code point.

The same layout serves tables keyed by single code points (decompositions, compositions):
there a look-up asks for an entry that starts exactly at the key.

Main definitions: `Runs`, `Runs.ofText`, `Runs.find`, `Runs.entry?`, `hexValue`.
-/

namespace MarketChat

namespace Unicode

/-- The value of a hexadecimal digit; other characters count as zero. -/
def hexDigitValue (c : Char) : Nat :=
  if '0' ≤ c && c ≤ '9' then c.toNat - '0'.toNat
  else if 'a' ≤ c && c ≤ 'f' then c.toNat - 'a'.toNat + 10
  else if 'A' ≤ c && c ≤ 'F' then c.toNat - 'A'.toNat + 10
  else 0

/-- The number a run of hexadecimal digits writes. -/
def hexValue (s : String) : Nat := s.toList.foldl (fun n c => n * 16 + hexDigitValue c) 0

/-- Code points in hexadecimal, separated by `.`: `61.301` is `a` and a combining acute. -/
def hexPoints (s : String) : List Nat :=
  (s.splitOn ".").filterMap fun w => if w.isEmpty then none else some (hexValue w)

/-- A property of code points as runs: `values[i]` holds from `starts[i]` up to
`starts[i+1]`. -/
structure Runs (α : Type) where
  starts : Array Nat
  values : Array α

namespace Runs

/-- Read a table written as `start:value` words, the start in hexadecimal and the value read
by `parse`. -/
def ofText {α : Type} (parse : String → α) (text : String) : Runs α :=
  let entries := (text.splitOn " ").filterMap fun w =>
    match w.splitOn ":" with
    | [k, v] => some (hexValue k, parse v)
    | _ => none
  { starts := (entries.map (·.1)).toArray, values := (entries.map (·.2)).toArray }

/-- The index of the last start at or below `c` among `starts[lo, hi)`, when
`starts[lo] ≤ c`: the search halves the range until one start is left. -/
def lastAtMost (starts : Array Nat) (c : Nat) (lo hi : Nat) : Nat :=
  if h : lo + 1 < hi then
    let mid := (lo + hi) / 2
    if starts.getD mid 0 ≤ c then lastAtMost starts c mid hi else lastAtMost starts c lo mid
  else lo
termination_by hi - lo

/-- The index of the run holding `c`, if a run starts at or below it. -/
def index? {α : Type} (t : Runs α) (c : Nat) : Option Nat :=
  if t.starts.size = 0 || c < t.starts.getD 0 0 then none
  else some (lastAtMost t.starts c 0 t.starts.size)

/-- The value of the run holding `c`, or `fallback` below the first run. -/
def find {α : Type} (t : Runs α) (fallback : α) (c : Nat) : α :=
  match t.index? c with
  | some i => t.values.getD i fallback
  | none => fallback

/-- The value of the entry starting exactly at `c`, if there is one. -/
def entry? {α : Type} (t : Runs α) (c : Nat) : Option α :=
  match t.index? c with
  | some i => if t.starts.getD i 0 = c then t.values[i]? else none
  | none => none

end Runs

end Unicode

end MarketChat
