import MarketChat.Store.Basic
/-!
# The SQLite-backed store

Installs keep their durable strings in a database file, in one table whose rows hold a key (the
primary key) and its value. Opening a store on a file first creates that table if the file has
none and leaves an existing one as it is, so a store reopened on its file sees the rows it left
there. The table keeps its rows in the order they were first inserted; an overwrite updates the
key's row where it stands.

The quota is the memory store's rule, computed from a scan of the whole table: a write of `v`
under `k` needs the bytes of every row under another key, plus those of `k` and `v`. Only a
write that passes it touches the table, updating `k`'s row if there is one and inserting a row
otherwise.

Each row also records the time of its last write; nothing reads it back, so it is left out.

The calls of the store interface (get, set, remove, keys) are also given here as data
(`StoreCall`), with what each answers (`StoreAnswer`), so that a sequence of calls can be run on
either backend (`runCalls`).

Main definitions: `SqlFile`, `SqliteStore`, `SqliteStore.openFile`, `SqliteStore.set`,
`StoreCall`, `runCalls`.
-/

namespace MarketChat

/-- A database file: the key/value table, once a store has created it, as its rows in table
order. -/
structure SqlFile where
  table : Option (List (String × String)) := none
  deriving Repr

/-- A store on a database file, within an optional byte quota. -/
structure SqliteStore where
  rows : List (String × String)
  maxBytes : Option Nat
  deriving Repr

namespace SqliteStore

/-- Open a store on a file, creating the table if the file has none. -/
def openFile (f : SqlFile) (maxBytes : Option Nat) : SqliteStore :=
  { rows := f.table.getD [], maxBytes }

/-- A store on a new, empty file. -/
def create (maxBytes : Option Nat) : SqliteStore := openFile {} maxBytes

/-- The file as the store leaves it. -/
def file (s : SqliteStore) : SqlFile := { table := some s.rows }

/-- The row under a key, found by its primary key. -/
def findById (rows : List (String × String)) (k : String) : Option (String × String) :=
  rows.find? (·.1 = k)

/-- The bytes of every row under another key than `k`, from a scan of the table. -/
def bytesUsedExcluding (s : SqliteStore) (k : String) : Nat :=
  ((s.rows.filter (·.1 ≠ k)).map KvStore.entryBytes).foldr (· + ·) 0

/-- The bytes a write of `v` under `k` needs. -/
def needed (s : SqliteStore) (k v : String) : Nat :=
  s.bytesUsedExcluding k + k.utf8ByteSize + v.utf8ByteSize

/-- Set the value of the rows under `k`, where they stand. -/
def updateRow (k v : String) (rows : List (String × String)) : List (String × String) :=
  rows.map fun r => if r.1 = k then (k, v) else r

/-- Write a row: update the key's row if it has one, insert one at the end otherwise. -/
def upsert (k v : String) (rows : List (String × String)) : List (String × String) :=
  match findById rows k with
  | some _ => updateRow k v rows
  | none => rows ++ [(k, v)]

/-- Read the value under a key. -/
def get (s : SqliteStore) (k : String) : Option String :=
  (findById s.rows k).map (·.2)

/-- Write a value under a key, unless the write needs more than the quota. -/
def set (s : SqliteStore) (k v : String) : Except StoreError SqliteStore :=
  match s.maxBytes with
  | some limit =>
    if s.needed k v > limit then .error (.quotaExceeded k (s.needed k v) limit)
    else .ok { s with rows := upsert k v s.rows }
  | none => .ok { s with rows := upsert k v s.rows }

/-- Delete the rows under a key; says whether any row was deleted. -/
def remove (s : SqliteStore) (k : String) : Bool × SqliteStore :=
  let kept := s.rows.filter (·.1 ≠ k)
  (decide (s.rows.length - kept.length > 0), { s with rows := kept })

/-- Every key, in table order. -/
def keys (s : SqliteStore) : List String := s.rows.map (·.1)

end SqliteStore

/-! ## The store interface as calls -/

/-- A call of the store interface. -/
inductive StoreCall where
  | get (key : String)
  | set (key value : String)
  | remove (key : String)
  | keys
  deriving Repr, DecidableEq

/-- What a call answers. -/
inductive StoreAnswer where
  | value (v : Option String)
  | written
  | removed (existed : Bool)
  | keys (ks : List String)
  | failed (e : StoreError)
  deriving Repr, DecidableEq

/-- A call on the memory store; a failed call leaves the store as it was. -/
def KvStore.call (s : KvStore) : StoreCall → StoreAnswer × KvStore
  | .get k =>
    match s.get k with
    | .ok v => (.value v, s)
    | .error e => (.failed e, s)
  | .set k v =>
    match s.set k v with
    | .ok s' => (.written, s')
    | .error e => (.failed e, s)
  | .remove k =>
    match s.remove k with
    | .ok (b, s') => (.removed b, s')
    | .error e => (.failed e, s)
  | .keys =>
    match s.keys with
    | .ok ks => (.keys ks, s)
    | .error e => (.failed e, s)

/-- A call on the SQLite-backed store; a refused write leaves the store as it was. -/
def SqliteStore.call (s : SqliteStore) : StoreCall → StoreAnswer × SqliteStore
  | .get k => (.value (s.get k), s)
  | .set k v =>
    match s.set k v with
    | .ok s' => (.written, s')
    | .error e => (.failed e, s)
  | .remove k =>
    let (b, s') := s.remove k
    (.removed b, s')
  | .keys => (.keys s.keys, s)

/-- Run calls one after another, collecting their answers. -/
def runCalls {σ : Type} (call : σ → StoreCall → StoreAnswer × σ) :
    σ → List StoreCall → List StoreAnswer × σ
  | s, [] => ([], s)
  | s, c :: cs =>
    let (a, s₁) := call s c
    let (as, s₂) := runCalls call s₁ cs
    (a :: as, s₂)

end MarketChat
