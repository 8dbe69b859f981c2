/-!
# Durable key/value storage

The client keeps a few small strings on the device: the cached responses as one blob, the
anonymous visitor's id, per-listing display flags and the notification prompt flag. A store
maps string keys to string values, optionally within a byte quota.

The quota counts UTF-8 bytes of keys and values. A write of `value` under `key` needs the
bytes of every other entry plus those of `key` and `value`; the old value of `key` does not
count, so overwriting never needs more than the entry's own size. A write that needs more
than the limit is refused and changes nothing.

A store may also be out of service, wholly or for removals only; every refused call then
fails with `invalidPath "storage unavailable"`.

Entries are kept sorted by key, so `keys` lists them in byte order.

Main definitions: `KvStore`, `KvStore.get`, `KvStore.set`, `KvStore.remove`, `StoreError`.
-/

namespace MarketChat

/-- Why a storage call failed. -/
inductive StoreError where
  | quotaExceeded (key : String) (needed limit : Nat)
  | database (detail : String)
  | serialization (detail : String)
  | invalidPath (detail : String)
  deriving Repr, DecidableEq

namespace StoreError

/-- The cause's name. -/
def kind : StoreError → String
  | .quotaExceeded .. => "QuotaExceeded"
  | .database _ => "Database"
  | .serialization _ => "Serialization"
  | .invalidPath _ => "InvalidPath"

/-- The sentence a user reads. -/
def message : StoreError → String
  | .quotaExceeded key needed limit =>
    "Storage quota exceeded writing '" ++ key ++ "' (" ++ Nat.repr needed ++ " bytes, limit " ++
      Nat.repr limit ++ ")"
  | .database d => "Database error: " ++ d
  | .serialization d => "Serialization error: " ++ d
  | .invalidPath d => "Invalid database path: " ++ d

/-- The write ran out of space. -/
def isQuotaExceeded : StoreError → Bool
  | .quotaExceeded .. => true
  | _ => false

end StoreError

/-- Which calls of a store are out of service. -/
inductive Outage where
  /-- Every call works. -/
  | none
  /-- Every call fails. -/
  | total
  /-- Only removals fail. -/
  | removals
  deriving Repr, DecidableEq

/-- String values under string keys, sorted by key, within an optional byte quota. -/
structure KvStore where
  entries : List (String × String) := []
  quota : Option Nat := none
  outage : Outage := .none
  deriving Repr

namespace KvStore

/-- The error of a store out of service. -/
def unavailable : StoreError := .invalidPath "storage unavailable"

/-- The bytes an entry takes against the quota. -/
def entryBytes (kv : String × String) : Nat := kv.1.utf8ByteSize + kv.2.utf8ByteSize

/-- Insert or replace an entry, keeping keys sorted. -/
def insertSorted (k v : String) : List (String × String) → List (String × String)
  | [] => [(k, v)]
  | (k', v') :: rest =>
    if k < k' then (k, v) :: (k', v') :: rest
    else if k = k' then (k, v) :: rest
    else (k', v') :: insertSorted k v rest

/-- The value under a key. -/
def lookup (entries : List (String × String)) (k : String) : Option String :=
  (entries.find? (·.1 = k)).map (·.2)

/-- The bytes a write of `v` under `k` needs: every other entry, then the new one. -/
def needed (s : KvStore) (k v : String) : Nat :=
  ((s.entries.filter (·.1 ≠ k)).map entryBytes).foldr (· + ·) 0 + k.utf8ByteSize + v.utf8ByteSize

/-- Read the value under a key. -/
def get (s : KvStore) (k : String) : Except StoreError (Option String) :=
  if s.outage = .total then .error unavailable else .ok (lookup s.entries k)

/-- Write a value under a key, unless it would exceed the quota. -/
def set (s : KvStore) (k v : String) : Except StoreError KvStore :=
  if s.outage = .total then .error unavailable
  else
    match s.quota with
    | some limit =>
      if s.needed k v > limit then .error (.quotaExceeded k (s.needed k v) limit)
      else .ok { s with entries := insertSorted k v s.entries }
    | none => .ok { s with entries := insertSorted k v s.entries }

/-- Remove the entry under a key; says whether there was one. -/
def remove (s : KvStore) (k : String) : Except StoreError (Bool × KvStore) :=
  if s.outage = .none then
    .ok ((lookup s.entries k).isSome, { s with entries := s.entries.filter (·.1 ≠ k) })
  else .error unavailable

/-- Every key, in byte order. -/
def keys (s : KvStore) : Except StoreError (List String) :=
  if s.outage = .total then .error unavailable else .ok (s.entries.map (·.1))

/-- The number of entries. -/
def size (s : KvStore) : Nat := s.entries.length

end KvStore

end MarketChat
