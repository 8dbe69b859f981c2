import MarketChat.Store.Basic
import MarketChat.Text.Search
import MarketChat.Json.Read
/-!
# The response cache

Parsed JSON bodies of GET responses are cached under `METHOD:URL` keys, each until an expiry
instant in epoch milliseconds; an entry is live while the clock has not passed its expiry.
The whole entry set is copied into the store as one blob under `lais_response_cache`, a JSON
array of `{key, data, expires_at}` objects, so cached responses survive a restart.

* Opening reads the blob (an unreadable or absent blob is an empty cache; of two entries with
  one key the later wins) and then sweeps the expired entries.
* Reading an expired entry removes it and reports nothing.
* Every change that removes or adds an entry writes the blob again. When the store refuses
  that write for lack of space, the cache drops every entry and removes the blob; other
  refusals leave the store as it was and the cache as changed.
* `clearUserData` removes the entries whose keys point at private data (`isProtectedKey`).

Instants are 64-bit: an expiry that would pass the largest 64-bit value stops there.

Main definitions: `ResponseCache`, `ResponseCache.ofStore`, `isProtectedKey`.
-/

namespace MarketChat

/-- The largest instant, in milliseconds: `2^63 - 1`. -/
def maxMillis : Int := 9223372036854775807

/-- An instant moved forward by a span, stopping at `maxMillis`. -/
def addMillis (now : Int) (span : Nat) : Int := min (now + span) maxMillis

/-- Path fragments of endpoints whose answers hold private data. -/
def protectedFragments : List String :=
  ["/auth/", "/posts/", "/profile", "/admin", "/reports", "/messages", "/chats"]

/-- Words that mark a key as private wherever they occur, in any case. -/
def privateWords : List String := ["user", "profile"]

/-- A cache key points at private data: it holds a protected fragment as written, or a
private word in any case. The words are ASCII and no other character lowers to one of their
letters followed by the next, so ASCII lowering decides this as full lowering would. -/
def isProtectedKey (key : String) : Bool :=
  protectedFragments.any (Text.occursIn · key) ||
    privateWords.any (Text.occursIn · (Text.asciiLower key))

/-- A cached body with its key and expiry. -/
structure CacheEntry where
  key : String
  data : Json
  expiresAt : Int
  deriving Repr

namespace CacheEntry

/-- The entry may still be served at `now`: its expiry is not passed. -/
def isLive (e : CacheEntry) (now : Int) : Bool := decide (now ≤ e.expiresAt)

/-- How an entry is read from the blob. -/
def shape : RecordShape where
  expecting := "struct CacheEntry"
  fields := [("key", .text, none), ("data", .any, none), ("expires_at", .int64, none)]

/-- The entry from its read fields. -/
def ofFields (vs : List FieldValue) : CacheEntry where
  key := (fieldAt vs 0).textD
  data := match fieldAt vs 1 with
    | .json j => j
    | _ => .null
  expiresAt := (fieldAt vs 2).intD

/-- Read an entry from JSON text. -/
def read : Reader CacheEntry := ofFields <$> Reader.record shape

/-- The JSON of an entry, in field order. -/
def toJson (e : CacheEntry) : Json :=
  .obj [("key", .str e.key), ("data", e.data), ("expires_at", Json.ofInt e.expiresAt)]

end CacheEntry

/-- The store key of the blob. -/
def cacheBlobKey : String := "lais_response_cache"

/-- The time-to-live of `ResponseCache.set`: five minutes. -/
def defaultCacheTtl : Nat := 5 * 60 * 1000

/-- Read a blob: the entries as written, or `none` when it is not an array of entries. -/
def readBlob (blob : String) : Option (List CacheEntry) :=
  match Reader.run (Reader.items CacheEntry.read) blob with
  | .ok es => some es
  | .error _ => none

/-- Cached bodies by key, with the time-to-live of `set`. -/
structure ResponseCache where
  /-- Entries sorted by key, one per key. -/
  entries : List CacheEntry := []
  defaultTtl : Nat := defaultCacheTtl
  deriving Repr

namespace ResponseCache

/-- Insert or replace an entry, keeping keys sorted. -/
def insertEntry (e : CacheEntry) : List CacheEntry → List CacheEntry
  | [] => [e]
  | x :: rest =>
    if e.key < x.key then e :: x :: rest
    else if e.key = x.key then e :: rest
    else x :: insertEntry e rest

/-- The blob text of entries: a compact array in key order. -/
def blobText (entries : List CacheEntry) : String :=
  (Json.arr (entries.map CacheEntry.toJson)).compact

/-- Write entries to the store. A write refused for lack of space empties the cache and
removes the blob; any other refusal keeps both. -/
def persist (entries : List CacheEntry) (store : KvStore) : List CacheEntry × KvStore :=
  match store.set cacheBlobKey (blobText entries) with
  | .ok s => (entries, s)
  | .error e =>
    if e.isQuotaExceeded then
      match store.remove cacheBlobKey with
      | .ok (_, s) => ([], s)
      | .error _ => ([], store)
    else (entries, store)

/-- The entries of the stored blob, or none when it is absent, unreadable or refused. -/
def storedEntries (store : KvStore) : List CacheEntry :=
  match store.get cacheBlobKey with
  | .ok (some blob) =>
    match readBlob blob with
    | some es => es.foldl (fun acc e => insertEntry e acc) []
    | none => []
  | _ => []

/-- The number of entries held, expired ones not yet swept included. -/
def size (c : ResponseCache) : Nat := c.entries.length

/-- Remove the entries that are no longer live; persists only when one was removed. -/
def cleanExpired (c : ResponseCache) (store : KvStore) (now : Int) :
    Nat × ResponseCache × KvStore :=
  let kept := c.entries.filter (·.isLive now)
  let removed := c.entries.length - kept.length
  if removed > 0 then
    let (es, s) := persist kept store
    (removed, { c with entries := es }, s)
  else (0, c, store)

/-- Open the cache over a store: load the blob, then sweep what has expired. -/
def ofStore (store : KvStore) (now : Int) (defaultTtl : Nat) :
    ResponseCache × KvStore :=
  let (_, c, s) := cleanExpired { entries := storedEntries store, defaultTtl } store now
  (c, s)

/-- The live body under a key. An expired entry is removed and the blob written again. -/
def get (c : ResponseCache) (store : KvStore) (now : Int) (key : String) :
    Option Json × ResponseCache × KvStore :=
  match c.entries.find? (·.key = key) with
  | none => (none, c, store)
  | some e =>
    if e.isLive now then (some e.data, c, store)
    else
      let (es, s) := persist (c.entries.filter (·.key ≠ key)) store
      (none, { c with entries := es }, s)

/-- Store a body under a key for `ttl` milliseconds, replacing any earlier entry. -/
def setWithTtl (c : ResponseCache) (store : KvStore) (now : Int) (key : String) (data : Json)
    (ttl : Nat) : ResponseCache × KvStore :=
  let e : CacheEntry := { key, data, expiresAt := addMillis now (min ttl maxMillis.toNat) }
  let (es, s) := persist (insertEntry e c.entries) store
  ({ c with entries := es }, s)

/-- Store a body under a key for the default time-to-live. -/
def set (c : ResponseCache) (store : KvStore) (now : Int) (key : String) (data : Json) :
    ResponseCache × KvStore :=
  c.setWithTtl store now key data c.defaultTtl

/-- Remove one entry; the blob is written only when there was one. -/
def delete (c : ResponseCache) (store : KvStore) (key : String) : ResponseCache × KvStore :=
  if c.entries.any (·.key = key) then
    let (es, s) := persist (c.entries.filter (·.key ≠ key)) store
    ({ c with entries := es }, s)
  else (c, store)

/-- Remove every entry and write the empty blob. -/
def clear (c : ResponseCache) (store : KvStore) : ResponseCache × KvStore :=
  let (es, s) := persist [] store
  ({ c with entries := es }, s)

/-- Remove the entries holding private data; persists only when one was removed. -/
def clearUserData (c : ResponseCache) (store : KvStore) : Nat × ResponseCache × KvStore :=
  let kept := c.entries.filter (fun e => !isProtectedKey e.key)
  let removed := c.entries.length - kept.length
  if removed > 0 then
    let (es, s) := persist kept store
    (removed, { c with entries := es }, s)
  else (0, c, store)

end ResponseCache

end MarketChat
