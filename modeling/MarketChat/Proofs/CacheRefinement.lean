import MarketChat.Store.Cache
import Mathlib.Data.Set.Card
import Mathlib.Data.String.Basic
/-!
# The response cache refines a map with expiry instants

Seen from outside, a response cache is a finite map `TtlMap` from keys to a cached body and
the instant it expires. `TtlMap.perform` says what each cache operation does to that map, at
a clock reading `now` that may be anything (the clock may go backwards between calls):

* setting a key maps it to the body and `now` plus the time-to-live, the time-to-live taken
  at most the largest 64-bit instant and the sum stopping there too;
* reading a key answers its body while `now` has not passed the expiry, and otherwise removes
  the key;
* deleting and clearing remove the key or every key; dropping private data and sweeping
  remove the keys `isProtectedKey` names or whose expiry `now` has passed, and answer how many;
* the length is the number of keys.

A call runs whole under the cache's lock, so every interleaving of calls is a sequence of
them. The main statements, `ResponseCache.perform_refines` and
`ResponseCache.refines_ttlMap`, say that after any sequence of operations from a cache opened
over any store, the next operation answers what the map answers and leaves the map the
operation defines, except that an operation whose write of the blob the store refuses for lack
of space leaves it empty.

The cache keeps its entries sorted by key (`KeysSorted`). This is the invariant that makes an
entry list a map: every operation keeps it, and a sorted list is determined by the map it
denotes (`eq_of_ofEntries_eq`), which is what gives "the blob of the new map" one meaning.
-/

namespace MarketChat

/-! ## The abstract map -/

/-- Cached bodies with their expiry instants, by key. -/
abbrev TtlMap := String → Option (Json × Int)

namespace TtlMap

/-- The map with no key. -/
def empty : TtlMap := fun _ => none

/-- The keys the map holds. -/
def keys (m : TtlMap) : Set String := {k | ∃ x, m k = some x}

/-- Map `k` to a body and its expiry. -/
def put (m : TtlMap) (k : String) (x : Json × Int) : TtlMap := Function.update m k (some x)

/-- Remove `k`. -/
def erase (m : TtlMap) (k : String) : TtlMap := Function.update m k none

/-- Keep the keys whose expiry `keep` accepts. -/
def retain (keep : String → Int → Bool) (m : TtlMap) : TtlMap :=
  fun k => (m k).filter fun x => keep k x.2

/-- The keys `retain keep` removes. -/
def dropped (keep : String → Int → Bool) (m : TtlMap) : Set String :=
  {k | ∃ x, m k = some x ∧ keep k x.2 = false}

/-- The expiry of a body set at `now` for `ttl` milliseconds: the time-to-live is taken at most
the largest instant, and the sum stops there too. -/
def expiry (now : Int) (ttl : Nat) : Int := min (now + min (ttl : Int) maxMillis) maxMillis

end TtlMap

/-- What dropping private data keeps: keys that name no private data. -/
def keepPublic (k : String) (_ : Int) : Bool := !isProtectedKey k

/-- What a sweep at `now` keeps: expiries `now` has not passed. -/
def liveAt (now : Int) (_ : String) (e : Int) : Bool := decide (now ≤ e)

/-- The operations of a response cache. -/
inductive CacheOp where
  | get (key : String)
  | set (key : String) (data : Json)
  | setWithTtl (key : String) (data : Json) (ttl : Nat)
  | delete (key : String)
  | clear
  | clearUserData
  | cleanExpired
  | len

/-- What an operation answers. -/
inductive CacheAnswer where
  | done
  | value (v : Option Json)
  | count (n : Nat)

namespace TtlMap

/-- An operation on the map at clock reading `now`; `set` uses the time-to-live `ttl`. -/
noncomputable def perform (m : TtlMap) (ttl : Nat) (now : Int) : CacheOp → CacheAnswer × TtlMap
  | .get k =>
    match m k with
    | some (v, e) => if now ≤ e then (.value (some v), m) else (.value none, m.erase k)
    | none => (.value none, m)
  | .set k v => (.done, m.put k (v, expiry now ttl))
  | .setWithTtl k v d => (.done, m.put k (v, expiry now d))
  | .delete k => (.done, m.erase k)
  | .clear => (.done, empty)
  | .clearUserData => (.count (m.dropped keepPublic).ncard, m.retain keepPublic)
  | .cleanExpired => (.count (m.dropped (liveAt now)).ncard, m.retain (liveAt now))
  | .len => (.count m.keys.ncard, m)

end TtlMap

/-- The operation writes the blob: a read that finds an expired key, every write, a deletion of
a present key, a clearing, and a removal of private or expired keys that removes one. -/
def CacheOp.Writes (m : TtlMap) (now : Int) : CacheOp → Prop
  | .get k => ∃ x, m k = some x ∧ x.2 < now
  | .set .. | .setWithTtl .. | .clear => True
  | .delete k => k ∈ m.keys
  | .clearUserData => (m.dropped keepPublic).Nonempty
  | .cleanExpired => (m.dropped (liveAt now)).Nonempty
  | .len => False

namespace ResponseCache

/-- Run one operation at clock reading `now`. -/
def perform (c : ResponseCache) (store : KvStore) (now : Int) :
    CacheOp → CacheAnswer × ResponseCache × KvStore
  | .get k => let r := c.get store now k; (.value r.1, r.2)
  | .set k v => (.done, c.set store now k v)
  | .setWithTtl k v d => (.done, c.setWithTtl store now k v d)
  | .delete k => (.done, c.delete store k)
  | .clear => (.done, c.clear store)
  | .clearUserData => let r := c.clearUserData store; (.count r.1, r.2)
  | .cleanExpired => let r := c.cleanExpired store now; (.count r.1, r.2)
  | .len => (.count c.size, c, store)

/-- Run operations in order, each at its clock reading. -/
def run (c : ResponseCache) (store : KvStore) : List (Int × CacheOp) → ResponseCache × KvStore
  | [] => (c, store)
  | (now, op) :: rest =>
    let r := c.perform store now op
    r.2.1.run r.2.2 rest

end ResponseCache

/-- The store refuses a write for lack of space. -/
def KvStore.refusesForSpace (store : KvStore) (k v : String) : Bool :=
  match store.set k v with
  | .ok _ => false
  | .error e => e.isQuotaExceeded

/-! ## Entry lists as maps -/

namespace TtlMap

/-- The map an entry list denotes: the body and expiry of each key's first entry. -/
def ofEntries (es : List CacheEntry) : TtlMap :=
  fun k => (es.find? (·.key = k)).map fun e => (e.data, e.expiresAt)

@[simp] theorem ofEntries_nil : ofEntries [] = empty := rfl

theorem ofEntries_cons (e : CacheEntry) (es : List CacheEntry) (k : String) :
    ofEntries (e :: es) k = if e.key = k then some (e.data, e.expiresAt) else ofEntries es k := by
  by_cases h : e.key = k <;> simp [ofEntries, h]

/-- A key below every key of a list is not in its map. -/
theorem ofEntries_of_lt {es : List CacheEntry} {k : String} (h : ∀ e ∈ es, k < e.key) :
    ofEntries es k = none := by
  simp only [ofEntries, Option.map_eq_none_iff, List.find?_eq_none, decide_eq_true_eq]
  intro e he hk
  exact String.lt_irrefl k (hk ▸ h e he)

/-- The map of a list holds exactly the keys of its entries. -/
theorem ofEntries_eq_some {es : List CacheEntry} {k : String} {x : Json × Int}
    (h : ofEntries es k = some x) : ∃ e ∈ es, e.key = k ∧ x = (e.data, e.expiresAt) := by
  obtain ⟨e, he, rfl⟩ := Option.map_eq_some_iff.1 h
  exact ⟨e, List.mem_of_find?_eq_some he, by simpa using List.find?_some he, rfl⟩

end TtlMap

open TtlMap

/-- Entries sorted by key, strictly: the form the cache keeps. -/
def KeysSorted (es : List CacheEntry) : Prop := es.Pairwise (·.key < ·.key)

theorem keysSorted_cons {e : CacheEntry} {es : List CacheEntry} :
    KeysSorted (e :: es) ↔ (∀ x ∈ es, e.key < x.key) ∧ KeysSorted es :=
  List.pairwise_cons

/-- In a sorted list, every entry is what the map says about its key. -/
theorem ofEntries_of_mem {es : List CacheEntry} (hs : KeysSorted es) {e : CacheEntry}
    (he : e ∈ es) : ofEntries es e.key = some (e.data, e.expiresAt) := by
  induction es with
  | nil => simp at he
  | cons x rest ih =>
    obtain ⟨hx, hrest⟩ := keysSorted_cons.1 hs
    rw [ofEntries_cons]
    rcases List.mem_cons.1 he with rfl | he'
    · simp
    · have hne : x.key ≠ e.key := String.ne_of_lt (hx e he')
      simp [hne, ih hrest he']

/-- Two sorted lists that denote the same map are the same list. -/
theorem eq_of_ofEntries_eq {es es' : List CacheEntry} (hs : KeysSorted es) (hs' : KeysSorted es')
    (h : ofEntries es = ofEntries es') : es = es' := by
  induction es generalizing es' with
  | nil =>
    cases es' with
    | nil => rfl
    | cons y ys =>
      have hy := congrFun h y.key
      simp [ofEntries_cons, empty] at hy
  | cons x xs ih =>
    obtain ⟨hx, hxs⟩ := keysSorted_cons.1 hs
    cases es' with
    | nil =>
      have hk := congrFun h x.key
      simp [ofEntries_cons, empty] at hk
    | cons y ys =>
      obtain ⟨hy, hys⟩ := keysSorted_cons.1 hs'
      -- the heads carry the least key of each list, so they carry the same key
      have hkey : x.key = y.key := by
        rcases lt_trichotomy x.key y.key with hlt | heq | hgt
        · have hk := congrFun h x.key
          rw [ofEntries_cons, ofEntries_cons, if_pos rfl, if_neg (String.ne_of_lt hlt).symm,
            ofEntries_of_lt (fun e he => lt_trans hlt (hy e he))] at hk
          cases hk
        · exact heq
        · have hk := congrFun h y.key
          rw [ofEntries_cons, ofEntries_cons, if_pos rfl, if_neg (String.ne_of_lt hgt).symm,
            ofEntries_of_lt (fun e he => lt_trans hgt (hx e he))] at hk
          cases hk
      have hhead : x = y := by
        have hk := congrFun h x.key
        rw [ofEntries_cons, ofEntries_cons, if_pos rfl, if_pos hkey.symm] at hk
        cases x
        cases y
        simp_all
      subst hhead
      -- below the common head both maps agree, and at it both tails are empty
      have htail : ofEntries xs = ofEntries ys := by
        funext k
        by_cases hk : x.key = k
        · subst hk
          rw [ofEntries_of_lt hx, ofEntries_of_lt hy]
        · have h' := congrFun h k
          rwa [ofEntries_cons, ofEntries_cons, if_neg hk, if_neg hk] at h'
      rw [ih hxs hys htail]

/-! ### Insertion -/

/-- An insertion puts the entry, and nothing else changes. -/
theorem ofEntries_insertEntry (e : CacheEntry) (es : List CacheEntry) :
    ofEntries (ResponseCache.insertEntry e es) = (ofEntries es).put e.key (e.data, e.expiresAt) := by
  induction es with
  | nil =>
    funext k
    by_cases hk : k = e.key
    · subst hk; simp [ResponseCache.insertEntry, ofEntries_cons, put]
    · simp [ResponseCache.insertEntry, ofEntries_cons, put, hk, Ne.symm hk]
  | cons x rest ih =>
    funext k
    unfold ResponseCache.insertEntry
    by_cases hlt : e.key < x.key
    · by_cases hk : k = e.key
      · subst hk; simp [hlt, ofEntries_cons, put]
      · simp [hlt, ofEntries_cons, put, hk, Ne.symm hk]
    · by_cases heq : e.key = x.key
      · by_cases hk : k = e.key
        · subst hk; simp [heq, ofEntries_cons, put]
        · have hxk : x.key ≠ k := heq ▸ Ne.symm hk
          simp [heq, ofEntries_cons, put, Function.update_of_ne (Ne.symm hxk), hxk]
      · have h := congrFun ih k
        by_cases hk : k = e.key
        · subst hk
          simp only [put, Function.update_self] at h
          simp [hlt, heq, ofEntries_cons, put, Ne.symm heq, h]
        · simp only [put, Function.update_of_ne hk] at h
          simp [hlt, heq, ofEntries_cons, put, hk, h]

theorem mem_insertEntry {e y : CacheEntry} {es : List CacheEntry}
    (h : y ∈ ResponseCache.insertEntry e es) : y = e ∨ y ∈ es := by
  induction es with
  | nil => simpa [ResponseCache.insertEntry] using h
  | cons x rest ih =>
    unfold ResponseCache.insertEntry at h
    split_ifs at h
    · simpa using h
    · rcases List.mem_cons.1 h with rfl | h'
      · exact .inl rfl
      · exact .inr (List.mem_cons_of_mem _ h')
    · rcases List.mem_cons.1 h with rfl | h'
      · exact .inr (List.mem_cons_self ..)
      · rcases ih h' with rfl | h''
        · exact .inl rfl
        · exact .inr (List.mem_cons_of_mem _ h'')

/-- An insertion keeps the entries sorted. -/
theorem keysSorted_insertEntry (e : CacheEntry) {es : List CacheEntry} (hs : KeysSorted es) :
    KeysSorted (ResponseCache.insertEntry e es) := by
  induction es with
  | nil => simp [ResponseCache.insertEntry, KeysSorted]
  | cons x rest ih =>
    obtain ⟨hx, hrest⟩ := keysSorted_cons.1 hs
    unfold ResponseCache.insertEntry
    split_ifs with hlt heq
    · exact keysSorted_cons.2 ⟨fun y hy => (List.mem_cons.1 hy).elim (· ▸ hlt)
        (fun hy => lt_trans hlt (hx y hy)), hs⟩
    · exact keysSorted_cons.2 ⟨fun y hy => heq ▸ hx y hy, hrest⟩
    · have hgt : x.key < e.key := lt_of_le_of_ne (not_lt.1 hlt) (Ne.symm heq)
      refine keysSorted_cons.2 ⟨fun y hy => ?_, ih hrest⟩
      rcases mem_insertEntry hy with rfl | hy'
      · exact hgt
      · exact hx y hy'

/-! ### Removal -/

/-- Keeping the entries `keep` accepts keeps the keys of the map `keep` accepts. -/
theorem ofEntries_filter {es : List CacheEntry} (hs : KeysSorted es) (p : CacheEntry → Bool)
    (keep : String → Int → Bool) (hp : ∀ e, p e = keep e.key e.expiresAt) :
    ofEntries (es.filter p) = (ofEntries es).retain keep := by
  induction es with
  | nil => funext k; simp [retain, empty]
  | cons x rest ih =>
    obtain ⟨hx, hrest⟩ := keysSorted_cons.1 hs
    funext k
    have h := congrFun (ih hrest) k
    by_cases hkeep : keep x.key x.expiresAt = true
    · by_cases hk : x.key = k
      · subst hk; simp [hp, hkeep, ofEntries_cons, retain, Option.filter_some]
      · simp [hp, hkeep, ofEntries_cons, retain, hk, h]
    · by_cases hk : x.key = k
      · subst hk
        simp [hp, hkeep, ofEntries_cons, retain, h, ofEntries_of_lt hx, Option.filter_some]
      · simp [hp, hkeep, ofEntries_cons, retain, hk, h]

theorem keysSorted_filter {es : List CacheEntry} (hs : KeysSorted es) (p : CacheEntry → Bool) :
    KeysSorted (es.filter p) :=
  List.Pairwise.filter p hs

/-- Removing one key is keeping every other. -/
theorem retain_ne_eq_erase (m : TtlMap) (k : String) :
    m.retain (fun k' _ => decide (k' ≠ k)) = m.erase k := by
  funext k'
  by_cases hk : k' = k
  · subst hk; simp [retain, erase]
  · rcases hm : m k' with _ | x <;> simp [retain, erase, hk, hm, Option.filter_some]

/-- The keys of a sorted list's map that have a property are the keys of its entries that
have it. -/
theorem setOf_ofEntries {es : List CacheEntry} (hs : KeysSorted es) (r : String → Int → Bool) :
    {k | ∃ x, ofEntries es k = some x ∧ r k x.2 = true} =
      ↑((es.filter fun e => r e.key e.expiresAt).map (·.key)).toFinset := by
  ext k
  simp only [Set.mem_ofPred_eq, List.coe_toFinset, List.mem_map, List.mem_filter]
  constructor
  · rintro ⟨x, hx, hr⟩
    obtain ⟨e, he, rfl, rfl⟩ := ofEntries_eq_some hx
    exact ⟨e, ⟨he, hr⟩, rfl⟩
  · rintro ⟨e, ⟨he, hr⟩, rfl⟩
    exact ⟨_, ofEntries_of_mem hs he, hr⟩

/-- The keys of a sorted list's map with a property are as many as its entries with it. -/
theorem ncard_setOf_ofEntries {es : List CacheEntry} (hs : KeysSorted es)
    (r : String → Int → Bool) :
    {k | ∃ x, ofEntries es k = some x ∧ r k x.2 = true}.ncard =
      (es.filter fun e => r e.key e.expiresAt).length := by
  have hnd : ((es.filter fun e => r e.key e.expiresAt).map (·.key)).Nodup :=
    (List.pairwise_map.2 (keysSorted_filter hs _)).imp String.ne_of_lt
  rw [setOf_ofEntries hs, Set.ncard_coe_finset, List.toFinset_card_of_nodup hnd, List.length_map]

/-- A sorted list has as many entries as its map has keys. -/
theorem ncard_keys_ofEntries {es : List CacheEntry} (hs : KeysSorted es) :
    (ofEntries es).keys.ncard = es.length := by
  have h := ncard_setOf_ofEntries hs fun _ _ => true
  simp only [and_true, List.filter_true] at h
  exact h

/-- The keys a removal drops are as many as the entries it removes. -/
theorem ncard_dropped_ofEntries {es : List CacheEntry} (hs : KeysSorted es) (p : CacheEntry → Bool)
    (keep : String → Int → Bool) (hp : ∀ e, p e = keep e.key e.expiresAt) :
    ((ofEntries es).dropped keep).ncard = es.length - (es.filter p).length := by
  have h := ncard_setOf_ofEntries hs fun k e => !keep k e
  have hset : (ofEntries es).dropped keep =
      {k | ∃ x, ofEntries es k = some x ∧ (!keep k x.2) = true} := by
    ext k; simp [dropped]
  have hlen := List.length_eq_length_filter_add p (l := es)
  have hfilter : (es.filter fun e => !keep e.key e.expiresAt) = es.filter (fun e => !p e) := by
    simp [hp]
  rw [hset, h, hfilter]
  omega

/-- A removal drops a key exactly when it removes an entry. -/
theorem dropped_nonempty_iff {es : List CacheEntry} (hs : KeysSorted es) (p : CacheEntry → Bool)
    (keep : String → Int → Bool) (hp : ∀ e, p e = keep e.key e.expiresAt) :
    ((ofEntries es).dropped keep).Nonempty ↔ es.length - (es.filter p).length > 0 := by
  have hset : (ofEntries es).dropped keep =
      {k | ∃ x, ofEntries es k = some x ∧ (!keep k x.2) = true} := by
    ext k; simp [dropped]
  have hfin : ((ofEntries es).dropped keep).Finite := by
    rw [hset, setOf_ofEntries hs fun k e => !keep k e]
    exact Finset.finite_toSet _
  rw [← ncard_dropped_ofEntries hs p keep hp, gt_iff_lt, Set.ncard_pos hfin]

/-! ## Writing the blob -/

/-- The entries a write leaves: all of them, unless the store refuses the blob for lack of
space, and then none. -/
theorem persist_fst (es : List CacheEntry) (store : KvStore) :
    (ResponseCache.persist es store).1 =
      if store.refusesForSpace cacheBlobKey (ResponseCache.blobText es) then [] else es := by
  unfold ResponseCache.persist KvStore.refusesForSpace
  cases store.set cacheBlobKey (ResponseCache.blobText es) with
  | ok s => rfl
  | error e =>
    by_cases hq : e.isQuotaExceeded = true
    · simp only [hq, if_true]
      split <;> rfl
    · simp [hq]

theorem keysSorted_persist {es : List CacheEntry} (hs : KeysSorted es) (store : KvStore) :
    KeysSorted (ResponseCache.persist es store).1 := by
  rw [persist_fst]
  split
  · exact List.Pairwise.nil
  · exact hs

/-- The store refuses, for lack of space, the blob that holds map `m`: the blob of the sorted
entry list denoting it. -/
def KvStore.RefusesBlob (store : KvStore) (m : TtlMap) : Prop :=
  ∃ es, KeysSorted es ∧ ofEntries es = m ∧
    store.refusesForSpace cacheBlobKey (ResponseCache.blobText es) = true

theorem refusesBlob_ofEntries {es : List CacheEntry} (hs : KeysSorted es) (store : KvStore) :
    store.RefusesBlob (ofEntries es) ↔
      store.refusesForSpace cacheBlobKey (ResponseCache.blobText es) = true := by
  constructor
  · rintro ⟨es', hs', heq, hr⟩
    rwa [eq_of_ofEntries_eq hs' hs heq] at hr
  · intro hr
    exact ⟨es, hs, rfl, hr⟩

/-- What an operation leaves of the map it defines, `defined`: the empty map when it `writes`
the blob and the store refuses that blob for lack of space, `defined` otherwise. -/
def Leaves (store : KvStore) (writes : Prop) (defined left : TtlMap) : Prop :=
  (writes ∧ store.RefusesBlob defined) ∧ left = empty ∨
    ¬(writes ∧ store.RefusesBlob defined) ∧ left = defined

/-- A write of a sorted list leaves its map, or nothing when its blob is refused for space. -/
theorem leaves_persist {es : List CacheEntry} (hs : KeysSorted es) (store : KvStore)
    {writes : Prop} (hw : writes) :
    Leaves store writes (ofEntries es) (ofEntries (ResponseCache.persist es store).1) := by
  rw [persist_fst]
  by_cases hr : store.refusesForSpace cacheBlobKey (ResponseCache.blobText es) = true
  · exact .inl ⟨⟨hw, (refusesBlob_ofEntries hs store).2 hr⟩, by simp [hr]⟩
  · exact .inr ⟨fun h => hr ((refusesBlob_ofEntries hs store).1 h.2), by simp [hr]⟩

/-- An operation that writes nothing leaves the map it defines. -/
theorem leaves_of_not_writes (store : KvStore) {writes : Prop} (hw : ¬writes) (m : TtlMap) :
    Leaves store writes m m :=
  .inr ⟨fun h => hw h.1, rfl⟩

/-- The expiry the cache computes is the capped sum. -/
theorem addMillis_min_eq_expiry (now : Int) (ttl : Nat) :
    addMillis now (min ttl maxMillis.toNat) = expiry now ttl := by
  simp only [addMillis, expiry, maxMillis]
  omega

/-- A key is in a sorted list's map exactly when an entry carries it. -/
theorem mem_keys_ofEntries {es : List CacheEntry} (hs : KeysSorted es) {k : String} :
    k ∈ (ofEntries es).keys ↔ ∃ e ∈ es, e.key = k := by
  constructor
  · rintro ⟨x, hx⟩
    obtain ⟨e, he, hk, -⟩ := ofEntries_eq_some hx
    exact ⟨e, he, hk⟩
  · rintro ⟨e, he, rfl⟩
    exact ⟨_, ofEntries_of_mem hs he⟩

theorem erase_of_not_mem {m : TtlMap} {k : String} (h : k ∉ m.keys) : m.erase k = m := by
  funext k'
  by_cases hk : k' = k
  · subst hk
    cases hm : m k' with
    | none => simp [erase]
    | some x => exact absurd ⟨x, hm⟩ h
  · simp [erase, hk]

/-! ## One operation -/

/-- One operation on a cache answers what the map `m` it denotes answers, keeps the entries
sorted and the default time-to-live, and leaves the map the operation defines (or none, when
its blob is refused for space). -/
def StepRefines (c : ResponseCache) (store : KvStore) (now : Int) (op : CacheOp) : Prop :=
  (c.perform store now op).1 = ((ofEntries c.entries).perform c.defaultTtl now op).1 ∧
    KeysSorted (c.perform store now op).2.1.entries ∧
    (c.perform store now op).2.1.defaultTtl = c.defaultTtl ∧
    Leaves store (op.Writes (ofEntries c.entries) now)
      ((ofEntries c.entries).perform c.defaultTtl now op).2
      (ofEntries (c.perform store now op).2.1.entries)

section Operations

variable {c : ResponseCache} (hc : KeysSorted c.entries) (store : KvStore) (now : Int)
include hc

/-- Reading: a live entry answers; an expired one is removed and written away. -/
theorem stepRefines_get (k : String) : StepRefines c store now (.get k) := by
  have hview : ofEntries c.entries k =
      (c.entries.find? (·.key = k)).map fun e => (e.data, e.expiresAt) := rfl
  cases hf : c.entries.find? (·.key = k) with
  | none =>
    have hm : ofEntries c.entries k = none := by rw [hview, hf]; rfl
    simp only [StepRefines, ResponseCache.perform, ResponseCache.get, hf, TtlMap.perform, hm]
    exact ⟨trivial, hc, trivial, leaves_of_not_writes store (by simp [CacheOp.Writes, hm]) _⟩
  | some e =>
    have hm : ofEntries c.entries k = some (e.data, e.expiresAt) := by rw [hview, hf]; rfl
    by_cases hlive : now ≤ e.expiresAt
    · have hl : e.isLive now = true := by simp [CacheEntry.isLive, hlive]
      simp only [StepRefines, ResponseCache.perform, ResponseCache.get, hf, hl, if_true,
        TtlMap.perform, hm, hlive]
      exact ⟨trivial, hc, trivial,
        leaves_of_not_writes store (by simp [CacheOp.Writes, hm]; omega) _⟩
    · have hl : e.isLive now = false := by simp [CacheEntry.isLive, hlive]
      have hs := keysSorted_filter hc fun e : CacheEntry => decide (e.key ≠ k)
      have hdef : ofEntries (c.entries.filter fun e => decide (e.key ≠ k)) =
          (ofEntries c.entries).erase k := by
        rw [ofEntries_filter hc _ (fun k' _ => decide (k' ≠ k)) (fun _ => rfl),
          retain_ne_eq_erase]
      simp only [StepRefines, ResponseCache.perform, ResponseCache.get, hf, hl,
        Bool.false_eq_true, if_false, TtlMap.perform, hm, hlive]
      refine ⟨trivial, keysSorted_persist hs store, trivial, ?_⟩
      rw [← hdef]
      exact leaves_persist hs store ⟨_, hm, by simpa using hlive⟩

/-- Writing a key: the entry is inserted and the blob written. -/
theorem stepRefines_setWithTtl (k : String) (v : Json) (d : Nat) :
    StepRefines c store now (.setWithTtl k v d) := by
  have hs := keysSorted_insertEntry ⟨k, v, addMillis now (min d maxMillis.toNat)⟩ hc
  have hdef : ofEntries (ResponseCache.insertEntry ⟨k, v, addMillis now (min d maxMillis.toNat)⟩
      c.entries) = (ofEntries c.entries).put k (v, expiry now d) := by
    rw [ofEntries_insertEntry, addMillis_min_eq_expiry]
  simp only [StepRefines, ResponseCache.perform, ResponseCache.setWithTtl, TtlMap.perform]
  refine ⟨trivial, keysSorted_persist hs store, trivial, ?_⟩
  rw [← hdef]
  exact leaves_persist hs store trivial

/-- Writing a key for the default time-to-live. -/
theorem stepRefines_set (k : String) (v : Json) : StepRefines c store now (.set k v) :=
  stepRefines_setWithTtl hc store now k v c.defaultTtl

/-- Deleting: a present key is removed and the blob written; an absent one changes nothing. -/
theorem stepRefines_delete (k : String) : StepRefines c store now (.delete k) := by
  have hmem : k ∈ (ofEntries c.entries).keys ↔ c.entries.any (·.key = k) = true := by
    rw [mem_keys_ofEntries hc]; simp
  by_cases hany : c.entries.any (·.key = k) = true
  · have hs := keysSorted_filter hc fun e : CacheEntry => decide (e.key ≠ k)
    have hdef : ofEntries (c.entries.filter fun e => decide (e.key ≠ k)) =
        (ofEntries c.entries).erase k := by
      rw [ofEntries_filter hc _ (fun k' _ => decide (k' ≠ k)) (fun _ => rfl), retain_ne_eq_erase]
    simp only [StepRefines, ResponseCache.perform, ResponseCache.delete, hany, if_true,
      TtlMap.perform]
    refine ⟨trivial, keysSorted_persist hs store, trivial, ?_⟩
    rw [← hdef]
    exact leaves_persist hs store (hmem.2 hany)
  · have hnot : k ∉ (ofEntries c.entries).keys := fun h => hany (hmem.1 h)
    simp only [StepRefines, ResponseCache.perform, ResponseCache.delete, hany,
      Bool.false_eq_true, if_false, TtlMap.perform, erase_of_not_mem hnot]
    exact ⟨trivial, hc, trivial, leaves_of_not_writes store hnot _⟩

omit hc in
/-- Clearing: every entry goes and the empty blob is written. -/
theorem stepRefines_clear : StepRefines c store now .clear := by
  simp only [StepRefines, ResponseCache.perform, ResponseCache.clear, TtlMap.perform]
  refine ⟨trivial, keysSorted_persist List.Pairwise.nil store, trivial, ?_⟩
  rw [← ofEntries_nil]
  exact leaves_persist List.Pairwise.nil store trivial

/-- A sweep that keeps the entries `p` accepts answers how many keys it drops, writes the blob
only when it drops one, and leaves the retained map. Dropping private data and sweeping
expired entries are both of this form. -/
theorem stepRefines_of_sweep (op : CacheOp) (p : CacheEntry → Bool) (keep : String → Int → Bool)
    (hp : ∀ e, p e = keep e.key e.expiresAt)
    (hop : c.perform store now op =
      let r : Nat × ResponseCache × KvStore :=
        if c.entries.length - (c.entries.filter p).length > 0 then
          (c.entries.length - (c.entries.filter p).length,
            { c with entries := (ResponseCache.persist (c.entries.filter p) store).1 },
            (ResponseCache.persist (c.entries.filter p) store).2)
        else (0, c, store)
      (.count r.1, r.2))
    (habs : (ofEntries c.entries).perform c.defaultTtl now op =
      (.count ((ofEntries c.entries).dropped keep).ncard, (ofEntries c.entries).retain keep))
    (hw : op.Writes (ofEntries c.entries) now ↔ ((ofEntries c.entries).dropped keep).Nonempty) :
    StepRefines c store now op := by
  have hs := keysSorted_filter hc p
  have hcount := ncard_dropped_ofEntries hc p keep hp
  have hdef := ofEntries_filter hc p keep hp
  have hne := dropped_nonempty_iff hc p keep hp
  unfold StepRefines
  rw [hop, habs]
  by_cases hrem : c.entries.length - (c.entries.filter p).length > 0
  · simp only [hrem, if_true, hcount]
    refine ⟨trivial, keysSorted_persist hs store, trivial, ?_⟩
    rw [← hdef]
    exact leaves_persist hs store (hw.2 (hne.2 hrem))
  · -- nothing is dropped, so the filter keeps every entry
    have hall : c.entries.filter p = c.entries :=
      List.filter_eq_self.2 (List.length_filter_eq_length_iff.1 (by
        have := List.length_filter_le p c.entries; omega))
    simp only [hrem, if_false, hcount]
    refine ⟨by congr 1; omega, hc, trivial, ?_⟩
    rw [← hdef, hall]
    exact leaves_of_not_writes store (fun h => hrem (hne.1 (hw.1 h))) _

/-- Dropping private data removes exactly the protected keys and answers how many. -/
theorem stepRefines_clearUserData : StepRefines c store now .clearUserData :=
  stepRefines_of_sweep hc store now .clearUserData (fun e => !isProtectedKey e.key) keepPublic
    (fun _ => rfl) rfl rfl Iff.rfl

/-- Sweeping removes exactly the keys whose expiry `now` has passed and answers how many. -/
theorem stepRefines_cleanExpired : StepRefines c store now .cleanExpired :=
  stepRefines_of_sweep hc store now .cleanExpired (·.isLive now) (liveAt now)
    (fun _ => rfl) rfl rfl Iff.rfl

/-- The length is the number of keys. -/
theorem stepRefines_len : StepRefines c store now .len := by
  simp only [StepRefines, ResponseCache.perform, TtlMap.perform, ResponseCache.size,
    ncard_keys_ofEntries hc]
  exact ⟨trivial, hc, trivial, leaves_of_not_writes store id _⟩

end Operations

/-- Every operation on a sorted cache refines the map it denotes. -/
theorem ResponseCache.perform_refines {c : ResponseCache} (hc : KeysSorted c.entries)
    (store : KvStore) (now : Int) (op : CacheOp) : StepRefines c store now op := by
  cases op with
  | get k => exact stepRefines_get hc store now k
  | set k v => exact stepRefines_set hc store now k v
  | setWithTtl k v d => exact stepRefines_setWithTtl hc store now k v d
  | delete k => exact stepRefines_delete hc store now k
  | clear => exact stepRefines_clear store now
  | clearUserData => exact stepRefines_clearUserData hc store now
  | cleanExpired => exact stepRefines_cleanExpired hc store now
  | len => exact stepRefines_len hc store now

/-! ## Runs from an opened cache -/

/-- Inserting entries one by one into a sorted list keeps it sorted. -/
theorem keysSorted_foldl_insertEntry (es : List CacheEntry) {acc : List CacheEntry}
    (hacc : KeysSorted acc) :
    KeysSorted (es.foldl (fun acc e => ResponseCache.insertEntry e acc) acc) := by
  induction es generalizing acc with
  | nil => exact hacc
  | cons e rest ih => exact ih (keysSorted_insertEntry e hacc)

/-- The entries read back from a store are sorted. -/
theorem keysSorted_storedEntries (store : KvStore) :
    KeysSorted (ResponseCache.storedEntries store) := by
  unfold ResponseCache.storedEntries
  split
  · split
    · exact keysSorted_foldl_insertEntry _ List.Pairwise.nil
    · exact List.Pairwise.nil
  · exact List.Pairwise.nil

/-- A cache opened over any store is sorted and has the default time-to-live it was given. -/
theorem keysSorted_ofStore (store : KvStore) (now : Int) (ttl : Nat) :
    KeysSorted (ResponseCache.ofStore store now ttl).1.entries ∧
      (ResponseCache.ofStore store now ttl).1.defaultTtl = ttl :=
  let h := @ResponseCache.perform_refines ⟨ResponseCache.storedEntries store, ttl⟩
    (keysSorted_storedEntries store) store now .cleanExpired
  ⟨h.2.1, h.2.2.1⟩

/-- Every run keeps the entries sorted and the default time-to-live. -/
theorem keysSorted_run {c : ResponseCache} (hc : KeysSorted c.entries) (store : KvStore)
    (ops : List (Int × CacheOp)) :
    KeysSorted (c.run store ops).1.entries ∧ (c.run store ops).1.defaultTtl = c.defaultTtl := by
  induction ops generalizing c store with
  | nil => exact ⟨hc, rfl⟩
  | cons step rest ih =>
    obtain ⟨now, op⟩ := step
    obtain ⟨-, hs, httl, -⟩ := ResponseCache.perform_refines hc store now op
    obtain ⟨hs', httl'⟩ := ih hs (c.perform store now op).2.2
    exact ⟨hs', httl'.trans httl⟩

/-- After any sequence of operations, each at any clock reading, from a cache opened over any
store with default time-to-live `ttl`, the next operation answers what the map the cache
denotes answers, and leaves the map the operation defines, or the empty map when the store
refuses that map's blob for lack of space. -/
theorem ResponseCache.refines_ttlMap (store₀ : KvStore) (opened : Int) (ttl : Nat)
    (ops : List (Int × CacheOp)) (now : Int) (op : CacheOp) :
    let opening := ResponseCache.ofStore store₀ opened ttl
    let before := opening.1.run opening.2 ops
    let m := TtlMap.ofEntries before.1.entries
    let after := before.1.perform before.2 now op
    after.1 = (m.perform ttl now op).1 ∧
      Leaves before.2 (op.Writes m now) (m.perform ttl now op).2
        (TtlMap.ofEntries after.2.1.entries) := by
  intro opening before m after
  obtain ⟨hopen, httl⟩ := keysSorted_ofStore store₀ opened ttl
  obtain ⟨hs, httl'⟩ := keysSorted_run hopen opening.2 ops
  obtain ⟨hans, -, -, hleaves⟩ := ResponseCache.perform_refines hs before.2 now op
  rw [httl', httl] at hans hleaves
  exact ⟨hans, hleaves⟩

end MarketChat
