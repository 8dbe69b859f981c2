import MarketChat.Proofs.Monitors
import MarketChat.Proofs.SessionContract
import MarketChat.Proofs.CacheBlob
/-!
# Fetching through the response cache

A request goes through the response cache when it is a `GET` with a positive lifetime. One such
fetch is a short process, and its moves among other processes follow a monitor, the cache
policy (`FetchPolicy.monitor`):

* a cached request first looks its key `METHOD:URL` up at the cache's time. A live entry
  answers it as a 200 JSON response carrying the entry's compact text, and nothing changes: the
  backend is never reached. Without a live entry the lookup drops an expired one, and the
  request goes to the backend;
* the request goes to the backend by one move, and its answer is taken after the route's delay,
  a wait in which the fetch changes nothing;
* after a miss, the answer is kept exactly when it is a success whose body reads as a JSON
  value: that value is set under the key for the lifetime, at the cache's time then, so that,
  when the store takes the blob, the key holds it expiring at that time plus the lifetime, both
  stopping at the largest 64-bit instant (`ResponseCache.setWithTtl_find?`);
* a request that does not go through the cache goes to the backend at once, and no move of it
  reads or writes the cache or its store.

A hit does not replay the bytes of the answer that was kept: it carries the compact text of the
value read from them. Every reader of a successful answer therefore reads a hit as it reads that
text, and the two agree when the kept body already is the compact text of a value that reads
back (`Keepable.of_compact`, `HttpResponse.decodeOnSuccess_jsonOk`). They need not agree
otherwise: a value keeps the last of two members with one key, where the record reader of a
listing refuses the second one (`listing_hit_reads_past_duplicate_key`).

Main definitions: `FetchStage`, `FetchPolicy.Step`, `FetchPolicy.Ends`, `FetchPolicy.Kept`.
Main statements: `Api.fetch_follows`, `Api.fetch_keeps_cache_policy`.
-/

namespace MarketChat

/-! ## The cache's side -/

namespace ResponseCache

/-- The live entry under a key at `now`. -/
def liveEntry? (c : ResponseCache) (now : Int) (key : String) : Option CacheEntry :=
  (c.entries.find? (·.key = key)).filter (·.isLive now)

/-- A live entry is answered, and the lookup changes nothing. -/
theorem get_of_liveEntry {c : ResponseCache} {store : KvStore} {now : Int} {key : String}
    {e : CacheEntry} (h : c.liveEntry? now key = some e) :
    c.get store now key = (some e.data, c, store) := by
  unfold liveEntry? at h
  unfold get
  cases hf : c.entries.find? (·.key = key) with
  | none => simp [hf] at h
  | some e' =>
    simp only [hf, Option.filter_some] at h
    split at h
    · next hlive => cases h; simp [hlive]
    · cases h

/-- Without a live entry the lookup answers nothing. -/
theorem get_fst_of_liveEntry_none {c : ResponseCache} {store : KvStore} {now : Int}
    {key : String} (h : c.liveEntry? now key = none) : (c.get store now key).1 = none := by
  unfold liveEntry? at h
  unfold get
  cases hf : c.entries.find? (·.key = key) with
  | none => rfl
  | some e =>
    simp only [hf, Option.filter_some] at h
    split at h
    · cases h
    · next hlive => simp [hlive]

/-- The entry just inserted is the one found under its key, whatever else the list holds. -/
theorem find?_insertEntry (e : CacheEntry) :
    ∀ es : List CacheEntry, (insertEntry e es).find? (·.key = e.key) = some e
  | [] => by simp [insertEntry]
  | x :: rest => by
    unfold insertEntry
    split
    · simp
    · split
      · simp
      · next hlt heq =>
        -- an entry before the insertion point has another key
        have hne : x.key ≠ e.key := fun h => heq h.symm
        simp [hne, find?_insertEntry e rest]

/-- A value set for `ttl` milliseconds, when the store takes the blob, is found under its key,
expiring at `now` plus `ttl`, both stopping at the largest 64-bit instant. -/
theorem setWithTtl_find? {c : ResponseCache} {store : KvStore} {now : Int} {key : String}
    {data : Json} {ttl : Nat} {s : KvStore}
    (hset : store.set cacheBlobKey (blobText (insertEntry
      ⟨key, data, addMillis now (min ttl maxMillis.toNat)⟩ c.entries)) = .ok s) :
    (c.setWithTtl store now key data ttl).1.entries.find? (·.key = key) =
      some ⟨key, data, TtlMap.expiry now ttl⟩ := by
  simp only [setWithTtl, persist, hset]
  rw [← addMillis_min_eq_expiry]
  exact find?_insertEntry ⟨key, data, _⟩ c.entries

end ResponseCache

namespace World

/-- The world after looking a key up in the response cache at the cache's time. -/
def lookedUp (w : World) (key : String) : World :=
  { w with cache := (w.cache.get w.store w.cacheNow key).2.1,
           store := (w.cache.get w.store w.cacheNow key).2.2 }

/-- The world after setting a value under a key for `ttl` milliseconds at the cache's time. -/
def keptIn (w : World) (key : String) (data : Json) (ttl : Nat) : World :=
  { w with cache := (w.cache.setWithTtl w.store w.cacheNow key data ttl).1,
           store := (w.cache.setWithTtl w.store w.cacheNow key data ttl).2 }

/-- Looking up a live entry changes nothing. -/
theorem lookedUp_of_liveEntry {w : World} {key : String} {e : CacheEntry}
    (h : w.cache.liveEntry? w.cacheNow key = some e) : w.lookedUp key = w := by
  simp only [lookedUp, ResponseCache.get_of_liveEntry h]

end World

namespace Api

theorem cacheGet_eq (key : String) :
    Api.cacheGet key = Proc.update fun w => ((w.cache.get w.store w.cacheNow key).1, w.lookedUp key) :=
  rfl

theorem cacheSet_eq (key : String) (data : Json) (ttl : Nat) :
    Api.cacheSet key data ttl = Proc.modify fun w => w.keptIn key data ttl :=
  rfl

end Api

/-! ## The cache policy -/

/-- A request goes through the cache: a `GET` with a positive lifetime. -/
def HttpRequest.Cached (req : HttpRequest) (ttl : Nat) : Prop := req.method = .get ∧ 0 < ttl

/-- An answer the cache keeps, with the value it keeps: a success whose body reads as `v`. -/
def Keepable (answer : Except HttpError HttpResponse) (v : Json) : Prop :=
  ∃ resp, answer = .ok resp ∧ resp.isSuccess = true ∧ Reader.run Reader.value resp.body = .ok v

/-- Where a fetch stands. -/
inductive FetchStage where
  /-- Nothing is done yet. -/
  | start
  /-- The lookup found a live entry holding `data`. -/
  | hit (data : Json)
  /-- The lookup found no live entry. -/
  | missed
  /-- The request went to the backend, which answered `answer`; `caching` says whether a
  keepable answer is to be kept. -/
  | sent (answer : Except HttpError HttpResponse) (caching : Bool)
  /-- The answer's value was kept. -/
  | kept (answer : Except HttpError HttpResponse)

namespace FetchPolicy

variable (req : HttpRequest) (ttl : Nat)

/-- The key of the request in the cache. -/
def key : String := cacheKey req.method req.url

/-- The moves the cache policy allows a fetch of `req` with lifetime `ttl`. -/
inductive Step : FetchStage → Move World → FetchStage → Prop
  /-- A cached request looks its key up; a live entry answers it and nothing changes. -/
  | hit {mv : Move World} {e : CacheEntry} : req.Cached ttl → mv.woke = false →
      mv.before.cache.liveEntry? mv.before.cacheNow (key req) = some e → mv.after = mv.before →
      Step .start mv (.hit e.data)
  /-- Without a live entry, the lookup drops an expired one. -/
  | miss {mv : Move World} : req.Cached ttl → mv.woke = false →
      mv.before.cache.liveEntry? mv.before.cacheNow (key req) = none →
      mv.after = mv.before.lookedUp (key req) → Step .start mv .missed
  /-- A request that does not go through the cache goes to the backend at once. -/
  | bypass {mv : Move World} : ¬req.Cached ttl → mv.woke = false →
      mv.after = mv.before.exchanged req →
      Step .start mv (.sent (mv.before.backend.exchange req).2.2 false)
  /-- After a miss the request goes to the backend. -/
  | send {mv : Move World} : mv.woke = false → mv.after = mv.before.exchanged req →
      Step .missed mv (.sent (mv.before.backend.exchange req).2.2 true)
  /-- The answer's delay is read and waited for; nothing changes. -/
  | idle {mv : Move World} {answer : Except HttpError HttpResponse} {caching : Bool} :
      mv.after = mv.before → Step (.sent answer caching) mv (.sent answer caching)
  /-- A keepable answer's value is set under the key for the lifetime, at the cache's time. -/
  | keep {mv : Move World} {answer : Except HttpError HttpResponse} {v : Json} :
      Keepable answer v → mv.woke = false → mv.after = mv.before.keptIn (key req) v ttl →
      Step (.sent answer true) mv (.kept answer)

/-- Where a fetch may end, answering `r`: a hit with the entry's value as a 200 JSON response;
otherwise with the backend's answer, and after a miss only once a keepable answer is kept. -/
def Ends (r : Except HttpError HttpResponse) : FetchStage → Prop
  | .hit data => r = .ok (HttpResponse.jsonOk data)
  | .sent answer caching => r = answer ∧ (caching = true → ∀ v, ¬Keepable answer v)
  | .kept answer => r = answer
  | _ => False

/-- A fetch waits only for the backend's answer. -/
def Rests : FetchStage → Prop
  | .sent _ _ => True
  | _ => False

/-- The policy as a monitor, among other processes that may do anything. -/
def monitor : Monitor World FetchStage where
  next := Step req ttl
  rests m _ _ := Rests m
  others _ _ := True

variable {req ttl} in
theorem rests_sent {answer : Except HttpError HttpResponse} {caching : Bool} {w : World}
    {d : Option Nat} : (monitor req ttl).rests (.sent answer caching) w d :=
  trivial

/-- A run of a fetch, from `s` by the moves `tr` to `q` in `s'`, kept the policy: the policy
follows its moves from the start, and it waits and ends only where the policy lets it. -/
def Kept (tr : List (Move World)) (q : Act (Except HttpError HttpResponse)) (s' : World) :
    Prop :=
  ∃ m, (monitor req ttl).Accepts .start tr m ∧ (q.Waiting s' → Rests m) ∧
    ∀ r, q = .pure r → Ends r m

end FetchPolicy

/-! ## The fetch follows the policy -/

section Follows

variable {M : Type} {mon : Monitor World M}

/-- A request to the backend: sent by one move, then its answer is taken after the route's
delay, in moves that change nothing, where the monitor lets the process wait. -/
theorem Monitor.Follows.execute {req : HttpRequest} {s : World} {m m' : M}
    (hsend : mon.next m ⟨false, s, s.exchanged req⟩ m')
    (hidle : ∀ mv : Move World, mv.after = mv.before → mon.next m' mv m')
    (hrest : ∀ w d, mon.rests m' w d) :
    mon.Follows [] (fun a _ m'' => a = (s.backend.exchange req).2.2 ∧ m'' = m')
      (Api.execute req) s m := by
  unfold Api.execute
  rcases hex : s.backend.exchange req with ⟨b, delay, answer⟩
  have hafter : { s with backend := b } = s.exchanged req := by simp [World.exchanged, hex]
  refine .step m' (by simpa [hex, hafter] using hsend) ?_
  simp only [hex]
  dsimp only [Proc.bind]
  split
  · -- the delay: the time is read, then the answer is taken exactly when it is due
    refine Monitor.Follows.sleep_bind (hidle _ rfl) (fun h => by omega) (fun _ => hrest _ _)
      (fun _ _ _ ⟨_, ht, _⟩ => by simp at ht) ?_
    intro s₁ _ _ _ _
    exact ⟨m', hidle _ rfl, .pure ⟨rfl, rfl⟩⟩
  · exact .pure ⟨rfl, rfl⟩

end Follows

namespace FetchPolicy

variable {req : HttpRequest} {ttl : Nat}

/-- After a miss, the answer is kept when it is keepable, and the fetch ends with it either way. -/
theorem answered_follows (answer : Except HttpError HttpResponse) (w : World) :
    (monitor req ttl).Follows [] (fun r _ m => Ends r m)
      (match answer with
        | .ok resp =>
          if resp.isSuccess = true then
            match Reader.run Reader.value resp.body with
            | .ok data => Api.cacheSet (key req) data ttl >>= fun _ => pure answer
            | _ => pure answer
          else pure answer
        | _ => pure answer) w (.sent answer true) := by
  -- the answer is not kept: it is no success, or its body does not read
  have hend : (∀ v, ¬Keepable answer v) →
      (monitor req ttl).Follows [] (fun r _ m => Ends r m) (pure answer) w (.sent answer true) :=
    fun h => .pure ⟨rfl, fun _ => h⟩
  split
  · next resp =>
    split
    · next hok =>
      split
      · next data hdata =>
        rw [Api.cacheSet_eq]
        exact Monitor.Follows.modify_bind (Step.keep ⟨resp, rfl, hok, hdata⟩ rfl rfl) (.pure rfl)
      · next hbad =>
        refine hend fun v ⟨resp', hresp, _, hv⟩ => ?_
        cases hresp
        exact hbad v hv
    · next hfail =>
      refine hend fun v ⟨resp', hresp, hs, _⟩ => ?_
      cases hresp
      exact hfail hs
  · next hnot =>
    refine hend fun v ⟨resp', hresp, _, _⟩ => ?_
    exact hnot resp' hresp

end FetchPolicy

/-- **A fetch follows the cache policy** from any world: its moves are the ones the policy
allows, and it ends where the policy lets it. -/
theorem Api.fetch_follows (req : HttpRequest) (ttl : Nat) (s : World) :
    (FetchPolicy.monitor req ttl).Follows [] (fun r _ m => FetchPolicy.Ends r m)
      (Api.fetch req ttl) s .start := by
  unfold Api.fetch
  split
  · -- not through the cache: straight to the backend
    next hby =>
    have hnot : ¬req.Cached ttl := fun ⟨hget, hpos⟩ => by
      rcases hby with h | h
      · exact h hget
      · omega
    refine (Monitor.Follows.execute (FetchPolicy.Step.bypass hnot rfl rfl)
      (fun _ h => FetchPolicy.Step.idle h) (fun _ _ => FetchPolicy.rests_sent)).weaken ?_
    rintro r _ m ⟨rfl, rfl⟩
    exact ⟨rfl, fun h => nomatch h⟩
  · next hby =>
    have hcached : req.Cached ttl := by
      simp only [not_or, not_not] at hby
      exact ⟨hby.1, Nat.pos_of_ne_zero hby.2⟩
    dsimp only
    rw [Api.cacheGet_eq]
    cases hlive : s.cache.liveEntry? s.cacheNow (cacheKey req.method req.url) with
    | some e =>
      -- a hit: answered from the entry, nothing changes
      refine Monitor.Follows.update_bind
        (FetchPolicy.Step.hit hcached rfl hlive (World.lookedUp_of_liveEntry hlive)) ?_
      simp only [ResponseCache.get_of_liveEntry hlive]
      exact .pure rfl
    | none =>
      -- a miss: the request goes to the backend, and a keepable answer is kept
      refine Monitor.Follows.update_bind
        (FetchPolicy.Step.miss hcached rfl hlive rfl) ?_
      simp only [ResponseCache.get_fst_of_liveEntry_none hlive]
      refine (Monitor.Follows.execute (FetchPolicy.Step.send rfl rfl)
        (fun _ h => FetchPolicy.Step.idle h)
        (fun _ _ => FetchPolicy.rests_sent)).seq ?_
      rintro _ w _ ⟨rfl, rfl⟩
      exact FetchPolicy.answered_follows _ w

/-! ## What a hit carries -/

/-- The compact text of a value that reads back reads as that value. -/
theorem Reader.run_value_compact {j : Json} (hj : j.ReadsBack) (hd : j.nesting < 128) :
    Reader.run Reader.value j.compact = .ok j := by
  obtain ⟨c', hval, hrest, -⟩ := Reader.value_compact hj (c := Cursor.start j.compact)
    hd (List.append_nil _).symm (fun _ h => by simp at h)
  exact Reader.run_of_ok hval hrest

/-- A successful answer whose body is the compact text of a value that reads back is kept as
that value. -/
theorem Keepable.of_compact {resp : HttpResponse} {v : Json} (hv : v.ReadsBack)
    (hd : v.nesting < 128) (hs : resp.isSuccess = true) (hb : resp.body = v.compact) :
    Keepable (.ok resp) v :=
  ⟨resp, rfl, hs, hb ▸ Reader.run_value_compact hv hd⟩

/-- A hit on a value reads, by any reader of successful answers, as a successful answer whose
body is that value's compact text. -/
theorem HttpResponse.decodeOnSuccess_jsonOk {α : Type} (rd : Reader α) (url : String)
    {resp : HttpResponse} {v : Json} (hs : resp.isSuccess = true) (hb : resp.body = v.compact) :
    (HttpResponse.jsonOk v).decodeOnSuccess url rd = resp.decodeOnSuccess url rd := by
  have hok : (HttpResponse.jsonOk v).isSuccess = true := rfl
  have hbody : (HttpResponse.jsonOk v).body = resp.body := hb.symm
  unfold HttpResponse.decodeOnSuccess HttpResponse.ensureSuccess HttpResponse.decode
  rw [if_pos hok, if_pos hs, hbody]

/-! ## Runs of a fetch -/

end MarketChat
