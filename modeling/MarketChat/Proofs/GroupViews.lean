import MarketChat.Proofs.ContractJoin
import MarketChat.Proofs.AnonymousIdentity
import MarketChat.Proofs.CachedFetch
import MarketChat.Proofs.IdNormalisation
import MarketChat.Inbox.Seller
/-!
# The seller's group views

`Inbox.groupViews` shows the snapshot of the seller's conversations one group per listing, in
the snapshot's order, and a refresh stores the groups by ascending listing id
(`Groups.read_keys_ascend`). A view carries its group's conversations and unread count, tells
whether the group is folded (its flag in the store reads `"true"`), and is titled by its
listing. Listings are looked up once per inbox: a lookup answered by the memo of listings found
so far sends nothing, and only a listing found joins the memo. The lookups of all groups run
side by side (`Proc.joinAll`), among any other tasks.

The argument is made against one contract, `Inbox.memoContract M₀`, from the memo `M₀` when a
call starts: every step keeps the memo as a prefix, keeps the configuration, and sends no
request to the address of a listing that `M₀` holds (`Inbox.MemoStep`). The address of a
listing names it (`Api.listingAddress_injective`), so a lookup of a listing that `M₀` lacks
keeps the contract; a lookup of one it holds sends nothing.

A lookup that fails is not kept, but it is not sent again either while the response cache holds
the answer that failed: a successful JSON answer is cached whether or not it reads as a listing
(`Inbox.listing_fails_from_cache`).

Folding a group writes the flag that its view reads: `Inbox.toggleGroup` answers that the group
is folded exactly when its flag did not read `"true"`, and writes that answer, unless the store
refuses the write, which then leaves the world as it was.

Main statements: `Inbox.groupViews_follow_memo`, `Inbox.toggleGroup_flips`,
`Groups.read_keys_ascend`.
-/

namespace MarketChat

/-! ## Addresses of listings -/

namespace Url

/-- Form encoding keeps a digit or a minus sign as it is. -/
theorem formBytes_of_intChar {ch : Char} (h : ch.isDigit = true ∨ ch = '-') :
    (utf8Bytes ch).flatMap formByte = [ch] := by
  have hn : (48 ≤ ch.toNat ∧ ch.toNat ≤ 57) ∨ ch.toNat = 45 := by
    rcases h with h | rfl
    · left
      simp only [Char.isDigit, Bool.and_eq_true, decide_eq_true_eq] at h
      exact ⟨h.1, h.2⟩
    · right
      rfl
  have hlt : ch.toNat < 0x80 := by omega
  have hkeep : formKeeps ch.toNat = true := by
    simp only [formKeeps, Bool.or_eq_true, Bool.and_eq_true, decide_eq_true_eq]
    omega
  have hsp : ch.toNat ≠ 32 := by omega
  simp [utf8Bytes, hlt, formByte, hkeep, hsp]

/-- A text of digits and minus signs is its own form encoding. -/
theorem formEncode_of_intChars {s : String} (h : ∀ ch ∈ s.toList, ch.isDigit = true ∨ ch = '-') :
    formEncode s = s := by
  have hl : ∀ l : List Char, (∀ ch ∈ l, ch.isDigit = true ∨ ch = '-') →
      (l.flatMap utf8Bytes).flatMap formByte = l := by
    intro l hl
    induction l with
    | nil => rfl
    | cons ch l ih =>
      rw [List.flatMap_cons, List.flatMap_append, formBytes_of_intChar (hl ch List.mem_cons_self),
        ih fun c hc => hl c (List.mem_cons_of_mem ch hc)]
      rfl
  unfold formEncode textBytes
  rw [hl s.toList h, String.ofList_toList]

end Url

/-- The text of an integer: digits, after a minus sign when it is negative. -/
theorem intText_chars (X : Int) : ∀ ch ∈ (toString X).toList, ch.isDigit = true ∨ ch = '-' := by
  intro ch hch
  cases X with
  | ofNat n =>
    change ch ∈ (Nat.repr n).toList at hch
    rw [Nat.toList_repr] at hch
    exact .inl (Nat.isDigit_of_mem_toDigits (by decide) (by decide) hch)
  | negSucc n =>
    change ch ∈ ("-" ++ Nat.repr (n + 1)).toList at hch
    rw [String.toList_append, Nat.toList_repr] at hch
    rcases List.mem_append.1 hch with h | h
    · exact .inr (by simpa using h)
    · exact .inl (Nat.isDigit_of_mem_toDigits (by decide) (by decide) h)

/-- Integers have different texts. -/
theorem intText_injective {X Y : Int} (h : toString X = toString Y) : X = Y := by
  -- the digits of a number read back as the number
  have hnat : ∀ {m n : Nat}, Nat.repr m = Nat.repr n → m = n := fun h => by
    have := congrArg (fun s : String => Nat.ofDigitChars 10 s.toList 0) h
    simpa only [Nat.toList_repr, Nat.ofDigitChars_ten_toDigits] using this
  -- a minus sign starts the texts of negative numbers only
  have hsign : ∀ m n : Nat, Nat.repr m ≠ "-" ++ Nat.repr n := by
    intro m n hmn
    have hmem : '-' ∈ Nat.toDigits 10 m := by
      rw [← Nat.toList_repr, hmn, String.toList_append]
      simp
    exact absurd (Nat.isDigit_of_mem_toDigits (by decide) (by decide) hmem) (by decide)
  cases X with
  | ofNat m =>
    cases Y with
    | ofNat n => exact congrArg Int.ofNat (hnat h)
    | negSucc n => exact absurd h (hsign m (n + 1))
  | negSucc m =>
    cases Y with
    | ofNat n => exact absurd h.symm (hsign n (m + 1))
    | negSucc n =>
      have hmn : m + 1 = n + 1 := hnat ((String.append_right_inj "-").1 h)
      rw [Nat.add_right_cancel hmn]

namespace Api

/-- The address of a listing names it: two listings with one address are one. -/
theorem listingAddress_injective {cfg : ChatConfig} {X Y : Int} {url : String}
    (hX : address cfg "/posts/iphone" [("id", toString X)] = .ok url)
    (hY : address cfg "/posts/iphone" [("id", toString Y)] = .ok url) : X = Y := by
  unfold address at hX hY
  cases hp : Url.parse (cfg.apiUrl "/posts/iphone") with
  | error e => simp [hp] at hX
  | ok u =>
    simp only [hp, List.isEmpty_cons, Bool.false_eq_true, if_false, Except.ok.injEq] at hX hY
    -- the two addresses differ only in the query's last value
    have h := hX.trans hY.symm
    simp only [Url.serialize, Url.pathText, Url.appendPairs, List.foldl, String.append_assoc,
      String.append_right_inj, String.append_left_inj] at h
    rw [Url.formEncode_of_intChars (intText_chars X), Url.formEncode_of_intChars (intText_chars Y)]
      at h
    exact intText_injective h

end Api

/-! ## Snapshots -/

/-- A group inserted by listing id: its id, or one of the others. -/
theorem Groups.mem_keys_insert (id : Int) (g : List Summary) :
    ∀ (gs : Groups), ∀ k ∈ (Groups.insert id g gs).map Prod.fst, k = id ∨ k ∈ gs.map Prod.fst
  | [], k, hk => by simpa [Groups.insert] using hk
  | (k', h) :: rest, k, hk => by
    unfold Groups.insert at hk
    split_ifs at hk with hlt heq
    · simpa using hk
    · simp only [List.map_cons, List.mem_cons] at hk ⊢
      rcases hk with rfl | hk
      · exact .inl rfl
      · exact .inr (.inr hk)
    · simp only [List.map_cons, List.mem_cons] at hk ⊢
      rcases hk with rfl | hk
      · exact .inr (.inl rfl)
      · rcases Groups.mem_keys_insert id g rest k hk with rfl | hk
        · exact .inl rfl
        · exact .inr (.inr hk)

/-- Inserting a group keeps the listing ids ascending. -/
theorem Groups.insert_keys_ascend (id : Int) (g : List Summary) :
    ∀ (gs : Groups), (gs.map Prod.fst).Pairwise (· < ·) →
      ((Groups.insert id g gs).map Prod.fst).Pairwise (· < ·)
  | [], _ => by simp [Groups.insert]
  | (k, h) :: rest, hs => by
    obtain ⟨hk, hrest⟩ := List.pairwise_cons.1 hs
    unfold Groups.insert
    split_ifs with hlt heq
    · -- in front of a smaller id
      refine List.pairwise_cons.2 ⟨fun k' hk' => ?_, hs⟩
      rcases List.mem_cons.1 hk' with rfl | hk'
      · exact hlt
      · exact lt_trans hlt (hk k' hk')
    · -- in place of the group with its id
      subst heq
      exact List.pairwise_cons.2 ⟨hk, hrest⟩
    · -- after a smaller id
      refine List.pairwise_cons.2 ⟨fun k' hk' => ?_, Groups.insert_keys_ascend id g rest hrest⟩
      rcases Groups.mem_keys_insert id g rest k' hk' with rfl | hk'
      · omega
      · exact hk k' hk'

/-- Inserting entries one by one into a list of ascending keys keeps the keys ascending. -/
theorem Groups.foldl_insert_keys_ascend (es : List (Int × List Summary)) :
    ∀ acc : Groups, (acc.map Prod.fst).Pairwise (· < ·) →
      ((es.foldl (fun acc (k, g) => Groups.insert k g acc) acc).map Prod.fst).Pairwise (· < ·) := by
  induction es with
  | nil => exact fun _ h => h
  | cons e es ih => exact fun acc hacc => ih _ (Groups.insert_keys_ascend e.1 e.2 acc hacc)

/-- **A snapshot read from the backend lists its groups by ascending listing id**, whatever
the order of the object's keys. -/
theorem Groups.read_keys_ascend {c c' : Cursor} {gs : Groups} (h : Groups.read c = .ok gs c') :
    (gs.map Prod.fst).Pairwise (· < ·) := by
  obtain ⟨entries, -, rfl⟩ := Reader.ok_of_bind_pure h
  -- the fold inserts the entries one by one into an ascending list
  exact Groups.foldl_insert_keys_ascend entries [] List.Pairwise.nil

/-- A step of a run, with the value and the state it gives named. -/
theorem Proc.Runs.step_eq {σ α β : Type} [Runtime σ] {keep : σ → σ → Prop}
    {f : σ → β × σ} {k : β → Proc σ α} {s s₁ : σ} {b : β} {tr : List (Move σ)} {q : Proc σ α}
    {s' : σ} (hf : f s = (b, s₁)) (h : Proc.Runs keep (k b) s₁ tr q s') :
    Proc.Runs keep (.step f k) s (⟨false, s, s₁⟩ :: tr) q s' := by
  have h' : Proc.Runs keep (k (f s).1) (f s).2 tr q s' := by
    rw [hf]
    exact h
  have hrun := Proc.Runs.step h'
  rwa [hf] at hrun

/-! ## The contract of the lookups -/

namespace Inbox

/-- A request to none of the addresses of the listings that the memo `M₀` holds. -/
def Unmemoized (M₀ : List (Int × ListingInfo)) (cfg : ChatConfig) (req : HttpRequest) : Prop :=
  ∀ X ∈ M₀.map Prod.fst, Api.address cfg "/posts/iphone" [("id", toString X)] ≠ .ok req.url

/-- A step that the lookups rely on, from the memo `M₀` when a call starts: the memo grows at
its end, the configuration stays, the backend receives no request for a listing that `M₀`
holds, and cancelled tokens stay cancelled. -/
structure MemoStep (M₀ : List (Int × ListingInfo)) (w w' : World) : Prop where
  memo : w.inbox.listings <+: w'.inbox.listings
  config : w'.config = w.config
  sent : ∃ reqs, w'.backend.log = w.backend.log ++ reqs ∧ ∀ r ∈ reqs, Unmemoized M₀ w.config r
  cancelled : ∀ t, Runtime.cancelled w t = true → Runtime.cancelled w' t = true

variable {M₀ : List (Int × ListingInfo)}

theorem MemoStep.refl (w : World) : MemoStep M₀ w w :=
  ⟨List.prefix_refl _, rfl, ⟨[], by simp, by simp⟩, fun _ h => h⟩

theorem MemoStep.trans {a b c : World} (h₁ : MemoStep M₀ a b) (h₂ : MemoStep M₀ b c) :
    MemoStep M₀ a c := by
  obtain ⟨r₁, hl₁, hr₁⟩ := h₁.sent
  obtain ⟨r₂, hl₂, hr₂⟩ := h₂.sent
  refine ⟨h₁.memo.trans h₂.memo, h₂.config.trans h₁.config,
    ⟨r₁ ++ r₂, by rw [hl₂, hl₁, List.append_assoc], fun r hr => ?_⟩,
    fun t h => h₂.cancelled t (h₁.cancelled t h)⟩
  rcases List.mem_append.1 hr with hr | hr
  · exact hr₁ r hr
  · rw [← h₁.config]
    exact hr₂ r hr

/-- A step that sends `reqs`, none of them for a listing `M₀` holds, adds to the memo at its
end, and changes neither the configuration nor the cancelled tokens. -/
theorem MemoStep.sending {w w' : World} (reqs : List HttpRequest)
    (hmemo : w.inbox.listings <+: w'.inbox.listings) (hcfg : w'.config = w.config)
    (hlog : w'.backend.log = w.backend.log ++ reqs) (hreqs : ∀ r ∈ reqs, Unmemoized M₀ w.config r)
    (hcan : w'.cancelled = w.cancelled) : MemoStep M₀ w w' := by
  refine ⟨hmemo, hcfg, ⟨reqs, hlog, hreqs⟩, fun t h => ?_⟩
  change w'.cancelled.contains t = true
  rw [hcan]
  exact h

/-- A step that only touches the response cache and the store. -/
theorem MemoStep.cache (w : World) (c : ResponseCache) (st : KvStore) :
    MemoStep M₀ w { w with cache := c, store := st } :=
  .sending [] (List.prefix_refl _) rfl (by simp) (by simp) rfl

variable (M₀) in
/-- The contract of the lookups, from the memo `M₀` when a call starts. No state has to be
settled: the lookups wait for nothing but answers and time. -/
def memoContract : Contract World where
  settled _ := True
  step := MemoStep M₀
  step_refl := MemoStep.refl
  step_trans := MemoStep.trans
  cancelled_of_step h := h.cancelled _
  step_setNow w t := .sending [] (List.prefix_refl _) rfl (by simp [Runtime.setNow]) (by simp) rfl
  settled_setNow _ _ := trivial

theorem memoContract_settled (w : World) : (memoContract M₀).settled w := trivial

/-! ## Requests -/

section Requests

variable {s : World}

/-- A request reaches the log of the backend, or nothing does. -/
theorem exchange_log (b : Backend) (req : HttpRequest) :
    (b.exchange req).1.log = b.log ++ [req] ∨ (b.exchange req).1.log = b.log := by
  unfold Backend.exchange
  split
  · exact .inr rfl
  · left
    split
    · rfl
    · split <;> rfl

theorem execute_keeps_memo {req : HttpRequest} (hreq : Unmemoized M₀ s.config req) :
    (memoContract M₀).Obeys [] (fun _ _ => True) (Api.execute req) s := by
  unfold Api.execute
  rcases hex : s.backend.exchange req with ⟨b, delay, answer⟩
  refine Contract.Obeys.update_bind ?_ ?_
  · -- the request is logged, or the backend cannot be reached and logs nothing
    have hlog := exchange_log s.backend req
    simp only [hex] at hlog ⊢
    rcases hlog with h | h
    · exact .sending [req] (List.prefix_refl _) rfl h (by simpa using hreq) rfl
    · exact .sending [] (List.prefix_refl _) rfl (by simpa using h) (by simp) rfl
  · simp only [hex]
    split
    · exact (Contract.Obeys.sleep (Q := fun _ _ => True) trivial trivial fun _ _ => trivial).bind
        fun _ _ _ => .pure trivial
    · exact .pure trivial

theorem fetch_keeps_memo {req : HttpRequest} {ttl : Nat} (hreq : Unmemoized M₀ s.config req) :
    (memoContract M₀).Obeys [] (fun _ _ => True) (Api.fetch req ttl) s := by
  unfold Api.fetch
  split
  · exact execute_keeps_memo hreq
  · -- a cache read, then the request unless the cache answered, then perhaps a cache write
    unfold Api.cacheGet
    rcases hget : s.cache.get s.store s.cacheNow (cacheKey req.method req.url) with ⟨v, c, st⟩
    refine Contract.Obeys.update_bind (by simp only [hget]; exact MemoStep.cache s c st) ?_
    simp only [hget]
    split
    · exact .pure trivial
    · refine (execute_keeps_memo (s := { s with cache := c, store := st }) hreq).bind
        fun answer s₂ _ => ?_
      have hwrite : ∀ data, (memoContract M₀).Obeys [] (fun _ _ => True)
          (Api.cacheSet (cacheKey req.method req.url) data ttl >>= fun _ => pure answer) s₂ :=
        fun _ => Contract.Obeys.modify_bind (MemoStep.cache _ _ _) (.pure trivial)
      split
      · split
        · split
          · exact hwrite _
          · exact .pure trivial
        · exact .pure trivial
      · exact .pure trivial

/-- A lookup at the backend of a listing that `M₀` lacks keeps the contract. -/
theorem listingCall_keeps_memo {lid : Int} (hlid : lid ∉ M₀.map Prod.fst) :
    (memoContract M₀).Obeys [] (fun _ _ => True) (Api.listing lid) s := by
  unfold Api.listing Api.call
  refine Contract.Obeys.read_bind (Contract.Obeys.read_bind ?_)
  split
  · exact .pure trivial
  · next url hurl =>
    refine (fetch_keeps_memo fun X hX heq => ?_).bind fun _ _ _ => ?_
    · exact hlid (Api.listingAddress_injective heq hurl ▸ hX)
    · split <;> exact .pure trivial

end Requests

/-! ## A lookup -/

/-- What a lookup of the listing `lid` ends with, from the memo `M₀` when the call started. -/
structure Found (M₀ : List (Int × ListingInfo)) (lid : Int) (o : Option ListingInfo) (w : World) :
    Prop where
  /-- The listing `M₀` held is the answer. -/
  memoized : ∀ info, M₀.lookup lid = some info → o = some info
  /-- A listing answered is in the memo. -/
  kept : ∀ info, o = some info → (lid, info) ∈ w.inbox.listings
  /-- No answer only where `M₀` held no listing. -/
  missing : o = none → M₀.lookup lid = none

theorem Found.stable (lid : Int) : (memoContract M₀).Stable (Found M₀ lid) :=
  fun _ _ _ hs h => ⟨h.memoized, fun info ho => hs.memo.subset (h.kept info ho), h.missing⟩

theorem lookup_of_grown {M M' : List (Int × ListingInfo)} (h : M <+: M') {lid : Int}
    {info : ListingInfo} (hl : M.lookup lid = some info) : M'.lookup lid = some info := by
  obtain ⟨t, rfl⟩ := h
  rw [List.lookup_append, hl]
  rfl

theorem mem_of_lookup {M : List (Int × ListingInfo)} {lid : Int} {info : ListingInfo}
    (h : M.lookup lid = some info) : (lid, info) ∈ M := by
  obtain ⟨l₁, l₂, rfl, -⟩ := List.lookup_eq_some_iff.1 h
  simp

theorem not_mem_keys_of_lookup {M : List (Int × ListingInfo)} {lid : Int}
    (h : M.lookup lid = none) : lid ∉ M.map Prod.fst := by
  intro hmem
  obtain ⟨⟨k, info⟩, hk, rfl⟩ := List.mem_map.1 hmem
  simpa using List.lookup_eq_none_iff.1 h _ hk

/-- **A lookup keeps the contract and ends in `Found`**, from any state whose memo extends
`M₀`: answered by the memo, it sends nothing; else it asks the backend for a listing that `M₀`
lacks and keeps what it finds. -/
theorem listing_found {s : World} {lid : Int} (hM : M₀ <+: s.inbox.listings) :
    (memoContract M₀).Obeys [] (Found M₀ lid) (Inbox.listing lid) s := by
  unfold Inbox.listing Inbox.state
  refine Contract.Obeys.read_bind ?_
  split
  · next info hinfo =>
    refine .pure ⟨fun info₀ h₀ => ?_, fun _ h => ?_, fun h => nomatch h⟩
    · rw [lookup_of_grown hM h₀] at hinfo
      exact congrArg some (Option.some.inj hinfo).symm
    · cases h
      exact mem_of_lookup hinfo
  · next hnone =>
    -- the memo lacks the listing, so `M₀` does too
    have hM₀ : M₀.lookup lid = none := by
      cases h₀ : M₀.lookup lid with
      | none => rfl
      | some info => exact absurd (lookup_of_grown hM h₀) (hnone info)
    refine (listingCall_keeps_memo (not_mem_keys_of_lookup hM₀)).bind fun r s₁ _ => ?_
    have hmissing : ∀ info, M₀.lookup lid = some info → False := fun _ h => by simp [hM₀] at h
    split
    · next info =>
      refine Contract.Obeys.modify_bind
        (.sending [] (List.prefix_append _ _) rfl (by simp) (by simp) rfl) ?_
      exact .pure ⟨fun _ h => (hmissing _ h).elim, fun _ h => by cases h; simp,
        fun h => nomatch h⟩
    · exact .pure ⟨fun _ h => (hmissing _ h).elim, fun _ h => (nomatch h), fun _ => hM₀⟩

/-- **A lookup that fails from the cache changes nothing.** When the memo lacks the listing and
the response cache holds a live answer for its address that does not read as a listing, the
lookup is four steps that leave the world as it was: it ends without a listing, sends nothing
and keeps nothing, so every later lookup from there fails the same way without asking the
backend. -/
theorem listing_fails_from_cache {keep : World → World → Prop} {w : World} {lid : Int}
    {url : String} {e : CacheEntry} {err : HttpError}
    (hnone : w.inbox.listings.lookup lid = none)
    (haddr : Api.address w.config "/posts/iphone" [("id", toString lid)] = .ok url)
    (httl : w.config.cacheTtlMs ≠ 0)
    (hlive : w.cache.liveEntry? w.cacheNow (cacheKey .get url) = some e)
    (hdec : (HttpResponse.jsonOk e.data).decodeOnSuccess url ListingInfo.read = .error err) :
    Proc.Runs keep (Inbox.listing lid) w [⟨false, w, w⟩, ⟨false, w, w⟩, ⟨false, w, w⟩, ⟨false, w, w⟩]
      (.pure none) w := by
  unfold Inbox.listing Inbox.state
  -- the memo is read and lacks the listing
  refine .step ?_
  simp only [Proc.bind, hnone]
  -- the lifetime and the configuration are read, and the address built
  unfold Api.listing Api.call
  refine .step (.step ?_)
  simp only [Proc.bind, haddr]
  -- the cache answers, changing nothing
  unfold Api.fetch Api.cacheGet
  simp only [httl, ne_eq, not_true_eq_false, or_self, if_false, Proc.update, bind, Proc.bind]
  refine Proc.Runs.step_eq (b := some e.data) (by simp only [ResponseCache.get_of_liveEntry hlive]) ?_
  -- and its answer does not read as a listing
  simp only [pure, Proc.bind, Api.expect, hdec]
  exact .refl _ _

/-! ## The views -/

/-- The view of the group `g` in the world `w`, from the memo `M₀` when the call started: its
listing, conversations and unread count; folded exactly when the store's flag reads `"true"`;
titled by a listing the memo holds (the one `M₀` held, when it held one), or by the fallback
title when `M₀` held none. -/
structure ViewOf (M₀ : List (Int × ListingInfo)) (w : World) (g : Int × List Summary)
    (v : GroupView) : Prop where
  listingId : v.listingId = g.1
  conversations : v.conversations = g.2
  unread : v.unread = GroupView.unreadOf g.2
  collapsed : v.collapsed = true ↔ w.store.get (collapsedKey g.1) = .ok (some "true")
  titled : (∃ info, (g.1, info) ∈ w.inbox.listings ∧ v.title = info.title) ∨
    (M₀.lookup g.1 = none ∧ v.title = fallbackTitle g.1)
  memoized : ∀ info, M₀.lookup g.1 = some info → v.title = info.title

theorem collapsedIn_iff (w : World) (lid : Int) :
    collapsedIn w lid = true ↔ w.store.get (collapsedKey lid) = .ok (some "true") := by
  unfold collapsedIn
  split
  · next flag hflag => simp [hflag]
  · next e hflag => simp [hflag]

/-- A group's view made from what its lookup found. -/
theorem viewOf_found {w : World} {lid : Int} {convs : List Summary} {o : Option ListingInfo}
    (h : Found M₀ lid o w) :
    ViewOf M₀ w (lid, convs)
      { listingId := lid, title := (o.map ListingInfo.title).getD (fallbackTitle lid),
        conversations := convs, unread := GroupView.unreadOf convs,
        collapsed := collapsedIn w lid } := by
  refine ⟨rfl, rfl, rfl, collapsedIn_iff w lid, ?_, fun info hinfo => ?_⟩
  · cases o with
    | some info => exact .inl ⟨info, h.kept info rfl, rfl⟩
    | none => exact .inr ⟨h.missing rfl, rfl⟩
  · rw [h.memoized info hinfo]
    rfl

/-- Views made group by group from what the lookups found, in the groups' order. -/
theorem forall₂_viewOf {w : World} {mk : (Int × List Summary) × Option ListingInfo → GroupView}
    (hmk : ∀ g o, Found M₀ g.1 o w → ViewOf M₀ w g (mk (g, o))) :
    ∀ {gs : Groups} {os : List (Option ListingInfo)},
      List.Forall₂ (fun g o => Found M₀ g.1 o w) gs os →
      List.Forall₂ (ViewOf M₀ w) gs ((gs.zip os).map mk)
  | _, _, .nil => .nil
  | _, _, .cons h hs => .cons (hmk _ _ h) (forall₂_viewOf hmk hs)

/-- The views obey the contract: one per group of the snapshot `s` holds, in its order, each
as `ViewOf` says in the state where the call ends. -/
theorem groupViews_views {s : World} (hM : M₀ <+: s.inbox.listings) :
    (memoContract M₀).Obeys []
      (fun views w => List.Forall₂ (ViewOf M₀ w) s.inbox.groups views) Inbox.groupViews s := by
  unfold Inbox.groupViews Inbox.state
  refine Contract.Obeys.read_bind ?_
  -- the lookups run side by side; each ends in `Found`, which the others' steps keep
  refine (Contract.Obeys.joinAll (R := fun g o w => Found M₀ g.1 o w) memoContract_settled
    (fun g => Found.stable g.1) (fun g => listing g.1) lookupFuel s.inbox.groups s
    fun g _ s₁ hs₁ => listing_found (hM.trans hs₁.memo)).bind fun os w hos => ?_
  refine Contract.Obeys.read_bind (.pure (forall₂_viewOf (fun g o h => ?_) hos))
  obtain ⟨lid, convs⟩ := g
  exact viewOf_found h

/-- **The group views follow the snapshot and the memo.** Run the group views on a pool whose
other tasks keep the contract of the lookups from the memo `M₀` the inbox holds. Every step of
the run keeps that contract: the memo only grows at its end, and the backend receives no
request for a listing `M₀` holds. When the call returns views, there is one per group of the
snapshot, in the snapshot's order, each with its group's listing id, conversations and unread
count, folded exactly when the store's flag read `"true"` where the call ended, and titled by
the listing `M₀` held, by a listing then in the memo, or, only when `M₀` held none, by the
fallback title. -/
theorem groupViews_follow_memo {pool : Pool World}
    (hpool : (memoContract pool.state.inbox.listings).PoolKept pool) :
    MemoStep pool.state.inbox.listings pool.state (pool.run groupViews).2.state ∧
      ∀ views, (pool.run groupViews).1 = some views →
        ∃ w, List.Forall₂ (ViewOf pool.state.inbox.listings w) pool.state.inbox.groups views ∧
          MemoStep pool.state.inbox.listings w (pool.run groupViews).2.state := by
  obtain ⟨-, hstep, hend⟩ := Pool.run_keeps_start (fun _ _ _ => trivial) hpool rfl
    (groupViews_views (List.prefix_refl _))
  exact ⟨hstep, fun views h => hend views h⟩

/-! ## Folding a group -/

/-- A write the store accepts is read back. -/
theorem get_of_set {st st' : KvStore} {k v : String} (h : st.set k v = .ok st') :
    st'.get k = .ok (some v) := by
  have hserv : st.outage ≠ .total := by
    intro ht
    simp [KvStore.set, ht] at h
  rw [KvStore.set_ok h]
  simp [KvStore.get, hserv, Identity.lookup_insertSorted]

/-- Folding a group is one step: its answer is the negation of the group's flag as a view
reads it, and it writes that answer where the store accepts the write. -/
theorem toggleGroup_eq (lid : Int) :
    toggleGroup lid = Proc.update fun w =>
      (!collapsedIn w lid,
        ((w.store.set (collapsedKey lid) (if !collapsedIn w lid then "true" else "false")).toOption.map
          fun st => { w with store := st }).getD w) := by
  unfold toggleGroup
  congr 1
  funext w
  cases hget : w.store.get (collapsedKey lid) <;>
  · simp only [collapsedIn, hget, ne_eq, decide_not, Bool.not_false]
    -- the write, read by the step's match and by `Except.toOption`
    split <;> next h => rw [h]; rfl

/-- **Folding a group flips its flag.** In every world, folding the group of `lid` is one step
that answers that the group is folded exactly when its flag did not read `"true"` (a store that
cannot be read counts as unfolded), and writes `"true"` or `"false"` for that answer: the store
then reads the answer back, or, when it refuses the write, the world stays as it was. -/
theorem toggleGroup_flips (lid : Int) (w : World) :
    ∃ w', Proc.Runs (fun _ _ => True) (toggleGroup lid) w [⟨false, w, w'⟩]
        (.pure (!collapsedIn w lid)) w' ∧
      (!collapsedIn w lid = true ↔ w.store.get (collapsedKey lid) ≠ .ok (some "true")) ∧
      ((∃ st, w.store.set (collapsedKey lid) (if !collapsedIn w lid then "true" else "false") =
          .ok st ∧ w' = { w with store := st } ∧
          st.get (collapsedKey lid) = .ok (some (if !collapsedIn w lid then "true" else "false"))) ∨
        ((∃ e, w.store.set (collapsedKey lid) (if !collapsedIn w lid then "true" else "false") =
          .error e) ∧ w' = w)) := by
  have hiff : !collapsedIn w lid = true ↔ w.store.get (collapsedKey lid) ≠ .ok (some "true") := by
    cases hb : collapsedIn w lid <;> simp [← collapsedIn_iff, hb]
  rw [toggleGroup_eq]
  cases hset : w.store.set (collapsedKey lid) (if !collapsedIn w lid then "true" else "false") with
  | ok st =>
    refine ⟨{ w with store := st }, Proc.Runs.step_eq ?_ (.refl _ _), hiff,
      .inl ⟨st, rfl, rfl, get_of_set hset⟩⟩
    simp only [hset, Except.toOption, Option.map_some, Option.getD_some]
  | error e =>
    refine ⟨w, Proc.Runs.step_eq ?_ (.refl _ _), hiff, .inr ⟨⟨e, rfl⟩, rfl⟩⟩
    simp only [hset, Except.toOption, Option.map_none, Option.getD_none]

end Inbox

end MarketChat
