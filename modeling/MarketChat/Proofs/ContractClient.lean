import MarketChat.Proofs.SessionContract
/-!
# The client's requests keep the lifetime contract

The backend API, the identity and the session's actor are used both inside a lifetime (by the
operations of an open session) and outside one (the actor may be asked of a closed session).
Their specifications are therefore stated for any `World.Mode`: each keeps the mode, provided
the mode allows the requests it sends. Every mode allows the identity check, so resolving the
actor keeps the contract anywhere; a live lifetime allows every request.

Main statements: `Api.call_obeys`, `Identity.resolve_obeys`, `Session.actor_obeys`.
-/

namespace MarketChat

open World Contract

section Requests

variable {gs : List Nat} (m : Mode gs) {s : World}

theorem Api.execute_obeys {req : HttpRequest} (hs : m.holds s) (hsend : m.Sends s.config req) :
    lifetimeContract.Obeys gs (fun _ => m.holds) (Api.execute req) s := by
  unfold Api.execute
  obtain ⟨hstep, hs'⟩ := hsend s hs rfl
  rcases hex : s.backend.exchange req with ⟨b, delay, answer⟩
  have hb : s.exchanged req = { s with backend := b } := by simp [World.exchanged, hex]
  refine Obeys.update_bind ?_ ?_
  · simpa [hex, hb] using hstep
  · simp only [hex]
    rw [hb] at hs'
    split
    · exact (m.sleep hs').bind fun _ _ h => .pure h
    · exact .pure hs'

/-- Reading or writing the response cache is calm. -/
theorem Calm.cache (w : World) (c : ResponseCache) (st : KvStore) :
    Calm w { w with cache := c, store := st } :=
  Calm.aside rfl rfl rfl rfl rfl rfl rfl rfl (ChecksOnly.refl _ _)

theorem Api.fetch_obeys {req : HttpRequest} {ttl : Nat} (hs : m.holds s)
    (hsend : m.Sends s.config req) :
    lifetimeContract.Obeys gs (fun _ => m.holds) (Api.fetch req ttl) s := by
  unfold Api.fetch
  split
  · exact Api.execute_obeys m hs hsend
  · -- a cache read, then the request unless the cache answered, then perhaps a cache write
    unfold Api.cacheGet
    rcases hget : s.cache.get s.store s.cacheNow (cacheKey req.method req.url) with ⟨v, c, st⟩
    have hcalm := Calm.cache s c st
    refine Obeys.update_bind (by simpa [hget] using (m.calm_step hs hcalm).1) ?_
    have hs₁ := (m.calm_step hs hcalm).2
    simp only [hget]
    split
    · exact .pure hs₁
    · refine (Api.execute_obeys m hs₁ hsend).bind fun answer s₂ hs₂ => ?_
      have hwrite : ∀ data, lifetimeContract.Obeys gs (fun _ => m.holds)
          (Api.cacheSet (cacheKey req.method req.url) data ttl >>= fun _ => pure answer) s₂ :=
        fun _ => m.modify_bind hs₂ (Calm.cache _ _ _) fun h => .pure h
      split
      · split
        · split
          · exact hwrite _
          · exact .pure hs₂
        · exact .pure hs₂
      · exact .pure hs₂

/-- An endpoint keeps the mode when the mode allows the request it builds from the address of
its path. -/
theorem Api.call_obeys {α : Type} {path : String} {params : List (String × String)}
    {request : String → HttpRequest} {ttl : Nat} {answer : String → HttpResponse → Except HttpError α}
    (hs : m.holds s)
    (hsend : ∀ url, Api.address s.config path params = .ok url → m.Sends s.config (request url)) :
    lifetimeContract.Obeys gs (fun _ => m.holds) (Api.call path params request ttl answer) s := by
  unfold Api.call
  refine Obeys.read_bind ?_
  split
  · exact .pure hs
  · next url hurl =>
    refine (Api.fetch_obeys m hs (hsend url hurl)).bind fun r s' hs' => ?_
    split <;> exact .pure hs'

/-- Asking who is signed in keeps every mode. -/
theorem Api.currentUser_obeys (hs : m.holds s) :
    lifetimeContract.Obeys gs (fun _ => m.holds) Api.currentUser s :=
  Api.call_obeys m hs fun url hurl => m.sends_check ⟨url, hurl, rfl⟩

end Requests

section Lifetime

variable {tok : Nat} {gs : List Nat} (hg : tok ∈ gs) {s : World}
include hg

/-- Inside a guard of its token, a live lifetime may call every endpoint. -/
theorem Api.call_live {α : Type} {path : String} {params : List (String × String)}
    {request : String → HttpRequest} {ttl : Nat} {answer : String → HttpResponse → Except HttpError α}
    (hs : Live tok s) :
    lifetimeContract.Obeys gs (fun _ => Live tok) (Api.call path params request ttl answer) s :=
  Api.call_obeys (Mode.live tok gs hg) hs fun _ _ => Mode.sends_live hg _ _

theorem Api.messages_live {chatId : Int} (hs : Live tok s) :
    lifetimeContract.Obeys gs (fun _ => Live tok) (Api.messages chatId) s :=
  Api.call_live hg hs

theorem Api.markRead_live {chatId : Int} {userId : String} (hs : Live tok s) :
    lifetimeContract.Obeys gs (fun _ => Live tok) (Api.markRead chatId userId) s :=
  Api.call_live hg hs

theorem Api.createConversation_live {n : NewConversation} (hs : Live tok s) :
    lifetimeContract.Obeys gs (fun _ => Live tok) (Api.createConversation n) s :=
  Api.call_live hg hs

theorem Api.findConversation_live {listingId sellerId : Int} {buyerId : String}
    (hs : Live tok s) :
    lifetimeContract.Obeys gs (fun _ => Live tok) (Api.findConversation listingId sellerId buyerId) s :=
  (Api.call_live hg hs).bind fun _ _ h => .pure h

end Lifetime

/-! ## The actor -/

/-- Drawing an anonymous id changes only the store and the identifier count. -/
theorem Calm.store (w : World) (st : KvStore) (u : Nat) :
    Calm w { w with store := st, uuids := u } :=
  Calm.aside rfl rfl rfl rfl rfl rfl rfl rfl (ChecksOnly.refl _ _)

theorem Identity.anonymousIdIn_calm (w : World) : Calm w (Identity.anonymousIdIn w).2 := by
  have hfresh : ∀ w : World, Calm w (Identity.freshStored w).2 := by
    intro w
    unfold Identity.freshStored World.freshUuid
    dsimp only
    split
    · exact Calm.store _ _ _
    · exact Calm.aside rfl rfl rfl rfl rfl rfl rfl rfl (ChecksOnly.refl _ _)
  unfold Identity.anonymousIdIn
  split
  · split
    · exact hfresh w
    · exact Calm.aside rfl rfl rfl rfl rfl rfl rfl rfl (ChecksOnly.refl _ _)
  · exact hfresh w
  · exact Calm.aside rfl rfl rfl rfl rfl rfl rfl rfl (ChecksOnly.refl _ _)

section Actor

variable {gs : List Nat} (m : Mode gs) {s : World}

/-- Resolving the actor keeps every mode: its only request is the identity check. -/
theorem Identity.resolve_obeys (hs : m.holds s) :
    lifetimeContract.Obeys gs (fun _ => m.holds) Identity.resolve s := by
  unfold Identity.resolve
  refine Obeys.read_bind ?_
  dsimp only [id]
  split
  · exact .pure hs
  · refine (Api.currentUser_obeys m hs).bind fun answer s₁ hs₁ => ?_
    split
    · exact m.modify_bind hs₁ (Calm.aside rfl rfl rfl rfl rfl rfl rfl rfl
        (ChecksOnly.refl _ _)) fun h => .pure h
    · exact m.update_bind hs₁ (Identity.anonymousIdIn_calm s₁) fun h => .pure h

/-- A change of the actor cell is calm. -/
theorem Session.changeCell_calm (w : World) (f : ActorCell → ActorCell) :
    Calm w (w.modifySession 0 fun s => { s with actor := f s.actor }) :=
  Calm.modifySession w fun _ => ⟨rfl, rfl, rfl, rfl⟩

theorem Session.changeCell_bind {α : Type} {Q : α → World → Prop} {f : ActorCell → ActorCell}
    {k : Unit → Proc World α} (hs : m.holds s)
    (h : m.holds (s.modifySession 0 fun st => { st with actor := f st.actor }) →
      lifetimeContract.Obeys gs Q (k ()) (s.modifySession 0 fun st => { st with actor := f st.actor })) :
    lifetimeContract.Obeys gs Q (Session.changeCell 0 f >>= k) s :=
  m.modify_bind hs (Session.changeCell_calm s f) h

/-- A calm change may clean up after an interruption: it leaves the token cancelled. -/
theorem Calm.cleanup {f : World → World} (hf : ∀ w, Calm w (f w)) :
    ∀ t w, Runtime.cancelled w t = true → lifetimeContract.settled w →
      lifetimeContract.Obeys gs (fun _ w' => Runtime.cancelled w' t = true ∧
        lifetimeContract.settled w') (Proc.modify f) w := by
  intro t w hc hw
  refine Obeys.modify (hf w).toSilent.step ⟨?_, (hf w).settled hw⟩
  simpa [Runtime.cancelled, (hf w).sameCancelled] using hc

/-- A resolution interrupted by a cancelled token passes the lock on and leaves the token
cancelled. -/
theorem Session.changeCell_cleanup (f : ActorCell → ActorCell) :
    ∀ t w, Runtime.cancelled w t = true → lifetimeContract.settled w →
      lifetimeContract.Obeys gs (fun _ w' => Runtime.cancelled w' t = true ∧
        lifetimeContract.settled w') (Session.changeCell 0 f) w :=
  Calm.cleanup fun w => Session.changeCell_calm w f

theorem Session.resolveHeld_obeys (hs : m.holds s) :
    lifetimeContract.Obeys gs (fun _ => m.holds) (Session.resolveHeld 0) s := by
  unfold Session.resolveHeld
  refine Obeys.onAbort ?_ (Session.changeCell_cleanup _)
  exact (Identity.resolve_obeys m hs).bind fun a s₁ hs₁ =>
    Session.changeCell_bind m hs₁ fun h => .pure h

/-- The session's actor keeps every mode: waiting for another resolution and taking the lock
only change the actor cell. -/
theorem Session.actor_obeys (hs : m.holds s) :
    lifetimeContract.Obeys gs (fun _ => m.holds) (Session.actor 0) s := by
  unfold Session.actor
  refine Obeys.self_bind fun me => Obeys.read_bind ?_
  split
  · exact .pure hs
  · -- joining the lock's line changes only the actor cell
    refine m.update_bind hs (by
      dsimp only
      exact Calm.modifySession s fun _ => ⟨rfl, rfl, rfl, rfl⟩) fun hs₁ => ?_
    dsimp only
    split
    · exact Session.resolveHeld_obeys m hs₁
    · refine (Obeys.onAbort (m.await_calm hs₁ ?_) (Session.changeCell_cleanup _)).bind
        fun got s₂ hs₂ => ?_
      · intro w v w' hv
        dsimp only at hv
        split at hv
        · obtain ⟨-, rfl⟩ := Prod.mk.inj (Option.some.inj hv)
          exact Calm.modifySession w fun _ => ⟨rfl, rfl, rfl, rfl⟩
        · split at hv
          · obtain ⟨-, rfl⟩ := Prod.mk.inj (Option.some.inj hv)
            exact Calm.aside rfl rfl rfl rfl rfl rfl rfl rfl (ChecksOnly.refl _ _)
          · cases hv
      · split
        · exact .pure hs₂
        · exact Session.resolveHeld_obeys m hs₂

end Actor

end MarketChat
