import MarketChat.Proofs.LinkApart
/-!
# Concurrent sends create the conversation once

The first sends of a buyer's lifetime with no conversation run as tasks of their own, and each
creates the conversation under the lock of session 0 (`Session.createConversation`). Here every
part of a send is shown to keep `Buying.contract` as the task that runs it:

* the lock (`FairLock.KeepsOthers`): arriving takes the lock only when nobody holds or waits
  for it, and leaving passes it on only from its holder; so a task that takes it, at once or
  after waiting, finds no creation on its way (`Buying.lockCreating_obeys`);
* the creation (`Buying.Sending`): its holder sends it only when none is on its way, and it
  stays the holder's while the answer is awaited; a failed answer is reported once, a good one
  attaches the chat, after which the rest of the send is apart from creating it;
* the cleanups of the lock run only where a wait is interrupted by the lifetime's token, which
  no settled state of the lifetime has cancelled.

Main statements: `Buying.createConversation_obeys`, `Buying.send_obeys`.
-/

namespace MarketChat

open RelyGuarantee World

/-! ## The conversation lock -/

namespace FairLock

/-- A change of the lock by task `j` leaves every other task's place in it: a hold stays, the
lock passes to another only when `ok`, and no number but `j` enters it. -/
structure KeepsOthers (j : Nat) (ok : Prop) (l l' : FairLock) : Prop where
  held : ∀ k, k ≠ j → l.holder = some k → l'.holder = some k
  handed : ∀ k, k ≠ j → l'.holder = some k → l.holder = some k ∨ ok
  fresh : ∀ k, k ≠ j → k ∉ l.ids → k ∉ l'.ids

theorem KeepsOthers.weaken {j : Nat} {ok ok' : Prop} {l l' : FairLock} (h : KeepsOthers j ok l l')
    (hok : ok → ok') : KeepsOthers j ok' l l' :=
  ⟨h.held, fun k hk hh => (h.handed k hk hh).imp_right hok, h.fresh⟩

/-- Arriving takes a lock that nobody holds or waits for, or joins the line. -/
theorem arrive_keepsOthers (l : FairLock) (j : Nat) : KeepsOthers j False l (l.arrive j).2 := by
  unfold arrive
  split
  · next hfree =>
    simp only [Bool.and_eq_true, Option.isNone_iff_eq_none, List.isEmpty_iff] at hfree
    refine ⟨fun k _ hk => ?_, fun k hk h => ?_, fun k hk _ => ?_⟩
    · rw [hfree.1] at hk
      cases hk
    · cases h
      exact absurd rfl hk
    · simpa [ids, hfree.2] using hk
  · refine ⟨fun _ _ h => h, fun _ _ h => .inl h, fun k hk h => ?_⟩
    simp only [ids, List.mem_append, List.mem_singleton, not_or] at h ⊢
    exact ⟨h.1, h.2, hk⟩

theorem arrive_taken {l : FairLock} {j : Nat} (h : (l.arrive j).1 = true) :
    l.holder = none ∧ (l.arrive j).2.holder = some j := by
  unfold arrive at h ⊢
  split
  · next hfree =>
    simp only [Bool.and_eq_true, Option.isNone_iff_eq_none] at hfree
    exact ⟨hfree.1, rfl⟩
  · next hfree => simp [hfree] at h

theorem arrive_waits {l : FairLock} {j : Nat} (h : (l.arrive j).1 = false) :
    (l.arrive j).2.holder = l.holder := by
  unfold arrive at h ⊢
  split
  · next hfree => simp [hfree] at h
  · rfl

/-- Leaving lets go of the lock or of the place in line: the lock passes on only from `j`. -/
theorem leave_keepsOthers (l : FairLock) (j : Nat) :
    KeepsOthers j (l.holder = some j) l (l.leave j) := by
  unfold leave
  split
  · next hj =>
    refine ⟨fun k hk h => ?_, fun _ _ _ => .inr hj, fun k _ h => ?_⟩
    · rw [hj] at h
      cases h
      exact absurd rfl hk
    · -- the lock passes to the first waiter: the numbers in it are the waiters'
      unfold release
      split
      · next w rest hw =>
        simp only [ids, List.mem_append, not_or, hw] at h ⊢
        simpa using h.2
      · simp [ids]
  · refine ⟨fun _ _ h => h, fun _ _ h => .inl h, fun k _ h => ?_⟩
    simp only [ids, List.mem_append, List.mem_filter, not_or, not_and] at h ⊢
    exact ⟨h.1, fun hw => absurd hw h.2⟩

end FairLock

/-- An exchange answers only from a reachable backend. -/
theorem Backend.exchange_ok_reachable {bk : Backend} {req : HttpRequest} {resp : HttpResponse}
    (h : (bk.exchange req).2.2 = .ok resp) : bk.reachable = true := by
  unfold Backend.exchange at h
  split at h
  · cases h
  · next hr => simpa using hr

/-- A creation request is a creation. -/
theorem IsCreateOf.creates {c : ChatConfig} {n : NewConversation} {req : HttpRequest}
    (h : IsCreateOf c n req) : req.creates = true := by
  obtain ⟨url, -, rfl⟩ := h
  rfl

/-- Changing session 0 by two functions that agree on it. -/
theorem World.modifySession_zero_eq {w : World} {f g : SessionState → SessionState}
    (h : w.sessions ≠ []) (hfg : f (w.session 0) = g (w.session 0)) :
    w.modifySession 0 f = w.modifySession 0 g := by
  obtain ⟨s, rest, hsess⟩ := List.exists_cons_of_ne_nil h
  simp only [World.session, hsess, List.getD_cons_zero] at hfg
  simp [World.modifySession, hsess, hfg]

/-! ## Where a creation may unwind -/

section Unwinding

variable {T : List Nat}

theorem Api.execute_unwinds (req : HttpRequest) : (Api.execute req).UnwindsWithin T := by
  unfold Api.execute
  exact Proc.UnwindsWithin.update.bind fun _ =>
    .ite ((Proc.UnwindsWithin.sleep _).bind fun _ => .pure _) (.pure _)

theorem Api.fetch_unwinds (req : HttpRequest) (ttl : Nat) : (Api.fetch req ttl).UnwindsWithin T := by
  unfold Api.fetch
  split
  · exact Api.execute_unwinds req
  · refine Proc.UnwindsWithin.update.bind fun _ => ?_
    split
    · exact .pure _
    · refine (Api.execute_unwinds req).bind fun _ => ?_
      split
      · split
        · split
          · exact Proc.UnwindsWithin.modify.bind fun _ => .pure _
          · exact .pure _
        · exact .pure _
      · exact .pure _

theorem Api.call_unwinds {α : Type} {path : String} {params : List (String × String)}
    {request : String → HttpRequest} {ttl : Nat}
    {answer : String → HttpResponse → Except HttpError α} :
    (Api.call path params request ttl answer).UnwindsWithin T := by
  unfold Api.call
  refine Proc.UnwindsWithin.read.bind fun _ => ?_
  split
  · exact .pure _
  · refine (Api.fetch_unwinds _ _).bind fun _ => ?_
    split
    · exact .pure _
    · exact .pure _

theorem Session.loadHistory_unwinds (chatId : Int) (tok : Nat) (a : Actor) :
    (Session.loadHistory 0 chatId tok a).UnwindsWithin T := by
  unfold Session.loadHistory
  refine (Proc.UnwindsWithin.guarded Api.call_unwinds).bind fun r => ?_
  cases r with
  | none => exact .pure _
  | some _ =>
    exact Proc.UnwindsWithin.modify.bind fun _ =>
      (Proc.UnwindsWithin.guarded Api.call_unwinds).bind fun _ => .pure _

/-- Creating under the lock unwinds by no token: each of its waits is guarded by the lifetime's
token, whose interruption the guard catches. -/
theorem Session.createHeld_unwinds (tok : Nat) (a : Actor) :
    (Session.createHeld 0 tok a).UnwindsWithin T := by
  unfold Session.createHeld
  refine Proc.UnwindsWithin.read.bind fun _ => ?_
  split
  · refine .ite (.pure _) ?_
    split
    · refine (Proc.UnwindsWithin.guarded Api.call_unwinds).bind fun r => ?_
      cases r with
      | none => exact .pure _
      | some _ =>
        dsimp only
        split
        · refine Proc.UnwindsWithin.modify.bind fun _ => ?_
          refine (Session.loadHistory_unwinds _ _ _).bind fun _ => ?_
          refine (Proc.UnwindsWithin.fork.bind fun _ => .pure _).bind fun _ => ?_
          refine Proc.UnwindsWithin.read.bind fun _ => ?_
          refine (Proc.UnwindsWithin.guarded (Proc.UnwindsWithin.waitUntil _)).bind fun r => ?_
          cases r with
          | none => exact .pure _
          | some _ => exact .pure _
        · exact Proc.UnwindsWithin.modify.bind fun _ => .pure _
    · exact .pure _
  · exact .pure _

end Unwinding

/-! ## Steps on the lock -/

namespace Buying

variable {b : Buying} {w : World} {j : Nat}

theorem session_setLock (hs : b.Settled w) (l : FairLock) :
    (w.modifySession 0 fun s => { s with creating := l }).session 0 =
      { w.session 0 with creating := l } :=
  World.session_modifySession_zero hs.hasSession _

/-- With the lock free, no creation is on its way: one on its way is the holder's. -/
theorem Settled.resolved_of_free (hs : b.Settled w) (h : (w.session 0).creating.holder = none) :
    b.Resolved w := by
  by_cases hc : (w.session 0).chatId = none
  · left
    by_cases hreach : w.CreatesReach
    · obtain ⟨hle, hle'⟩ := hs.counted hreach
      have hne : b.marks.creates w ≠ b.marks.failures w + 1 := fun heq => hs.held heq hc h
      omega
    · rw [hs.unsent hreach]
      exact Nat.zero_le _
  · exact .inr hc

/-- Task `j` changing the lock so that every other task keeps its place, and the lock passes on
only when no creation is on its way, keeps its guarantee. -/
theorem lock_guar (hs : b.Settled w) {l : FairLock}
    (hl : (w.session 0).creating.KeepsOthers j (b.Resolved w) l) :
    b.contract.guar j w (w.modifySession 0 fun s => { s with creating := l }) := by
  set w' := w.modifySession 0 fun s => { s with creating := l } with hw'
  have hsess : w'.session 0 = { w.session 0 with creating := l } := session_setLock hs l
  have hchat : (w'.session 0).chatId = (w.session 0).chatId := by
    rw [hsess]
    rfl
  have hstep : b.Step w w' :=
    ⟨List.prefix_refl _, List.prefix_refl _, List.prefix_refl _, rfl, rfl, fun _ h => h,
      fun _ => ⟨hchat, rfl, rfl⟩⟩
  refine ⟨hstep, fun k hk => ⟨fun hh => ?_, fun hh => ?_, fun hf => ?_⟩⟩
  · rw [hsess]
    exact ⟨hl.held k hk hh, rfl, rfl, rfl⟩
  · rw [hsess] at hh
    rcases hl.handed k hk hh with h | h
    · exact .inl h
    · unfold Resolved at h ⊢
      rw [hchat]
      exact .inr h
  · unfold World.lockIds at hf ⊢
    rw [hsess]
    exact hl.fresh k hk hf

/-- Changing the lock keeps the settled states where a creation on its way keeps a holder. -/
theorem lock_settled (hs : b.Settled w) {l : FairLock}
    (hheld : b.marks.creates w = b.marks.failures w + 1 → (w.session 0).chatId = none →
      l.holder ≠ none) :
    b.Settled (w.modifySession 0 fun s => { s with creating := l }) := by
  have hsess := session_setLock hs l
  exact {
    hasSession := World.sessions_ne_nil (by simp [World.modifySession]) hs.hasSession
    lifetime := by rw [hsess]; exact hs.lifetime
    live := hs.live
    target := by rw [hsess]; exact hs.target
    actor := by rw [hsess]; exact hs.actor
    requests := hs.requests
    counted := hs.counted
    unsent := hs.unsent
    attached := by rw [hsess]; exact hs.attached
    held := by rw [hsess]; exact hheld
    unlinked := by rw [hsess]; exact hs.unlinked
    logMarked := hs.logMarked
    eventsMarked := hs.eventsMarked }

/-- The lifetime's token is not cancelled where the contract is settled. -/
theorem Settled.tok_live (hs : b.Settled w) : Runtime.cancelled w b.tok = false := hs.live

theorem resolved_setLock (hs : b.Settled w) (l : FairLock) :
    b.Resolved (w.modifySession 0 fun s => { s with creating := l }) ↔ b.Resolved w := by
  unfold Resolved
  rw [session_setLock hs]
  rfl

/-- A task not in the lock holds no place in it. -/
theorem holder_ne_of_not_mem {l : FairLock} (hj : j ∉ l.ids) : l.holder ≠ some j := by
  intro h
  simp [FairLock.ids, h] at hj

/-- Taking the lock: at once when nobody holds or waits for it, else after waiting in line, and
either way with no creation on its way. -/
theorem lockCreating_obeys (hs : b.Settled w) (hj : j ∉ w.lockIds) :
    b.contract.Obeys j [b.tok]
      (fun _ w' => b.Settled w' ∧ (w'.session 0).creating.holder = some j ∧ b.Resolved w')
      (Session.lockCreating 0 j) w := by
  unfold Session.lockCreating
  have harrive := FairLock.arrive_keepsOthers (w.session 0).creating j
  have htaken := @FairLock.arrive_taken (w.session 0).creating j
  have hwaits := @FairLock.arrive_waits (w.session 0).creating j
  have hfree := @Settled.resolved_of_free b w hs
  refine Obeys.update_bind ?_ ?_
  · dsimp only
    exact lock_guar hs (harrive.weaken False.elim)
  generalize (w.session 0).creating.arrive j = arrived at harrive htaken hwaits ⊢
  obtain ⟨taken, l⟩ := arrived
  dsimp only at harrive htaken hwaits ⊢
  have hsess := session_setLock hs l
  have hout : (w.session 0).creating.holder ≠ some j := holder_ne_of_not_mem hj
  have hs₁ : b.Settled (w.modifySession 0 fun s => { s with creating := l }) := by
    refine lock_settled hs fun hn hc => ?_
    cases taken with
    | true => simp [(htaken rfl).2]
    | false => rw [hwaits rfl]; exact hs.held hn hc
  cases taken with
  | true =>
    -- the lock was free: it is taken at once, with no creation on its way
    refine .pure ⟨hs₁, ?_, (resolved_setLock hs l).2 (hfree (htaken rfl).1)⟩
    rw [hsess]
    exact (htaken rfl).2
  | false =>
    -- waiting in line; the wait is interrupted only by the lifetime's token
    have hout₁ : ((w.modifySession 0 fun s => { s with creating := l }).session 0).creating.holder ≠
        some j := by
      rw [hsess]
      dsimp only
      rw [hwaits rfl]
      exact hout
    refine Obeys.onAbort_within (T := [b.tok]) ?_ (Proc.UnwindsWithin.await fun _ h => nomatch h)
      (fun _ ht => ht) fun t ht s' hc hs' => absurd hc ?_
    · refine .block (fun v s' hv => ?_) (fun v s' hv => ?_) (fun _ => hs₁)
        (fun s₂ hs₂ _ t ht hct => ?_) (fun s₂ _ _ _ v s' hv => ?_) (fun s₂ hs₂ hr _ v s' hv => ?_)
      · simp [FairLock.heldBy, hout₁] at hv
      · simp [FairLock.heldBy, hout₁] at hv
      · simp only [List.mem_append, List.mem_singleton, List.not_mem_nil, or_false] at ht
        subst ht
        simp [hs₂.tok_live] at hct
      · simp only [Option.ite_none_right_eq_some, Option.some.injEq, Prod.mk.injEq] at hv
        rw [← hv.2.2]
        exact b.contract.guar_refl j s₂
      · simp only [Option.ite_none_right_eq_some, Option.some.injEq, Prod.mk.injEq,
          FairLock.heldBy, decide_eq_true_eq] at hv
        obtain ⟨hheld, -, rfl⟩ := hv
        refine .pure ⟨hs₂, hheld, ?_⟩
        exact (hr.2.handed hheld).resolve_left hout₁
    · simp only [List.mem_singleton] at ht
      subst ht
      simp [hs'.tok_live]

/-! ## The creation on its way -/

/-- How the others leave the backend's reach: as it was. -/
theorem Step.createsReach {w' : World} (h : b.Step w w') : w'.CreatesReach ↔ w.CreatesReach := by
  unfold World.CreatesReach
  rw [h.reachable, h.config]

/-- Task `j` holds the lock over a creation, with no chat attached: once creations reach the
backend, the task's is the one on its way. -/
structure Sending (b : Buying) (j : Nat) (w : World) : Prop where
  settled : b.Settled w
  holder : (w.session 0).creating.holder = some j
  chat : (w.session 0).chatId = none
  counted : w.CreatesReach → b.marks.creates w = b.marks.failures w + 1

/-- While its holder waits for the answer, the creation stays its own. -/
theorem Sending.of_rely {w₁ : World} (h : b.Sending j w) (hs₁ : b.Settled w₁)
    (hr : b.contract.rely j w w₁) : b.Sending j w₁ := by
  obtain ⟨hh, hC, hF, hc⟩ := hr.2.held h.holder
  refine ⟨hs₁, hh, hc ▸ h.chat, fun hreach => ?_⟩
  rw [hC, hF]
  exact h.counted ((Step.createsReach hr.1).1 hreach)


/-- Sending the lifetime's creation while holding the lock with none on its way: it is the one
on its way after, unless the backend is out of reach and nothing is sent. -/
theorem exchanged_create (hs : b.Settled w) (hh : (w.session 0).creating.holder = some j)
    (hc : (w.session 0).chatId = none) (hres : b.marks.creates w ≤ b.marks.failures w)
    {req : HttpRequest} (hreq : IsCreateOf w.config b.request req) :
    b.contract.guar j w (w.exchanged req) ∧ b.Sending j (w.exchanged req) := by
  cases hr : w.backend.reachable with
  | false =>
    -- out of reach: the backend answers at once and logs nothing
    have hsame : w.exchanged req = w := by simp [World.exchanged, Backend.exchange, hr]
    rw [hsame]
    exact ⟨b.contract.guar_refl j w, hs, hh, hc, fun hreach => by simp [World.CreatesReach, hr] at hreach⟩
  | true =>
    have hlog : (w.exchanged req).backend.log = w.backend.log ++ [req] :=
      Backend.exchange_log_of_reachable hr req
    have hreach : w.CreatesReach := ⟨hr, by obtain ⟨url, hurl, -⟩ := hreq; exact ⟨url, hurl⟩⟩
    have hC : b.marks.creates (w.exchanged req) = b.marks.failures w + 1 := by
      rw [Marks.creates_append hs.logMarked hlog]
      simp only [List.filter_cons, IsCreateOf.creates hreq, List.filter_nil, if_true,
        List.length_singleton]
      have := (hs.counted hreach).1
      omega
    have hreach' : (w.exchanged req).CreatesReach := by
      unfold World.CreatesReach
      rw [World.exchanged, Backend.exchange_reachable]
      exact hreach
    have hs' : b.Settled (w.exchanged req) := {
      hasSession := hs.hasSession
      lifetime := hs.lifetime
      live := hs.live
      target := hs.target
      actor := hs.actor
      requests := fun r hr' hcr => by
        rw [hlog, List.drop_append_of_le_length hs.logMarked] at hr'
        rcases List.mem_append.1 hr' with hr' | hr'
        · exact hs.requests r hr' hcr
        · rw [List.mem_singleton.1 hr']
          exact hreq
      counted := fun _ => by
        rw [hC]
        exact ⟨Nat.le_succ _, Nat.le_refl _⟩
      unsent := fun h => absurd hreach' h
      attached := fun h => absurd hc h
      held := fun _ _ => by rw [show (w.exchanged req).session 0 = w.session 0 from rfl, hh]; simp
      unlinked := hs.unlinked
      logMarked := by rw [hlog, List.length_append]; exact Nat.le_add_right_of_le hs.logMarked
      eventsMarked := hs.eventsMarked }
    refine ⟨⟨⟨?_, List.prefix_refl _, List.prefix_refl _, rfl, Backend.exchange_reachable _ _,
      fun _ h => h, fun h => absurd hc h⟩, fun k hk => ⟨fun hk' => ?_, fun hk' => .inl hk', id⟩⟩,
      hs', hh, hc, fun _ => hC⟩
    · rw [hlog]
      exact List.prefix_append _ _
    · rw [hh] at hk'
      cases hk'
      exact absurd rfl hk

/-- Sending the lifetime's creation and awaiting the answer: the creation stays the holder's,
and an answer comes only from a backend it reaches. -/
theorem execute_create_obeys {gs : List Nat} (hs : b.Settled w)
    (hh : (w.session 0).creating.holder = some j) (hc : (w.session 0).chatId = none)
    (hres : b.marks.creates w ≤ b.marks.failures w) {req : HttpRequest}
    (hreq : IsCreateOf w.config b.request req) :
    b.contract.Obeys j gs (fun r w' => b.Sending j w' ∧ ∀ resp, r = .ok resp → w'.CreatesReach)
      (Api.execute req) w := by
  unfold Api.execute
  obtain ⟨hguar, hsend⟩ := exchanged_create hs hh hc hres hreq
  have hok : ∀ resp, (w.backend.exchange req).2.2 = .ok resp → (w.exchanged req).CreatesReach :=
    fun resp hr => by
      obtain ⟨url, hurl, -⟩ := hreq
      refine ⟨?_, url, hurl⟩
      rw [World.exchanged, Backend.exchange_reachable]
      exact Backend.exchange_ok_reachable hr
  rcases hex : w.backend.exchange req with ⟨bk, delay, answer⟩
  have hb : w.exchanged req = { w with backend := bk } := by simp [World.exchanged, hex]
  rw [hex] at hok
  rw [hb] at hguar hsend hok
  refine Obeys.update_bind (by simpa [hex] using hguar) ?_
  simp only [hex]
  split
  · -- the answer comes after the backend's delay, while the others run
    refine Obeys.sleep_bind hsend.settled (.pure ⟨hsend, hok⟩) fun s₁ hres₁ => .pure ⟨?_, ?_⟩
    · exact hsend.of_rely hres₁.1 hres₁.2.1
    · exact fun resp h => (Step.createsReach hres₁.2.1.1).2 (hok resp h)
  · exact .pure ⟨hsend, hok⟩

/-- Calling the creation of the lifetime's conversation while holding the lock with none on its
way: nothing is sent when its address does not build. -/
theorem createRequest_obeys {gs : List Nat} (hs : b.Settled w)
    (hh : (w.session 0).creating.holder = some j) (hc : (w.session 0).chatId = none)
    (hres : b.marks.creates w ≤ b.marks.failures w) :
    b.contract.Obeys j gs (fun r w' => b.Sending j w' ∧ ∀ c, r = .ok c → w'.CreatesReach)
      (Api.createConversation b.request) w := by
  unfold Api.createConversation Api.call
  refine Obeys.read_bind ?_
  split
  · next e herr =>
    -- the address does not build, so creations reach nothing
    refine .pure ⟨⟨hs, hh, hc, fun hreach => ?_⟩, fun _ h => nomatch h⟩
    obtain ⟨-, url, hurl⟩ := hreach
    rw [hurl] at herr
    cases herr
  · next url hurl =>
    unfold Api.fetch
    rw [if_pos (Or.inr rfl)]
    refine (execute_create_obeys hs hh hc hres ⟨url, hurl, rfl⟩).bind fun r w' h => ?_
    split
    · exact .pure ⟨h.1, fun _ h' => nomatch h'⟩
    · exact .pure ⟨h.1, fun _ _ => h.2 _ rfl⟩

/-- The failed creation is reported by session 0. -/
theorem failedCreateOf_failure : failedCreateOf (0, .error createFailureText) = true := by
  simp [failedCreateOf, SessionEvent.failedCreate]

/-- Reporting the failed creation answers the one on its way, if any. -/
theorem Sending.fail (h : b.Sending j w) :
    b.contract.guar j w (w.emit 0 (.error createFailureText)) ∧
      b.Settled (w.emit 0 (.error createFailureText)) ∧
      b.Resolved (w.emit 0 (.error createFailureText)) := by
  have hs := h.settled
  have hF : b.marks.failures (w.emit 0 (.error createFailureText)) = b.marks.failures w + 1 := by
    rw [Marks.failures_append hs.eventsMarked rfl]
    simp [failedCreateOf_failure]
  -- creations that reach the backend had one on its way; others were never sent
  have hC : b.marks.creates w ≤ b.marks.failures w + 1 ∧
      (w.CreatesReach → b.marks.creates w = b.marks.failures w + 1) ∧
      (¬ w.CreatesReach → b.marks.creates w = 0) :=
    ⟨by by_cases hr : w.CreatesReach
        · exact (h.counted hr).le
        · rw [hs.unsent hr]; exact Nat.zero_le _, h.counted, hs.unsent⟩
  have hs' : b.Settled (w.emit 0 (.error createFailureText)) := {
    hasSession := hs.hasSession
    lifetime := hs.lifetime
    live := hs.live
    target := hs.target
    actor := hs.actor
    requests := hs.requests
    counted := fun hr => by
      change b.marks.failures (w.emit 0 _) ≤ b.marks.creates w ∧
        b.marks.creates w ≤ b.marks.failures (w.emit 0 _) + 1
      rw [hF, hC.2.1 hr]
      omega
    unsent := hs.unsent
    attached := fun hc => absurd h.chat hc
    held := fun hn _ => by
      change b.marks.creates w = b.marks.failures (w.emit 0 _) + 1 at hn
      rw [hF] at hn
      omega
    unlinked := hs.unlinked
    logMarked := hs.logMarked
    eventsMarked := by
      simp only [World.emit, List.length_append]
      exact Nat.le_add_right_of_le hs.eventsMarked }
  refine ⟨⟨⟨List.prefix_refl _, List.prefix_append _ _, List.prefix_refl _, rfl, rfl, fun _ h => h,
    fun hc => absurd h.chat hc⟩, fun k hk => ⟨fun hk' => ?_, fun hk' => .inl hk', id⟩⟩, hs', .inl ?_⟩
  · rw [h.holder] at hk'
    cases hk'
    exact absurd rfl hk
  · change b.marks.creates w ≤ b.marks.failures (w.emit 0 _)
    rw [hF]
    exact hC.1

/-- Attaching the chat a creation answered with: the one creation on its way got through. -/
theorem Sending.attach (h : b.Sending j w) (hreach : w.CreatesReach) (id : Int) :
    let w' := w.modifySession 0 fun s =>
      { s with target := s.target.map fun t => { t with chatId := some id } }
    b.contract.guar j w w' ∧ b.Settled w' ∧ (w'.session 0).chatId ≠ none := by
  intro w'
  have hs := h.settled
  obtain ⟨t, ht, hl, hsel⟩ := hs.target
  have hsess : w'.session 0 =
      { w.session 0 with target := some { t with chatId := some id } } := by
    rw [World.session_modifySession_zero hs.hasSession, ht]
    rfl
  have hchat : (w'.session 0).chatId = some id := by
    rw [hsess]
    rfl
  have hs' : b.Settled w' := {
    hasSession := World.sessions_ne_nil (by simp [w', World.modifySession]) hs.hasSession
    lifetime := by rw [hsess]; exact hs.lifetime
    live := hs.live
    target := ⟨{ t with chatId := some id }, by rw [hsess], hl, hsel⟩
    actor := by rw [hsess]; exact hs.actor
    requests := hs.requests
    counted := hs.counted
    unsent := hs.unsent
    attached := fun _ => ⟨hreach, h.counted hreach⟩
    held := fun _ hc => by rw [hchat] at hc; cases hc
    unlinked := fun hc => by rw [hchat] at hc; cases hc
    logMarked := hs.logMarked
    eventsMarked := hs.eventsMarked }
  refine ⟨⟨⟨List.prefix_refl _, List.prefix_refl _, List.prefix_refl _, rfl, rfl, fun _ h => h,
    fun hc => absurd h.chat hc⟩, fun k hk => ⟨fun hk' => ?_, fun hk' => ?_, fun hf => ?_⟩⟩, hs',
    by rw [hchat]; simp⟩
  · rw [h.holder] at hk'
    cases hk'
    exact absurd rfl hk
  · rw [hsess] at hk'
    exact .inl hk'
  · unfold World.lockIds at hf ⊢
    rw [hsess]
    exact hf

/-- A guarded part of the lifetime is never cut short where the contract is settled. -/
theorem caught_none {w₁ : World} {β : Type} {Q : β → World → Prop}
    (h : b.contract.Caught b.tok Q none w₁) : False := by
  obtain ⟨hc, hs₁⟩ := h
  rw [Settled.tok_live hs₁] at hc
  cases hc

/-- Creating the conversation while holding the lock with no creation on its way: the holder
finds the chat attached, or sends the lifetime's creation and attaches its answer or reports
its failure; either way none is on its way when it is done. -/
theorem createHeld_obeys (hs : b.Settled w) (hh : (w.session 0).creating.holder = some j)
    (hres : b.Resolved w) :
    b.contract.Obeys j [] (fun _ w' => b.Settled w' ∧ b.Resolved w')
      (Session.createHeld 0 b.tok b.actor) w := by
  unfold Session.createHeld
  refine Obeys.read_bind ?_
  obtain ⟨t, ht, hl, hsel⟩ := hs.target
  simp only [ht]
  split
  · exact .pure ⟨hs, hres⟩
  · next hnone =>
    have hc : (w.session 0).chatId = none := by
      simpa [SessionState.chatId, ht] using hnone
    have hle : b.marks.creates w ≤ b.marks.failures w := hres.resolve_right (not_not.2 hc)
    rw [hl, hsel]
    refine (Obeys.guarded (fun _ => hs) fun _ => createRequest_obeys hs hh hc hle).bind
      fun r w₁ h₁ => ?_
    cases r with
    | none => exact (caught_none h₁).elim
    | some created =>
      obtain ⟨hsend, hreach⟩ := h₁
      dsimp only
      split
      · next id hid =>
        -- an answer with an id: the creation got through, and the chat is attached
        have hreach₁ : w₁.CreatesReach := by
          cases created with
          | ok c => exact hreach c rfl
          | error e => cases hid
        obtain ⟨hguar, hs₂, hc₂⟩ := hsend.attach hreach₁ id
        refine Obeys.modify_bind hguar ?_
        -- what follows is apart from the creation
        refine (KeepsApart.buying ?_ hs₂ hc₂).weaken fun _ _ h => ⟨h.1, .inr h.2⟩
        refine (Session.loadHistory_keepsApart _ _ _).bind fun _ => ?_
        refine (Session.startLink_keepsApart _ _ _).bind fun _ => ?_
        refine (KeepsApart.read _).bind fun _ => ?_
        refine (KeepsApart.guarded _ (KeepsApart.waitUntil _ fun w v w' hv => ?_)).bind
          fun r => ?_
        · split at hv
          · cases hv
            exact Apart.refl w
          · cases hv
        · cases r <;> exact .pure _
      · -- no id: the failure is reported, and the creation is no longer on its way
        obtain ⟨hguar, hs₂, hres₂⟩ := hsend.fail
        exact Obeys.modify_bind hguar (.pure ⟨hs₂, hres₂⟩)

/-- Letting go of the lock with no creation on its way. -/
theorem unlock_steps (hs : b.Settled w) (hres : b.Resolved w) :
    b.contract.guar j w (w.modifySession 0 fun s => { s with creating := s.creating.leave j }) ∧
      b.Settled (w.modifySession 0 fun s => { s with creating := s.creating.leave j }) := by
  rw [World.modifySession_zero_eq (g := fun s => { s with creating := (w.session 0).creating.leave j })
    hs.hasSession rfl]
  refine ⟨lock_guar hs ((FairLock.leave_keepsOthers _ j).weaken fun _ => hres),
    lock_settled hs fun hn hc _ => ?_⟩
  rcases hres with hle | hne
  · omega
  · exact hne hc

/-- **Creating the conversation of a first send.** Task `j`, in no place of the lock, takes
it, creates the conversation if it is still missing, and lets go of it: the lock is let go of
only where no creation is on its way. -/
theorem createConversation_obeys (hs : b.Settled w) (hj : j ∉ w.lockIds) :
    b.contract.Obeys j [] (fun _ w' => b.Settled w') (Session.createConversation 0 b.tok b.actor)
      w := by
  unfold Session.createConversation
  refine Obeys.self_bind ?_
  refine (Obeys.guarded (fun _ => hs) fun _ => lockCreating_obeys hs hj).bind fun r w₁ h₁ => ?_
  cases r with
  | none => exact (caught_none h₁).elim
  | some _ =>
    obtain ⟨hs₁, hh₁, hres₁⟩ := h₁
    -- the lock's cleanup would run only where the lifetime's token interrupts, which it never does
    refine (Obeys.onAbort_within (createHeld_obeys hs₁ hh₁ hres₁)
      (Session.createHeld_unwinds (T := []) _ _) (fun _ h => nomatch h)
      fun _ h => nomatch h).bind fun r w₂ h₂ => ?_
    obtain ⟨hguar, hs₃⟩ := unlock_steps h₂.1 h₂.2
    exact Obeys.modify_bind hguar (.pure hs₃)

/-! ## Sends -/

/-- A step apart from the creation that tries no connection keeps the contract wherever it is
taken. -/
theorem Apart.quiet {w' : World} (hs : b.Settled w) (h : w.Apart w')
    (ha : w'.sockets.attempts = w.sockets.attempts) :
    b.contract.guar j w w' ∧ b.Settled w' :=
  ⟨Apart.guar h j, Apart.settled_of hs h (.inr (by rw [ha]))⟩

/-- The session reads the lifetime's token as its own. -/
theorem Settled.token (hs : b.Settled w) :
    ((w.session 0).lifetime.filter fun t => !w.isCancelled t) = some b.tok := by
  rw [hs.lifetime]
  simp [hs.live]

/-- The actor is resolved already: asking for it only reads it. -/
theorem actor_obeys {gs : List Nat} (hs : b.Settled w) :
    b.contract.Obeys j gs (fun a w' => a = b.actor ∧ w' = w) (Session.actor 0) w := by
  unfold Session.actor
  refine Obeys.self_bind (Obeys.read_bind ?_)
  rw [hs.actor]
  exact .pure ⟨rfl, rfl⟩

/-- A step apart from the creation that tries no connection, followed by the rest. -/
theorem update_quiet_bind {gs : List Nat} {α β : Type} {Q : α → World → Prop}
    {f : World → β × World} {k : β → Act α} (hs : b.Settled w)
    (hf : ∀ w₀ : World, w₀.Apart (f w₀).2 ∧ (f w₀).2.sockets.attempts = w₀.sockets.attempts)
    (hk : ∀ v w', b.Settled w' → b.contract.Obeys j gs Q (k v) w') :
    b.contract.Obeys j gs Q (Proc.update f >>= k) w :=
  Obeys.update_bind (Apart.quiet hs (hf w).1 (hf w).2).1
    (hk _ _ (Apart.quiet (j := j) hs (hf w).1 (hf w).2).2)

theorem modify_quiet_bind {gs : List Nat} {α : Type} {Q : α → World → Prop}
    {f : World → World} {k : Unit → Act α} (hs : b.Settled w)
    (hf : ∀ w₀ : World, w₀.Apart (f w₀) ∧ (f w₀).sockets.attempts = w₀.sockets.attempts)
    (hk : ∀ w', b.Settled w' → b.contract.Obeys j gs Q (k ()) w') :
    b.contract.Obeys j gs Q (Proc.modify f >>= k) w :=
  update_quiet_bind (f := fun w₀ => ((), f w₀)) hs hf fun _ => hk

/-- Sending a frame on the held socket tries no connection. -/
theorem sendFrame_quiet {gs : List Nat} {α : Type} {Q : α → World → Prop} {frame : String}
    {k : Bool → Act α} (hs : b.Settled w)
    (hk : ∀ sent w', b.Settled w' → b.contract.Obeys j gs Q (k sent) w') :
    b.contract.Obeys j gs Q (Session.sendFrame 0 frame >>= k) w := by
  refine update_quiet_bind hs (fun w₀ => ?_) hk
  dsimp only
  split
  · exact ⟨World.Apart.refl w₀, rfl⟩
  · split
    · next c _ =>
      -- sending adds to what was sent, and to nothing else
      have ha : (w₀.sockets.send c frame).2.attempts = w₀.sockets.attempts := by
        unfold SocketServer.send
        split
        · split <;> rfl
        · rfl
      exact ⟨World.Apart.aside rfl rfl rfl rfl rfl (by rw [ha]), ha⟩
    · exact ⟨World.Apart.refl w₀, rfl⟩

/-- A send that is not connected reports no failed creation. -/
theorem failedCreateOf_notConnected :
    failedCreateOf (0, .error ChatError.notConnected.message) = false :=
  rfl

/-- **A send keeps the contract.** Task `j`, in no place of the lock, sends a message of the
lifetime: it creates the conversation first when none is attached, under the lock. -/
theorem send_obeys (hs : b.Settled w) (hj : j ∉ w.lockIds) {text : String} :
    b.contract.Obeys j [] (fun _ w' => b.Settled w') (Session.send 0 text) w := by
  unfold Session.send
  lift_lets
  extract_lets text
  split
  · exact .pure hs
  · refine Obeys.read_bind ?_
    rw [hs.token]
    refine (Obeys.guarded (fun _ => hs) fun _ => actor_obeys hs).bind fun r w₁ h₁ => ?_
    cases r with
    | none => exact (caught_none h₁).elim
    | some a =>
      obtain ⟨rfl, rfl⟩ := h₁
      refine Obeys.read_bind ?_
      -- the message goes out on the held socket, or is reported as not connected
      have hfinish : ∀ w', b.Settled w' → b.contract.Obeys j [] (fun _ w' => b.Settled w')
          (Session.sendFrame 0 (OutboundFrame.message text b.actor.isRegistered).encode >>=
            fun sent => if sent = true then pure (Except.ok () : Except ChatError Unit)
              else Session.emit 0 (.error ChatError.notConnected.message) >>= fun _ =>
                pure (Except.error .notConnected)) w' := by
        intro w' hs'
        refine sendFrame_quiet hs' fun sent w₂ hs₂ => ?_
        split
        · exact .pure hs₂
        · exact modify_quiet_bind hs₂
            (fun w₀ => ⟨World.Apart.emit w₀ failedCreateOf_notConnected, rfl⟩) fun _ h => .pure h
      split
      · refine (createConversation_obeys hs hj).bind fun r w₂ h₂ => ?_
        split
        · exact .pure h₂
        · exact hfinish w₂ h₂
      · exact hfinish _ hs

end Buying

end MarketChat
