import MarketChat.Proofs.CreationRuns
import MarketChat.Proofs.Reconnection
/-!
# What one send does by its own moves

A send is looked at on its own (`Proc.Runs`), among other processes that leave its lifetime in
place and live. What its own moves add to the world's records is collected in a `SendLog`: the
creations the backend took, each with the chat id the backend's answer gives; the session
events; the frames queued, each with the session's state as the move found it; and the chat ids
it set. A `Monitor` (`sendWatch`) follows the send through its steps: the token and actor reads,
the creation under the conversation lock, and the frame queued on the held socket.

With `Buying.creations_one_at_a_time`, which looks at every schedule of a buyer's sends at once,
this gives what a buyer's concurrent sends do, together and each on its own
(`Buying.concurrent_sends_create_once`).

Main statements: `Session.send_own_moves`, `Buying.concurrent_sends_create_once`.
-/

namespace MarketChat

/-- The chat id an answer to a creation gives, read as the session reads it: none when the
request failed, the answer is not a conversation, or the conversation has no id. -/
def createdId (url : String) (ans : Except HttpError HttpResponse) : Option Int :=
  (ans.bind (Api.expect Conversation.read url)).toOption.bind (·.id)

/-- The lifetime `tok` is session 0's, and live. -/
def World.Lives (w : World) (tok : Nat) : Prop :=
  (w.session 0).lifetime = some tok ∧ w.isCancelled tok = false

/-- The scheduler's view of a cancelled token is the world's. -/
@[simp] theorem World.runtime_cancelled (w : World) (t : Nat) :
    Runtime.cancelled w t = w.isCancelled t :=
  rfl

/-- Others leave the lifetime `tok` of session 0 in place and live. -/
def World.KeepsLifetime (tok : Nat) (_ w' : World) : Prop := w'.Lives tok

namespace Move

/-- The creations the backend took in a move, each with the chat id of its answer. -/
def creations (mv : Move World) : List (HttpRequest × Option Int) :=
  ((mv.after.backend.log.drop mv.before.backend.log.length).filter HttpRequest.creates).map
    fun req => (req, createdId req.url (mv.before.backend.exchange req).2.2)

/-- The session events reported in a move. -/
def events (mv : Move World) : List (Nat × SessionEvent) :=
  mv.after.sessionEvents.drop mv.before.sessionEvents.length

/-- The frames queued in a move, each with the state of session 0 as the move found it. -/
def frames (mv : Move World) : List (Outgoing × SessionState) :=
  (mv.after.sockets.sent.drop mv.before.sockets.sent.length).map fun f => (f, mv.before.session 0)

/-- The chat id a move set, when it changed it. -/
def chats (mv : Move World) : List (Option Int) :=
  if (mv.after.session 0).chatId = (mv.before.session 0).chatId then []
  else [(mv.after.session 0).chatId]

end Move

/-- What a process added to the world's records by its own moves. -/
structure SendLog where
  creations : List (HttpRequest × Option Int)
  events : List (Nat × SessionEvent)
  frames : List (Outgoing × SessionState)
  chats : List (Option Int)

namespace SendLog

/-- Nothing added yet. -/
def empty : SendLog := ⟨[], [], [], []⟩

/-- What a move adds. -/
def add (l : SendLog) (mv : Move World) : SendLog :=
  ⟨l.creations ++ mv.creations, l.events ++ mv.events, l.frames ++ mv.frames, l.chats ++ mv.chats⟩

/-- What the moves of a trace add. -/
def of (tr : List (Move World)) : SendLog := tr.foldl add empty

/-- A move that leaves the logs, the frames and the chat alone adds nothing. -/
theorem add_quiet (l : SendLog) {mv : Move World}
    (hlog : mv.after.backend.log = mv.before.backend.log)
    (hev : mv.after.sessionEvents = mv.before.sessionEvents)
    (hsent : mv.after.sockets.sent = mv.before.sockets.sent)
    (hchat : (mv.after.session 0).chatId = (mv.before.session 0).chatId) : l.add mv = l := by
  simp [add, Move.creations, Move.events, Move.frames, Move.chats, hlog, hev, hsent, hchat]

@[simp] theorem add_self (l : SendLog) (b : Bool) (w : World) : l.add ⟨b, w, w⟩ = l :=
  l.add_quiet rfl rfl rfl rfl

/-- A change of session 0 that keeps its target adds nothing. -/
theorem add_modifySession (l : SendLog) (b : Bool) (w : World) {g : SessionState → SessionState}
    (hg : ∀ st, (g st).target = st.target) : l.add ⟨b, w, w.modifySession 0 g⟩ = l :=
  l.add_quiet rfl rfl rfl
    (World.session_modifySession_field w g (fun st => st.chatId) fun st => by
      simp only [SessionState.chatId, hg])

/-- A change of session 0 adds no creation, event or frame. -/
theorem add_modifySession_logs (l : SendLog) (b : Bool) (w : World)
    (g : SessionState → SessionState) :
    (l.add ⟨b, w, w.modifySession 0 g⟩).creations = l.creations ∧
      (l.add ⟨b, w, w.modifySession 0 g⟩).events = l.events ∧
      (l.add ⟨b, w, w.modifySession 0 g⟩).frames = l.frames := by
  simp [add, Move.creations, Move.events, Move.frames, World.modifySession]

/-- A frame queued adds it, with the state of session 0 as the move found it. -/
theorem add_queue (l : SendLog) (b : Bool) (w : World) (c : Nat) (frame : String) :
    l.add ⟨b, w, { w with sockets := { w.sockets with sent := w.sockets.sent ++ [.frame c frame] } }⟩ =
      { l with frames := l.frames ++ [(.frame c frame, w.session 0)] } := by
  simp [add, Move.creations, Move.events, Move.frames, Move.chats, World.session]

/-- A report adds its event. -/
theorem add_emit (l : SendLog) (b : Bool) (w : World) (e : SessionEvent) :
    l.add ⟨b, w, w.emit 0 e⟩ = { l with events := l.events ++ [(0, e)] } := by
  simp [add, Move.creations, Move.events, Move.frames, Move.chats, World.emit, World.session]

/-- A request adds, when the backend is reached and it creates, the creation with the chat id
of the backend's answer. -/
theorem add_exchange (l : SendLog) (b : Bool) (w : World) (req : HttpRequest) :
    l.add ⟨b, w, { w with backend := (w.backend.exchange req).1 }⟩ =
      { l with creations := l.creations ++
        if w.backend.reachable ∧ req.creates = true then
          [(req, createdId req.url (w.backend.exchange req).2.2)]
        else [] } := by
  by_cases hr : w.backend.reachable = true
  · -- the request is logged, and counts when it creates
    have hlog := Backend.exchange_log_of_reachable hr req
    by_cases hc : req.creates = true <;>
      simp [add, Move.creations, Move.events, Move.frames, Move.chats, World.session, hlog, hr, hc]
  · -- an unreached backend logs nothing
    have hb : (w.backend.exchange req).1 = w.backend := by simp [Backend.exchange, hr]
    simp [add, Move.creations, Move.events, Move.frames, Move.chats, World.session, hb, hr]

end SendLog

/-- The monitor of a send's own moves: it collects what they add, and sees that none of them
cancels the lifetime's token; it lets the send wait anywhere, and assumes the others leave the
lifetime `tok` in place and live. -/
def sendWatch (tok : Nat) : Monitor World SendLog where
  next l mv l' := l' = l.add mv ∧ (mv.before.isCancelled tok = false → mv.after.isCancelled tok = false)
  rests _ _ _ := True
  others := World.KeepsLifetime tok

/-- The moves of a trace the monitor follows add what the trace collects, and none cancels the
token. -/
theorem sendWatch_accepts {tok : Nat} {l l' : SendLog} {tr : List (Move World)}
    (h : (sendWatch tok).Accepts l tr l') :
    l' = tr.foldl SendLog.add l ∧
      ∀ mv ∈ tr, mv.before.isCancelled tok = false → mv.after.isCancelled tok = false := by
  induction h with
  | nil => exact ⟨rfl, fun _ h => by simp at h⟩
  | cons hmv _ ih =>
    refine ⟨by rw [ih.1, hmv.1]; rfl, fun mv h => ?_⟩
    rcases List.mem_cons.1 h with rfl | h
    · exact hmv.2
    · exact ih.2 mv h

/-- Where a part of a send ends: with the lifetime's token cancelled, or with the lifetime live
and `P` of its result and of what its moves added. -/
def Ends {α : Type} (tok : Nat) (P : α → SendLog → Prop) (a : α) (w : World) (l : SendLog) :
    Prop :=
  w.isCancelled tok = true ∨ (w.Lives tok ∧ P a l)

namespace World.Lives

variable {w : World} {tok : Nat}

theorem sessions_ne_nil (h : w.Lives tok) : w.sessions ≠ [] := by
  intro hnil
  simp [World.Lives, World.session, hnil] at h

/-- A world with the same session 0 and the same cancelled tokens. -/
theorem of_eq {w' : World} (h : w.Lives tok) (hs : w'.session 0 = w.session 0)
    (hc : w'.cancelled = w.cancelled) : w'.Lives tok :=
  ⟨hs ▸ h.1, by simpa [World.isCancelled, hc] using h.2⟩

/-- A change of session 0 that keeps its lifetime keeps it live. -/
theorem modifySession (h : w.Lives tok) {g : SessionState → SessionState}
    (hg : ∀ st, (g st).lifetime = st.lifetime) : (w.modifySession 0 g).Lives tok :=
  ⟨(World.session_modifySession_field w g (·.lifetime) hg).trans h.1, h.2⟩

end World.Lives

namespace Monitor

variable {σ M : Type} [Runtime σ] {mon : Monitor σ M}

/-- A cleanup on interruption is followed when the process is, and the cleanup is from wherever
a token is cancelled, leaving it cancelled. -/
theorem Follows.onAbort {gs : List Nat} {α : Type} {Q : α → σ → M → Prop} {p : Proc σ α} {s : σ}
    {m : M} {cleanup : Proc σ Unit} (h : mon.Follows gs Q p s m)
    (hclean : ∀ t s' m', Runtime.cancelled s' t = true →
      mon.Follows gs (fun _ s'' _ => Runtime.cancelled s'' t = true) cleanup s' m') :
    mon.Follows gs Q (Proc.onAbort cleanup p) s m := by
  induction h with
  | pure hq => exact .pure hq
  | abort hc => exact (hclean _ _ _ hc).bind fun _ _ _ h => .abort h
  | step m' hm _ ih => exact .step m' hm ih
  | block now aborted later hnow _ hrest habort _ hready _ ihnow ihabort ihready =>
    exact .block now aborted later hnow ihnow hrest habort ihabort hready ihready
  | spawn _ ih => exact .spawn ih
  | kill _ ih => exact .kill ih
  | current _ ih => exact .current ih

/-- The task's own number is read, and nothing else. -/
theorem Follows.self_bind {gs : List Nat} {α : Type} {Q : α → σ → M → Prop} {k : Nat → Proc σ α}
    {s : σ} {m : M} (h : ∀ i, mon.Follows gs Q (k i) s m) :
    mon.Follows gs Q (Proc.self >>= k) s m :=
  .current h

end Monitor

/-- Along a run among others that leave the lifetime live, by moves none of which cancels its
token, the token is live where the run stops. -/
theorem Proc.Runs.live {α : Type} {tok : Nat} {p q : Act α} {s s' : World}
    {tr : List (Move World)} (h : Proc.Runs (World.KeepsLifetime tok) p s tr q s')
    (hs : s.isCancelled tok = false)
    (hmv : ∀ mv ∈ tr, mv.before.isCancelled tok = false → mv.after.isCancelled tok = false) :
    s'.isCancelled tok = false := by
  induction h with
  | refl => exact hs
  | step _ ih =>
    exact ih (hmv _ List.mem_cons_self hs) fun mv h => hmv mv (List.mem_cons_of_mem _ h)
  | ready _ _ ih =>
    exact ih (hmv _ List.mem_cons_self hs) fun mv h => hmv mv (List.mem_cons_of_mem _ h)
  | wake _ hmean _ _ ih =>
    -- the others leave the token live while the process waits
    exact ih (hmv _ List.mem_cons_self hmean.kept.2) fun mv h => hmv mv (List.mem_cons_of_mem _ h)
  | spawn _ _ ih => exact ih hs hmv
  | kill _ ih => exact ih hs hmv
  | current _ _ ih => exact ih hs hmv

namespace sendWatch

variable {tok : Nat} {l : SendLog} {b : Bool} {w w' : World}

/-- A move that cancels no token is one the monitor takes, adding what it adds. -/
theorem move (hc : w'.cancelled = w.cancelled) : (sendWatch tok).next l ⟨b, w, w'⟩ (l.add ⟨b, w, w'⟩) :=
  ⟨rfl, fun h => by simpa [World.isCancelled, hc] using h⟩

/-- A move that adds nothing and cancels no token leaves the monitor where it was. -/
theorem quiet (hl : l.add ⟨b, w, w'⟩ = l) (hc : w'.cancelled = w.cancelled) :
    (sendWatch tok).next l ⟨b, w, w'⟩ l := by
  have h : (sendWatch tok).next l ⟨b, w, w'⟩ (l.add ⟨b, w, w'⟩) := move hc
  rwa [hl] at h

theorem read (l : SendLog) (b : Bool) (w : World) : (sendWatch tok).next l ⟨b, w, w⟩ l :=
  quiet (l.add_self b w) rfl

end sendWatch

open Monitor

section Steps

variable {tok : Nat} {gs : List Nat} {s : World} {l : SendLog}

/-- A wait whose condition leaves the world as it is: where it ends the lifetime is live, and
nothing is added. -/
theorem await_still_follows {β : Type} {bl : Blocker World β}
    (hb : ∀ w v w', bl.ready w = some (v, w') → w' = w) (hs : s.Lives tok) :
    (sendWatch tok).Follows gs (fun _ s' l' => s'.Lives tok ∧ l' = l) (Proc.await bl) s l := by
  refine Follows.await (fun v s' hv => ?_) (fun _ => trivial)
    (fun s₁ _ _ _ => ⟨l, sendWatch.read l true s₁⟩) fun s₁ _ hmean _ v s' hv => ?_
  · obtain rfl := hb _ _ _ hv
    exact ⟨l, sendWatch.read l true _, hs, rfl⟩
  · obtain rfl := hb _ _ _ hv
    exact ⟨l, sendWatch.read l true _, hmean.kept, rfl⟩

/-- A request: the backend takes it by one move, and its answer is waited for. -/
theorem Api.execute_follows {req : HttpRequest} (hs : s.Lives tok) :
    (sendWatch tok).Follows gs
      (fun ans s' l' => s'.Lives tok ∧ ans = (s.backend.exchange req).2.2 ∧
        l' = l.add ⟨false, s, { s with backend := (s.backend.exchange req).1 }⟩)
      (Api.execute req) s l := by
  rw [Api.execute_eq]
  refine Follows.update_bind (sendWatch.move rfl) ?_
  dsimp only
  split
  · refine Follows.sleep_bind (sendWatch.read _ false _) (fun h => by omega) (fun _ => trivial)
      (fun _ _ _ _ => ⟨_, sendWatch.read _ true _⟩) ?_
    intro s₁ _ hmean _ _
    exact ⟨_, sendWatch.read _ true _, .pure ⟨hmean.kept, rfl, rfl⟩⟩
  · exact .pure ⟨hs, rfl, rfl⟩

/-- A call whose request creates nothing adds nothing. -/
theorem Api.call_follows {α : Type} {path : String} {params : List (String × String)}
    {request : String → HttpRequest} {answer : String → HttpResponse → Except HttpError α}
    (hreq : ∀ url, (request url).creates = false) (hs : s.Lives tok) :
    (sendWatch tok).Follows gs (fun _ s' l' => s'.Lives tok ∧ l' = l)
      (Api.call path params request 0 answer) s l := by
  unfold Api.call
  refine Follows.read_bind (sendWatch.read _ false _) ?_
  split
  · exact .pure ⟨hs, rfl⟩
  · next url _ =>
    rw [Api.fetch_zero]
    refine Follows.seq (Api.execute_follows hs) ?_
    rintro ans s₁ l₁ ⟨hs₁, -, rfl⟩
    · have hl : l.add ⟨false, s, { s with backend := (s.backend.exchange (request url)).1 }⟩ = l := by
        simp [SendLog.add_exchange, hreq]
      split <;> exact .pure ⟨hs₁, hl⟩

/-- A creation request: with no address nothing is sent; with one, the backend takes it by one
move, which adds the creation when it reaches the backend, with the chat id of the answer the
session gets. -/
theorem Api.createConversation_follows {n : NewConversation} (hs : s.Lives tok) :
    (sendWatch tok).Follows gs
      (fun res s' l' => s'.Lives tok ∧ ∃ cs : List (HttpRequest × Option Int), cs.length ≤ 1 ∧
        l' = { l with creations := l.creations ++ cs } ∧ ∀ c ∈ cs, c.2 = res.toOption.bind (·.id))
      (Api.createConversation n) s l := by
  unfold Api.createConversation Api.call
  refine Follows.read_bind (sendWatch.read _ false _) ?_
  split
  · exact .pure ⟨hs, [], by simp, by simp, by simp⟩
  · next url _ =>
    rw [Api.fetch_zero]
    refine Follows.seq (Api.execute_follows hs) ?_
    rintro ans s₁ l₁ ⟨hs₁, rfl, rfl⟩
    · rw [SendLog.add_exchange]
      -- the creation counts when the backend is reached
      have hlen : ∀ x : HttpRequest × Option Int,
          (if s.backend.reachable = true ∧ HttpRequest.creates
            { method := .post, url, body := some n.toJson.toValue } = true then [x] else []).length ≤ 1 := by
        intro x
        split <;> simp
      split
      · next e he =>
        refine .pure ⟨hs₁, _, hlen _, rfl, fun c hc => ?_⟩
        split at hc
        · obtain rfl := List.mem_singleton.1 hc
          show createdId _ _ = _
          rw [he]
          rfl
        · simp at hc
      · next resp hr =>
        refine .pure ⟨hs₁, _, hlen _, rfl, fun c hc => ?_⟩
        split at hc
        · obtain rfl := List.mem_singleton.1 hc
          show createdId _ _ = _
          rw [hr]
          rfl
        · simp at hc

/-- A condition that leaves the world as it is. -/
theorem eq_of_ite_some {β : Type} {c : Prop} [Decidable c] {v₀ v : β} {w w' : World}
    (h : (if c then some (v₀, w) else none) = some (v, w')) : w' = w := by
  split at h
  · cases h
    rfl
  · cases h

/-- A bounded wait for a condition that leaves the world as it is. -/
theorem waitUntil_still_follows {β : Type} {ready : World → Option (β × World)} {limit : Nat}
    (hready : ∀ w v w', ready w = some (v, w') → w' = w) (hs : s.Lives tok) :
    (sendWatch tok).Follows gs (fun _ s' l' => s'.Lives tok ∧ l' = l) (Proc.waitUntil ready limit) s l := by
  refine .step l (sendWatch.read _ false _) (await_still_follows (fun w v w' hv => ?_) hs)
  dsimp only at hv
  split at hv
  · next v₀ w₀ hr =>
    cases hv
    exact hready _ _ _ hr
  · exact eq_of_ite_some hv

/-- The session's actor, once resolved, is read and nothing else. -/
theorem Session.actor_follows {a : Actor} (ha : (s.session 0).actor.value = some a) :
    (sendWatch tok).Follows gs (fun a' s' l' => a' = a ∧ s' = s ∧ l' = l) (Session.actor 0) s l := by
  unfold Session.actor
  refine .current fun _ => Follows.read_bind (sendWatch.read _ false _) ?_
  rw [ha]
  exact .pure ⟨rfl, rfl, rfl⟩

/-- Taking the conversation lock changes only the lock: arrived, the task holds it or waits in
line, leaving the line if interrupted. -/
theorem Session.lockCreating_follows {me : Nat} (hs : s.Lives tok) :
    (sendWatch tok).Follows gs (fun _ s' l' => s'.Lives tok ∧ l' = l) (Session.lockCreating 0 me) s l := by
  unfold Session.lockCreating
  refine Follows.update_bind (sendWatch.quiet (SendLog.add_modifySession _ _ _ fun _ => rfl) rfl) ?_
  generalize (s.session 0).creating.arrive me = arrived
  obtain ⟨taken, lk⟩ := arrived
  have hs₁ : (s.modifySession 0 fun st => { st with creating := lk }).Lives tok :=
    hs.modifySession fun _ => rfl
  cases taken with
  | false =>
    -- waiting in line, leaving it if interrupted
    refine Follows.onAbort (await_still_follows ?_ hs₁) ?_
    · intro w v w' hv
      exact eq_of_ite_some hv
    · intro t s' m' hc
      exact .step m' (sendWatch.quiet (SendLog.add_modifySession _ _ _ fun _ => rfl) rfl) (.pure hc)
  | true => exact .pure ⟨hs₁, rfl⟩

/-- The reload of the history creates nothing and queues no frame. -/
theorem Session.loadHistory_adds_no_creation {chatId : Int} {a : Actor} (hs : s.Lives tok) :
    (sendWatch tok).Follows gs
      (Ends tok fun _ l' => l'.creations = l.creations ∧ l'.frames = l.frames)
      (Session.loadHistory 0 chatId tok a) s l := by
  unfold Session.loadHistory
  refine Follows.seq (Follows.guarded (sendWatch.read _ false _) fun _ =>
    Api.call_follows (fun _ => rfl) hs) ?_
  rintro (_ | res) s₁ l₁ h₁
  · exact .pure (Or.inl h₁)
  obtain ⟨hs₁, rfl⟩ := h₁
  refine Follows.modify_bind (sendWatch.move rfl) ?_
  rw [SendLog.add_emit]
  refine Follows.seq (Follows.guarded (sendWatch.read _ false _) fun _ =>
    Api.call_follows (fun _ => rfl) hs₁) ?_
  rintro (_ | _) s₂ l₂ h₂
  · exact .pure (Or.inl h₂)
  · obtain ⟨hs₂, rfl⟩ := h₂
    exact .pure (Or.inr ⟨hs₂, rfl, rfl⟩)

end Steps

/-- What creating the conversation under the lock added to `l₀`, by how it ended. Failed, it
added at most one creation, answered with no chat id, and the failure report, and nothing else;
otherwise it added at most one creation, answered with a chat id, and no frame. -/
def Created (l₀ : SendLog) (r : Except ChatError Unit) (l : SendLog) : Prop :=
  ∃ cs : List (HttpRequest × Option Int), cs.length ≤ 1 ∧ l.creations = l₀.creations ++ cs ∧
    l.frames = l₀.frames ∧
    ((r = .error (.createFailed "the conversation could not be created") ∧ (∀ c ∈ cs, c.2 = none) ∧
        l.events = l₀.events ++ [(0, .error createFailureText)] ∧ l.chats = l₀.chats) ∨
      ((∀ msg, r ≠ .error (.createFailed msg)) ∧ ∀ c ∈ cs, c.2 ≠ none))

section Creation

variable {tok : Nat} {gs : List Nat} {s : World} {l : SendLog}

/-- A way out that creates nothing. -/
theorem Created.nothing {r : Except ChatError Unit} (hr : ∀ msg, r ≠ .error (.createFailed msg)) :
    Created l r l :=
  ⟨[], by simp, by simp, rfl, .inr ⟨hr, by simp⟩⟩

/-- **Creating the conversation under the lock**: one creation at most, with the failure
reported once when its answer gives no chat id, and the chat attached, its history reloaded and
its link started when it gives one. -/
theorem Session.createHeld_follows {a : Actor} (hs : s.Lives tok) :
    (sendWatch tok).Follows gs (Ends tok (Created l)) (Session.createHeld 0 tok a) s l := by
  unfold Session.createHeld
  refine Follows.read_bind (sendWatch.read _ false _) ?_
  split
  · split
    · exact .pure (Or.inr ⟨hs, Created.nothing (by simp)⟩)
    · split
      · refine Follows.seq (Follows.guarded (sendWatch.read _ false _) fun _ =>
          Api.createConversation_follows hs) ?_
        rintro (_ | created) s₁ l₁ h₁
        · exact .pure (Or.inl h₁)
        obtain ⟨hs₁, cs, hlen, rfl, hcs⟩ := h₁
        dsimp only
        -- the answer gives no chat id: the failure is reported, and nothing else happens
        have hfail : (∀ c ∈ cs, c.2 = none) →
            (sendWatch tok).Follows gs (Ends tok (Created l))
              (Session.emit 0 (.error createFailureText) >>= fun _ =>
                pure (Except.error (ChatError.createFailed "the conversation could not be created")))
              s₁ { l with creations := l.creations ++ cs } := by
          intro hnone
          refine Follows.modify_bind (sendWatch.move rfl) ?_
          rw [SendLog.add_emit]
          exact .pure (Or.inr ⟨hs₁, cs, hlen, rfl, rfl, .inl ⟨rfl, hnone, rfl, rfl⟩⟩)
        cases created with
        | error e => exact hfail fun c hc => by simpa [Except.toOption] using hcs c hc
        | ok conv =>
          dsimp only
          cases hk : conv.id with
          | none => exact hfail fun c hc => by simpa [Except.toOption, hk] using hcs c hc
          | some k =>
            dsimp only
            have hid : ∀ c ∈ cs, c.2 ≠ none := fun c hc => by
              simp [hcs c hc, Except.toOption, hk]
            -- the chat is attached: a change of the session that adds no creation and no frame
            refine Follows.modify_bind (sendWatch.move rfl) ?_
            obtain ⟨hcr, -, hfr⟩ := SendLog.add_modifySession_logs
              { l with creations := l.creations ++ cs } false s₁
              fun st => { st with target := st.target.map fun t => { t with chatId := some k } }
            refine Follows.seq (Session.loadHistory_adds_no_creation
              (hs₁.modifySession fun _ => rfl)) ?_
            intro _ s₃ l₃ h₃
            -- the link starts as a task of its own, and the session waits, boundedly, to be online
            refine .spawn fun _ => Follows.read_bind (sendWatch.read _ false _) ?_
            refine Follows.seq (Follows.guarded (sendWatch.read _ false _)
              (Q := fun _ s' l' => s'.Lives tok ∧ l' = l₃ ∧
                l₃.creations = l.creations ++ cs ∧ l₃.frames = l.frames) fun hlive => ?_) ?_
            · rcases h₃ with hc | ⟨hs₃, hc₃, hf₃⟩
              · simp [hc] at hlive
              · refine (waitUntil_still_follows (fun w v w' hv => eq_of_ite_some hv) hs₃).weaken ?_
                rintro _ _ _ ⟨hs₄, rfl⟩
                exact ⟨hs₄, rfl, hc₃.trans hcr, hf₃.trans hfr⟩
            · rintro (_ | _) s₄ l₄ h₄
              · exact .pure (Or.inl h₄)
              · obtain ⟨hs₄, rfl, hc₄, hf₄⟩ := h₄
                exact .pure (Or.inr ⟨hs₄, cs, hlen, hc₄, hf₄, .inr ⟨by simp, hid⟩⟩)
      · exact .pure (Or.inr ⟨hs, Created.nothing (by simp)⟩)
  · exact .pure (Or.inr ⟨hs, Created.nothing (by simp)⟩)

/-- Letting go of the conversation lock changes only the lock. -/
theorem Session.leave_follows {me t : Nat} {m : SendLog} (hc : Runtime.cancelled s t = true) :
    (sendWatch tok).Follows gs (fun _ s' _ => Runtime.cancelled s' t = true)
      (Session.change 0 fun st => { st with creating := st.creating.leave me }) s m :=
  .step m (sendWatch.quiet (SendLog.add_modifySession _ _ _ fun _ => rfl) rfl) (.pure hc)

/-- **Creating the conversation of a send**: the lock taken, the creation under it, and the lock
let go; interrupted, the lock is let go before the send unwinds. -/
theorem Session.createConversation_follows {a : Actor} (hs : s.Lives tok) :
    (sendWatch tok).Follows gs (Ends tok (Created l)) (Session.createConversation 0 tok a) s l := by
  unfold Session.createConversation
  refine Follows.self_bind fun me => Follows.seq (Follows.guarded (sendWatch.read _ false _) fun _ =>
    Session.lockCreating_follows hs) ?_
  rintro (_ | _) s₁ l₁ h₁
  · exact .pure (Or.inl h₁)
  obtain ⟨hs₁, rfl⟩ := h₁
  refine Follows.seq (Follows.onAbort (Session.createHeld_follows hs₁)
    fun _ _ _ hc => Session.leave_follows hc) ?_
  intro r s₂ l₂ h₂
  -- the lock is let go: a change of the lock only
  refine Follows.modify_bind (sendWatch.quiet (SendLog.add_modifySession _ _ _ fun _ => rfl) rfl) ?_
  rcases h₂ with hc | ⟨hs₂, hcr⟩
  · exact .pure (Or.inl hc)
  · exact .pure (Or.inr ⟨hs₂.modifySession fun _ => rfl, hcr⟩)

end Creation

/-- A socket takes a frame on a connection whose sending half the client holds, and says so;
otherwise it stays as it is. -/
theorem SocketServer.send_cases (so : SocketServer) (i : Nat) (text : String) :
    so.send i text = (true, { so with sent := so.sent ++ [.frame i text] }) ∨
      so.send i text = (false, so) := by
  unfold SocketServer.send
  split
  · split
    · exact .inl rfl
    · exact .inr rfl
  · exact .inr rfl

section Sending

variable {tok : Nat} {gs : List Nat} {s : World} {l : SendLog}

/-- Sending a frame: by one move, queued on the held connection while the session is online,
which the answer tells; otherwise nothing changes. The session and the tokens stay. -/
theorem Session.sendFrame_follows {frame : String} :
    (sendWatch tok).Follows gs
      (fun sent s' l' => s'.session 0 = s.session 0 ∧ s'.cancelled = s.cancelled ∧
        (sent = true → ∃ c, l' = { l with frames := l.frames ++ [(.frame c frame, s.session 0)] } ∧
          (s.session 0).online = true ∧ (s.session 0).outbound = some c) ∧
        (sent = false → l' = l))
      (Session.sendFrame 0 frame) s l := by
  unfold Session.sendFrame
  refine .step _ (sendWatch.move ?_) (.pure ?_)
  · dsimp only
    split
    · rfl
    · split
      · rcases SocketServer.send_cases s.sockets _ frame with h | h <;> rw [h]
      · rfl
  · dsimp only
    split
    · next hoff => exact ⟨rfl, rfl, fun h => by simp at h, fun _ => SendLog.add_self _ _ _⟩
    · next hon =>
      split
      · next c hc =>
        rcases SocketServer.send_cases s.sockets c frame with h | h <;> rw [h]
        · refine ⟨rfl, rfl, fun _ => ⟨c, SendLog.add_queue _ _ _ _ _, ?_, hc⟩, fun h => by simp at h⟩
          simpa using hon
        · exact ⟨rfl, rfl, fun h => by simp at h, fun _ => SendLog.add_self _ _ _⟩
      · exact ⟨rfl, rfl, fun h => by simp at h, fun _ => SendLog.add_self _ _ _⟩

/-- What a send that ended with `r` did, read off what its own moves added to `l`. -/
structure Sent (tok : Nat) (frame : String) (r : Except ChatError Unit) (l : SendLog) : Prop where
  /-- It sent at most one creation. -/
  once : l.creations.length ≤ 1
  /-- A creation answered with no chat id made it fail as the creation failing. -/
  refused : (∃ c ∈ l.creations, c.2 = none) →
    r = .error (.createFailed "the conversation could not be created")
  /-- Failing as the creation failing, it reported that failure and nothing else, set no chat,
  queued no frame, and its creation, if the backend took one, was answered with no chat id. -/
  failed : ∀ msg, r = .error (.createFailed msg) →
    l.events = [(0, .error createFailureText)] ∧ l.frames = [] ∧ l.chats = [] ∧
      ∀ c ∈ l.creations, c.2 = none
  /-- Succeeding, it queued exactly one frame, this one, on the connection session 0 held,
  online, in the lifetime `tok`. -/
  sent : r = .ok () → ∃ c st, l.frames = [(.frame c frame, st)] ∧ st.online = true ∧
    st.outbound = some c ∧ st.lifetime = some tok

/-- A creation that failed, or was cut short, ends the send: what it added is what the send
did. -/
theorem Created.sent {frame : String} {r : Except ChatError Unit} {l : SendLog}
    (h : Created SendLog.empty r l) (hr : r ≠ .ok ()) : Sent tok frame r l := by
  obtain ⟨cs, hlen, hcr, hfr, hcase⟩ := h
  simp only [SendLog.empty, List.nil_append] at hcr hfr
  refine ⟨hcr ▸ hlen, fun hsome => ?_, fun msg hmsg => ?_, fun hok => absurd hok hr⟩
  · obtain ⟨c, hc, hnone⟩ := hsome
    rcases hcase with ⟨hfail, -⟩ | ⟨-, hid⟩
    · exact hfail
    · exact absurd hnone (hid c (hcr ▸ hc))
  · rcases hcase with ⟨-, hnone, hev, hch⟩ | ⟨hnot, -⟩
    · exact ⟨by simpa [SendLog.empty] using hev, hfr, by simpa [SendLog.empty] using hch,
        hcr ▸ hnone⟩
    · exact absurd hmsg (hnot msg)

/-- A creation that succeeded leaves one creation at most, answered with a chat id, and no
frame. -/
theorem Created.ready {l : SendLog} (h : Created SendLog.empty (.ok ()) l) :
    l.creations.length ≤ 1 ∧ (∀ c ∈ l.creations, c.2 ≠ none) ∧ l.frames = [] := by
  obtain ⟨cs, hlen, hcr, hfr, hcase⟩ := h
  simp only [SendLog.empty, List.nil_append] at hcr hfr
  rcases hcase with ⟨hfail, -⟩ | ⟨-, hid⟩
  · cases hfail
  · exact ⟨hcr ▸ hlen, hcr ▸ hid, hfr⟩

/-- **A send, by its own moves.** Its text is trimmed; the lifetime's token and the actor are
read; with no chat it creates the conversation first; then the message is queued on the held
socket, or reported as not connected. -/
theorem Session.send_follows {a : Actor} {text : String} (hs : s.Lives tok)
    (ha : (s.session 0).actor.value = some a) (htext : (Text.trimSpace text).isEmpty = false) :
    (sendWatch tok).Follows []
      (Ends tok (Sent tok (OutboundFrame.message (Text.trimSpace text) a.isRegistered).encode))
      (Session.send 0 text) s SendLog.empty := by
  unfold Session.send
  dsimp only
  rw [if_neg (by simp [htext])]
  refine Follows.read_bind (sendWatch.read _ false _) ?_
  have htok : ((s.session 0).lifetime.filter fun t => !s.isCancelled t) = some tok := by
    simp [hs.1, hs.2]
  rw [htok]
  refine Follows.seq (Follows.guarded (sendWatch.read _ false _) fun _ =>
    Session.actor_follows ha) ?_
  rintro (_ | a') s₁ l₁ h₁
  · exact .pure (Or.inl h₁)
  obtain ⟨ha', rfl, rfl⟩ := h₁
  rw [ha']
  refine Follows.read_bind (sendWatch.read _ false _) ?_
  -- the message goes out on the held socket, or is reported as not connected
  have hfinish : ∀ w l₀, (w.isCancelled tok = true ∨ (w.Lives tok ∧ l₀.creations.length ≤ 1 ∧
      (∀ c ∈ l₀.creations, c.2 ≠ none) ∧ l₀.frames = [])) →
      (sendWatch tok).Follows []
        (Ends tok (Sent tok (OutboundFrame.message (Text.trimSpace text) a.isRegistered).encode))
        (Session.sendFrame 0 (OutboundFrame.message (Text.trimSpace text) a.isRegistered).encode >>=
          fun sent => if sent = true then pure (Except.ok () : Except ChatError Unit)
            else Session.emit 0 (.error ChatError.notConnected.message) >>= fun _ =>
              pure (Except.error .notConnected)) w l₀ := by
    intro w l₀ hw
    refine Follows.seq Session.sendFrame_follows ?_
    rintro sent w₁ l₁ ⟨hsess, hcanc, hsent, hunsent⟩
    have hc₁ : w₁.isCancelled tok = w.isCancelled tok := by simp [World.isCancelled, hcanc]
    cases sent with
    | false =>
      rw [if_neg (by simp)]
      refine Follows.modify_bind (sendWatch.move rfl) ?_
      rw [SendLog.add_emit, hunsent rfl]
      rcases hw with hc | ⟨hlive, hone, hid, hfr⟩
      · exact .pure (Or.inl (hc₁.trans hc))
      · refine .pure (Or.inr ⟨hlive.of_eq hsess hcanc, hone, fun hsome => ?_,
          fun msg h => by simp at h, fun h => by simp at h⟩)
        obtain ⟨c, hc, hnone⟩ := hsome
        exact absurd hnone (hid c hc)
    | true =>
      rw [if_pos rfl]
      obtain ⟨c, rfl, hon, hout⟩ := hsent rfl
      rcases hw with hc | ⟨hlive, hone, hid, hfr⟩
      · exact .pure (Or.inl (hc₁.trans hc))
      · refine .pure (Or.inr ⟨hlive.of_eq hsess hcanc, hone, fun hsome => ?_,
          fun msg h => by simp at h, fun _ => ⟨c, w.session 0, by simp [hfr], hon, hout, hlive.1⟩⟩)
        obtain ⟨c', hc', hnone⟩ := hsome
        exact absurd hnone (hid c' hc')
  split
  · -- no chat yet: the conversation is created first
    refine Follows.seq (Session.createConversation_follows hs) ?_
    rintro r s₂ l₂ h₂
    split
    · rcases h₂ with hc | ⟨hs₂, hcr⟩
      · exact .pure (Or.inl hc)
      · exact .pure (Or.inr ⟨hs₂, hcr.sent (by simp)⟩)
    · next hr =>
      have hok : r = .ok () := by
        cases r with
        | error e => exact absurd rfl (hr e)
        | ok u => rfl
      subst hok
      rcases h₂ with hc | ⟨hs₂, hcr⟩
      · exact hfinish s₂ l₂ (Or.inl hc)
      · exact hfinish s₂ l₂ (Or.inr ⟨hs₂, hcr.ready⟩)
  · exact hfinish _ _ (Or.inr ⟨hs, by simp [SendLog.empty], by simp [SendLog.empty], rfl⟩)

/-- **What a send did, by its own moves.** A send of a non-blank text in a live lifetime whose
actor is bound, run to its end among other processes that keep the lifetime: it sent at most one
creation; a creation answered with no chat id made it return `CreateFailed`; returning
`CreateFailed`, it reported exactly that one error, set no chat and queued nothing; returning
`Ok`, it queued exactly one message frame, with the trimmed text and the actor's registration,
on the connection session 0 held online in the lifetime. -/
theorem Session.send_own_moves {a : Actor} {text : String} {s s' : World}
    {tr : List (Move World)} {r : Except ChatError Unit} (hs : s.Lives tok)
    (ha : (s.session 0).actor.value = some a) (htext : (Text.trimSpace text).isEmpty = false)
    (hrun : Proc.Runs (World.KeepsLifetime tok) (Session.send 0 text) s tr (.pure r) s') :
    Sent tok (OutboundFrame.message (Text.trimSpace text) a.isRegistered).encode r
      (SendLog.of tr) := by
  obtain ⟨l, hacc, hq⟩ := (Session.send_follows hs ha htext).runs hrun
  obtain ⟨rfl, hmoves⟩ := sendWatch_accepts hacc
  -- no move of the run cancels the lifetime, so the send did not end cut short
  have hlive : s'.isCancelled tok = false := Proc.Runs.live hrun hs.2 hmoves
  rcases hq.ended with hc | ⟨-, hsent⟩
  · simp [hlive] at hc
  · exact hsent

end Sending

/-! ## A buyer's sends -/

/-- Every send of a non-blank text in the lifetime `tok` with the actor `a`, run to its end
among other processes that keep the lifetime, did what `Sent` says. -/
def SendsKept (tok : Nat) (a : Actor) : Prop :=
  ∀ (text : String) (s s' : World) (tr : List (Move World)) (r : Except ChatError Unit),
    s.Lives tok → (s.session 0).actor.value = some a → (Text.trimSpace text).isEmpty = false →
    Proc.Runs (World.KeepsLifetime tok) (Session.send 0 text) s tr (.pure r) s' →
    Sent tok (OutboundFrame.message (Text.trimSpace text) a.isRegistered).encode r (SendLog.of tr)

/-- **Concurrent sends create the conversation once.** From a lifetime waiting for its first
message, along every schedule of a buyer's concurrent sends and other commands, every point
`r₂` after a point `r₁` keeps `Buying.CreationsKept`: creations are the lifetime's and on their
way one at a time, held by the lock, and none follows the attach. And every send of the
lifetime, whatever the others do meanwhile short of ending the lifetime, keeps `SendsKept`: it
sends one creation at most, a failed one makes it return `CreateFailed` with one error report
and nothing attached or queued, and a send that returns `Ok` queued its message on the online
connection of the lifetime. -/
theorem Buying.concurrent_sends_create_once {b : Buying} {p₀ : Pool World}
    (hstart : b.Starts p₀.state) (htasks : p₀.tasks = []) (hnext : 0 < p₀.nextTask)
    {r₁ r₂ : Run World Json} (h₁ : Run.BuyerSteps { pool := p₀, main := .pure Json.null } r₁)
    (h₂ : r₁.BuyerSteps r₂) :
    b.CreationsKept p₀.state r₁.pool.state r₂.pool.state ∧ SendsKept b.tok b.actor :=
  ⟨Buying.creations_one_at_a_time hstart htasks hnext h₁ h₂,
    fun _ _ _ _ _ hs ha htext hrun => Session.send_own_moves hs ha htext hrun⟩

/-- A world whose session 0 has opened listing 7 of seller 3 in the lifetime 0, as the
anonymous actor `u`, with no chat yet. -/
def World.listingOpened : World :=
  { sessions := [{
      lifetime := some 0
      target := some ⟨some 7, some 3, none, "seller"⟩
      actor := { value := some ⟨"u", false⟩ } }]
    nextToken := 1 }

/-- The buyer of `World.listingOpened`, counting from there. -/
def Buying.listingOpened : Buying := ⟨0, 7, 3, ⟨"u", false⟩, Marks.of World.listingOpened⟩

theorem Buying.listingOpened_starts : Buying.listingOpened.Starts World.listingOpened where
  hasSession := by simp [World.listingOpened]
  lifetime := rfl
  live := by decide
  target := ⟨_, rfl, rfl, rfl⟩
  chat := rfl
  actor := rfl
  lock := rfl
  marks := rfl

/-- The sends of the buyer of `World.listingOpened`, before any has run. -/
theorem Buying.listingOpened_sends_create_once :
    Buying.listingOpened.CreationsKept World.listingOpened World.listingOpened
      World.listingOpened ∧ SendsKept 0 ⟨"u", false⟩ :=
  Buying.concurrent_sends_create_once
    (show Buying.listingOpened.Starts ({ state := World.listingOpened } : Pool World).state from
      Buying.listingOpened_starts) rfl (by decide) .refl .refl

end MarketChat
