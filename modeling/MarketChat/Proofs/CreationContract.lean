import MarketChat.Proofs.RelyGuaranteeScheduler
import MarketChat.Proofs.SessionContract
/-!
# The contract of creating a buyer's conversation

A buyer's lifetime of session 0 that has no conversation yet creates it on its first send.
Sends run concurrently, each as its own task, and the conversation lock (`FairLock`) makes them
create it one at a time: the holder sends the creation request and, until it is answered, no one
else sends one; once the chat is attached no one sends one at all.

What is counted, from marks of the logs taken when the lifetime had no chat:

* `Marks.creates`: the creation requests the backend received (the only POSTs with a body);
* `Marks.failures`: the reports of a failed creation (`createFailureText`).

A creation on its way is one sent and neither reported failed nor attached. The contract
`Buying.contract` keeps it to at most one (`Buying.Settled.counted`), owned by the lock's holder
(`Buying.Settled.held`), and keeps every creation after the attach out (`Buying.Step.attached`).
It is a `RelyGuarantee`, task by task:

* the holder's hold, and what the lock protects (the counts and the chat), are left alone by
  every other task (`Buying.Leaves.held`);
* the lock is handed to a task only when no creation is on its way (`Buying.Leaves.handed`), so
  the task that takes it may send one;
* no task puts another's number in the lock (`Buying.Leaves.fresh`): a task that has just
  started is not in it.

Creation requests that cannot reach the backend (an unreachable backend, an address that does
not build) are never sent, and their failures are counted with nothing to match.

Processes that have nothing to do with creating the conversation take steps `World.Apart` from
it: they send no creation, report no failed creation, and leave the session's lifetime, target,
actor and lock alone. Such steps keep the contract wherever the chat is attached
(`Buying.Apart.guar`, `Buying.Apart.settled`).

Main definitions: `Marks.creates`, `Marks.failures`, `Buying`, `Buying.Settled`, `Buying.Step`,
`Buying.Leaves`, `Buying.contract`, `World.Apart`.
-/

namespace MarketChat

/-! ## What is counted -/

/-- A request that creates a conversation: the only POST that carries a body. -/
def HttpRequest.creates (r : HttpRequest) : Bool := r.method == .post && r.body.isSome

/-- The request creating the conversation `n`, in a configuration. -/
def IsCreateOf (c : ChatConfig) (n : NewConversation) (r : HttpRequest) : Prop :=
  ∃ url, Api.address c "/chat/chats" [] = .ok url ∧
    r = { method := .post, url, body := some n.toJson.toValue }

/-- The sentence a session reports when its conversation could not be created. -/
def createFailureText : String :=
  (ChatError.createFailed "the conversation could not be created").message

/-- The event reports that the conversation could not be created. -/
def SessionEvent.failedCreate : SessionEvent → Bool
  | .error m => m == createFailureText
  | _ => false

/-- Session 0 reports that its conversation could not be created. -/
def failedCreateOf (e : Nat × SessionEvent) : Bool := e.1 == 0 && e.2.failedCreate

/-- Creation requests reach the backend: it is reachable, and the address of creation builds. -/
def World.CreatesReach (w : World) : Prop :=
  w.backend.reachable = true ∧ ∃ url, Api.address w.config "/chat/chats" [] = .ok url

namespace Marks

/-- The creation requests since the marks. -/
def creates (m : Marks) (w : World) : Nat :=
  ((w.backend.log.drop m.requests).filter HttpRequest.creates).length

/-- The failed creations session 0 reported since the marks. -/
def failures (m : Marks) (w : World) : Nat :=
  ((w.sessionEvents.drop m.sessionEvents).filter failedCreateOf).length

/-- Requests logged after the marks count as many as are creations. -/
theorem creates_append {m : Marks} {w w' : World} {l : List HttpRequest}
    (hm : m.requests ≤ w.backend.log.length) (h : w'.backend.log = w.backend.log ++ l) :
    m.creates w' = m.creates w + (l.filter HttpRequest.creates).length := by
  unfold creates
  rw [h, List.drop_append_of_le_length hm, List.filter_append, List.length_append]

/-- Events reported after the marks count as many as are failed creations. -/
theorem failures_append {m : Marks} {w w' : World} {l : List (Nat × SessionEvent)}
    (hm : m.sessionEvents ≤ w.sessionEvents.length) (h : w'.sessionEvents = w.sessionEvents ++ l) :
    m.failures w' = m.failures w + (l.filter failedCreateOf).length := by
  unfold failures
  rw [h, List.drop_append_of_le_length hm, List.filter_append, List.length_append]

end Marks

/-- The numbers in a lock: its holder, then its waiters. -/
def FairLock.ids (l : FairLock) : List Nat := l.holder.toList ++ l.waiters

/-- The numbers in the session's conversation lock. -/
def World.lockIds (w : World) : List Nat := (w.session 0).creating.ids

/-! ## The contract -/

/-- A buyer's lifetime of session 0 while it creates its conversation: its token, the listing
and seller it is bound to, its actor, and the marks of the logs from which creations count. -/
structure Buying where
  tok : Nat
  listingId : Int
  sellerId : Int
  actor : Actor
  marks : Marks

namespace Buying

variable (b : Buying)

/-- The conversation the lifetime creates. -/
def request : NewConversation := ⟨b.listingId, b.sellerId, b.actor.id, b.actor.isRegistered⟩

/-- No creation is on its way: every one sent was reported failed, or the chat is attached. -/
def Resolved (w : World) : Prop :=
  b.marks.creates w ≤ b.marks.failures w ∨ (w.session 0).chatId ≠ none

/-- What holds whenever no process runs. -/
structure Settled (w : World) : Prop where
  hasSession : w.sessions ≠ []
  lifetime : (w.session 0).lifetime = some b.tok
  live : w.isCancelled b.tok = false
  target : ∃ t, (w.session 0).target = some t ∧ t.listingId = some b.listingId ∧
    t.sellerId = some b.sellerId
  actor : (w.session 0).actor.value = some b.actor
  /-- Every creation sent since the marks is the lifetime's. -/
  requests : ∀ r ∈ w.backend.log.drop b.marks.requests, r.creates = true →
    IsCreateOf w.config b.request r
  /-- Every creation sent but the last was reported failed, and so was the last unless it is
  on its way or attached. -/
  counted : w.CreatesReach →
    b.marks.failures w ≤ b.marks.creates w ∧ b.marks.creates w ≤ b.marks.failures w + 1
  unsent : ¬ w.CreatesReach → b.marks.creates w = 0
  /-- A chat is attached by the one creation that succeeded. -/
  attached : (w.session 0).chatId ≠ none →
    w.CreatesReach ∧ b.marks.creates w = b.marks.failures w + 1
  /-- A creation on its way is the lock holder's. -/
  held : b.marks.creates w = b.marks.failures w + 1 → (w.session 0).chatId = none →
    (w.session 0).creating.holder ≠ none
  /-- No connection is tried before the chat is attached. -/
  unlinked : (w.session 0).chatId = none → w.sockets.attempts.length = b.marks.connects
  /-- The marks were taken on the logs as they were, or are. -/
  logMarked : b.marks.requests ≤ w.backend.log.length
  eventsMarked : b.marks.sessionEvents ≤ w.sessionEvents.length

/-- How any two states of a run are related: the logs grow, the configuration and the backend's
reach stay, cancelled tokens stay cancelled, and once the chat is attached it stays, and no
creation is sent or reported failed after it. -/
structure Step (w w' : World) : Prop where
  log : w.backend.log <+: w'.backend.log
  events : w.sessionEvents <+: w'.sessionEvents
  attempts : w.sockets.attempts <+: w'.sockets.attempts
  config : w'.config = w.config
  reachable : w'.backend.reachable = w.backend.reachable
  cancelled : ∀ t, w.isCancelled t = true → w'.isCancelled t = true
  attached : (w.session 0).chatId ≠ none →
    (w'.session 0).chatId = (w.session 0).chatId ∧ b.marks.creates w' = b.marks.creates w ∧
      b.marks.failures w' = b.marks.failures w

/-- What a step leaves to the task numbered `k`: its hold on the lock, with the counts and the
chat the lock protects; the lock, handed to it only when no creation is on its way; and its
number, kept out of the lock. -/
structure Leaves (k : Nat) (w w' : World) : Prop where
  held : (w.session 0).creating.holder = some k →
    (w'.session 0).creating.holder = some k ∧ b.marks.creates w' = b.marks.creates w ∧
      b.marks.failures w' = b.marks.failures w ∧ (w'.session 0).chatId = (w.session 0).chatId
  handed : (w'.session 0).creating.holder = some k →
    (w.session 0).creating.holder = some k ∨ b.Resolved w'
  fresh : k ∉ w.lockIds → k ∉ w'.lockIds

variable {b}

theorem Step.refl (w : World) : b.Step w w :=
  ⟨List.prefix_refl _, List.prefix_refl _, List.prefix_refl _, rfl, rfl, fun _ h => h,
    fun _ => ⟨rfl, rfl, rfl⟩⟩

theorem Step.trans {w₁ w₂ w₃ : World} (h₁ : b.Step w₁ w₂) (h₂ : b.Step w₂ w₃) : b.Step w₁ w₃ where
  log := h₁.log.trans h₂.log
  events := h₁.events.trans h₂.events
  attempts := h₁.attempts.trans h₂.attempts
  config := h₂.config.trans h₁.config
  reachable := h₂.reachable.trans h₁.reachable
  cancelled t h := h₂.cancelled t (h₁.cancelled t h)
  attached h := by
    obtain ⟨hc₁, hn₁, hf₁⟩ := h₁.attached h
    obtain ⟨hc₂, hn₂, hf₂⟩ := h₂.attached (hc₁ ▸ h)
    exact ⟨hc₂.trans hc₁, hn₂.trans hn₁, hf₂.trans hf₁⟩

theorem Leaves.refl (k : Nat) (w : World) : b.Leaves k w w :=
  ⟨fun h => ⟨h, rfl, rfl, rfl⟩, fun h => .inl h, id⟩

/-- Leaving a hold alone composes, and so does handing the lock only when nothing is on its
way: a lock held from the middle on was handed there, and what it protects stayed. -/
theorem Leaves.trans {k : Nat} {w₁ w₂ w₃ : World} (h₁ : b.Leaves k w₁ w₂)
    (h₂ : b.Leaves k w₂ w₃) : b.Leaves k w₁ w₃ where
  held h := by
    obtain ⟨hh₂, hn₁, hf₁, hc₁⟩ := h₁.held h
    obtain ⟨hh₃, hn₂, hf₂, hc₂⟩ := h₂.held hh₂
    exact ⟨hh₃, hn₂.trans hn₁, hf₂.trans hf₁, hc₂.trans hc₁⟩
  handed h := by
    rcases h₂.handed h with hh₂ | hres
    · obtain ⟨-, hn, hf, hc⟩ := h₂.held hh₂
      rcases h₁.handed hh₂ with hh₁ | hres
      · exact .inl hh₁
      · unfold Resolved at hres ⊢
        rw [hn, hf, hc]
        exact .inr hres
    · exact .inr hres
  fresh h := h₂.fresh (h₁.fresh h)

/-- Moving the clock changes nothing counted. -/
theorem Step.setNow (w : World) (t : Nat) : b.Step w (Runtime.setNow w t) :=
  ⟨List.prefix_refl _, List.prefix_refl _, List.prefix_refl _, rfl, rfl, fun _ h => h,
    fun _ => ⟨rfl, rfl, rfl⟩⟩

theorem Leaves.setNow (k : Nat) (w : World) (t : Nat) : b.Leaves k w (Runtime.setNow w t) :=
  ⟨fun h => ⟨h, rfl, rfl, rfl⟩, fun h => .inl h, id⟩

theorem Settled.setNow {w : World} (h : b.Settled w) (t : Nat) :
    b.Settled (Runtime.setNow w t) :=
  ⟨h.hasSession, h.lifetime, h.live, h.target, h.actor, h.requests, h.counted, h.unsent,
    h.attached, h.held, h.unlinked, h.logMarked, h.eventsMarked⟩

variable (b)

/-- The contract of a buyer's lifetime while it creates its conversation. -/
def contract : RelyGuarantee World where
  settled := b.Settled
  guar j w w' := b.Step w w' ∧ ∀ k, k ≠ j → b.Leaves k w w'
  rely k w w' := b.Step w w' ∧ b.Leaves k w w'
  step := b.Step
  fresh k w := k ∉ w.lockIds
  guar_refl _ w := ⟨Step.refl w, fun k _ => Leaves.refl k w⟩
  rely_refl k w := ⟨Step.refl w, Leaves.refl k w⟩
  rely_trans h₁ h₂ := ⟨h₁.1.trans h₂.1, h₁.2.trans h₂.2⟩
  rely_of_guar hne h := ⟨h.1, h.2 _ (Ne.symm hne)⟩
  step_refl := Step.refl
  step_trans := Step.trans
  step_of_guar h := h.1
  cancelled_of_rely h hc := h.1.cancelled _ hc
  rely_setNow k w t := ⟨Step.setNow w t, Leaves.setNow k w t⟩
  step_setNow := Step.setNow
  settled_setNow t h := h.setNow t
  fresh_of_rely h hf := h.2.fresh hf

@[simp] theorem contract_settled : b.contract.settled = b.Settled := rfl

@[simp] theorem contract_step : b.contract.step = b.Step := rfl

end Buying

/-! ## Steps apart from the creation -/

/-- Entries added to a log that match nothing leave what matches since a mark as it was. -/
theorem filter_drop_append_none {α : Type} {p : α → Bool} {xs l : List α} (n : Nat)
    (h : ∀ x ∈ l, p x = false) : ((xs ++ l).drop n).filter p = (xs.drop n).filter p := by
  rw [List.drop_append, List.filter_append]
  have hnone : (l.drop (n - xs.length)).filter p = [] :=
    List.filter_eq_nil_iff.2 fun x hx => by simp [h x (List.mem_of_mem_drop hx)]
  rw [hnone, List.append_nil]

/-- A step apart from creating the conversation: it sends no creation and reports no failed
creation, and leaves the session's lifetime, target, actor and lock, the tokens, the
configuration and the backend's reach alone; its logs only grow. -/
structure World.Apart (w w' : World) : Prop where
  sessions : w'.sessions.length = w.sessions.length
  lifetime : (w'.session 0).lifetime = (w.session 0).lifetime
  target : (w'.session 0).target = (w.session 0).target
  actor : (w'.session 0).actor.value = (w.session 0).actor.value
  creating : (w'.session 0).creating = (w.session 0).creating
  cancelled : w'.cancelled = w.cancelled
  config : w'.config = w.config
  reachable : w'.backend.reachable = w.backend.reachable
  log : ∃ l, w'.backend.log = w.backend.log ++ l ∧ ∀ r ∈ l, r.creates = false
  events : ∃ l, w'.sessionEvents = w.sessionEvents ++ l ∧ ∀ e ∈ l, failedCreateOf e = false
  attempts : w.sockets.attempts <+: w'.sockets.attempts

namespace World.Apart

theorem refl (w : World) : Apart w w :=
  ⟨rfl, rfl, rfl, rfl, rfl, rfl, rfl, rfl, ⟨[], by simp, by simp⟩, ⟨[], by simp, by simp⟩,
    List.prefix_refl _⟩

theorem trans {w₁ w₂ w₃ : World} (h₁ : Apart w₁ w₂) (h₂ : Apart w₂ w₃) : Apart w₁ w₃ where
  sessions := h₂.sessions.trans h₁.sessions
  lifetime := h₂.lifetime.trans h₁.lifetime
  target := h₂.target.trans h₁.target
  actor := h₂.actor.trans h₁.actor
  creating := h₂.creating.trans h₁.creating
  cancelled := h₂.cancelled.trans h₁.cancelled
  config := h₂.config.trans h₁.config
  reachable := h₂.reachable.trans h₁.reachable
  log := by
    obtain ⟨l₁, hl₁, hn₁⟩ := h₁.log
    obtain ⟨l₂, hl₂, hn₂⟩ := h₂.log
    refine ⟨l₁ ++ l₂, by rw [hl₂, hl₁, List.append_assoc], fun r hr => ?_⟩
    rcases List.mem_append.1 hr with hr | hr
    · exact hn₁ r hr
    · exact hn₂ r hr
  events := by
    obtain ⟨l₁, hl₁, hn₁⟩ := h₁.events
    obtain ⟨l₂, hl₂, hn₂⟩ := h₂.events
    refine ⟨l₁ ++ l₂, by rw [hl₂, hl₁, List.append_assoc], fun e he => ?_⟩
    rcases List.mem_append.1 he with he | he
    · exact hn₁ e he
    · exact hn₂ e he
  attempts := h₁.attempts.trans h₂.attempts

/-- A step that leaves the sessions, the events, the tokens, the configuration and the backend
alone, and at most adds connection attempts, is apart. -/
theorem aside {w w' : World} (hs : w'.sessions = w.sessions)
    (he : w'.sessionEvents = w.sessionEvents) (hc : w'.cancelled = w.cancelled)
    (hcfg : w'.config = w.config) (hb : w'.backend = w.backend)
    (ha : w.sockets.attempts <+: w'.sockets.attempts) : Apart w w' := by
  have hsess : w'.session 0 = w.session 0 := by simp only [World.session, hs]
  exact ⟨by rw [hs], by rw [hsess], by rw [hsess], by rw [hsess], by rw [hsess], hc, hcfg,
    by rw [hb], ⟨[], by rw [hb, List.append_nil], by simp⟩,
    ⟨[], by rw [he, List.append_nil], by simp⟩, ha⟩

/-- Changing what of session 0 the creation does not look at is apart. -/
theorem modifySession (w : World) (f : SessionState → SessionState)
    (hf : ∀ s, (f s).lifetime = s.lifetime ∧ (f s).target = s.target ∧
      (f s).actor.value = s.actor.value ∧ (f s).creating = s.creating) :
    Apart w (w.modifySession 0 f) where
  sessions := by simp [World.modifySession]
  lifetime := World.session_modifySession_field w f _ fun s => (hf s).1
  target := World.session_modifySession_field w f _ fun s => (hf s).2.1
  actor := World.session_modifySession_field w f (fun s => s.actor.value) fun s => (hf s).2.2.1
  creating := World.session_modifySession_field w f _ fun s => (hf s).2.2.2
  cancelled := rfl
  config := rfl
  reachable := rfl
  log := ⟨[], by simp [World.modifySession], by simp⟩
  events := ⟨[], by simp [World.modifySession], by simp⟩
  attempts := List.prefix_refl _

/-- Reporting anything but a failed creation of session 0 is apart. -/
theorem emit (w : World) {i : Nat} {e : SessionEvent} (he : failedCreateOf (i, e) = false) :
    Apart w (w.emit i e) where
  sessions := rfl
  lifetime := rfl
  target := rfl
  actor := rfl
  creating := rfl
  cancelled := rfl
  config := rfl
  reachable := rfl
  log := ⟨[], by simp [World.emit], by simp⟩
  events := ⟨[(i, e)], rfl, by simpa using he⟩
  attempts := List.prefix_refl _

variable {w w' : World} (h : Apart w w')
include h

theorem creates (m : Marks) : m.creates w' = m.creates w := by
  obtain ⟨l, hl, hn⟩ := h.log
  unfold Marks.creates
  rw [hl, filter_drop_append_none _ hn]

theorem failures (m : Marks) : m.failures w' = m.failures w := by
  obtain ⟨l, hl, hn⟩ := h.events
  unfold Marks.failures
  rw [hl, filter_drop_append_none _ hn]

theorem chatId : (w'.session 0).chatId = (w.session 0).chatId := by
  unfold SessionState.chatId
  rw [h.target]

theorem lockIds : w'.lockIds = w.lockIds := by
  unfold World.lockIds
  rw [h.creating]

theorem isCancelled (t : Nat) : w'.isCancelled t = w.isCancelled t := by
  simp [World.isCancelled, h.cancelled]

theorem createsReach : w'.CreatesReach ↔ w.CreatesReach := by
  unfold World.CreatesReach
  rw [h.reachable, h.config]

/-- A creation in the log since a mark after the step was there before it. -/
theorem requests_mem {m : Nat} {r : HttpRequest} (hr : r ∈ w'.backend.log.drop m)
    (hc : r.creates = true) : r ∈ w.backend.log.drop m := by
  obtain ⟨l, hl, hn⟩ := h.log
  rw [hl, List.drop_append] at hr
  rcases List.mem_append.1 hr with hr | hr
  · exact hr
  · rw [hn r (List.mem_of_mem_drop hr)] at hc
    cases hc

end World.Apart

namespace Buying

variable {b : Buying} {w w' : World}

theorem Apart.step (h : w.Apart w') : b.Step w w' where
  log := by
    obtain ⟨l, hl, -⟩ := h.log
    exact hl ▸ List.prefix_append _ _
  events := by
    obtain ⟨l, hl, -⟩ := h.events
    exact hl ▸ List.prefix_append _ _
  attempts := h.attempts
  config := h.config
  reachable := h.reachable
  cancelled t ht := by rw [h.isCancelled]; exact ht
  attached _ := ⟨h.chatId, h.creates _, h.failures _⟩

theorem Apart.leaves (h : w.Apart w') (k : Nat) : b.Leaves k w w' where
  held hk := ⟨h.creating ▸ hk, h.creates _, h.failures _, h.chatId⟩
  handed hk := .inl (h.creating ▸ hk)
  fresh hf := h.lockIds ▸ hf

/-- A step apart from the creation keeps every task's guarantee. -/
theorem Apart.guar (h : w.Apart w') (j : Nat) : b.contract.guar j w w' :=
  ⟨Apart.step h, fun k _ => Apart.leaves h k⟩

/-- A step apart from the creation keeps the settled states where the chat is attached or no
connection is tried. -/
theorem Apart.settled_of (hs : b.Settled w) (h : w.Apart w')
    (hq : (w.session 0).chatId ≠ none ∨ w'.sockets.attempts.length = w.sockets.attempts.length) :
    b.Settled w' where
  hasSession := World.sessions_ne_nil h.sessions hs.hasSession
  lifetime := h.lifetime ▸ hs.lifetime
  live := by rw [h.isCancelled]; exact hs.live
  target := h.target ▸ hs.target
  actor := h.actor ▸ hs.actor
  requests r hr hcr := h.config ▸ hs.requests r (h.requests_mem hr hcr) hcr
  counted hreach := by
    rw [h.creates, h.failures]
    exact hs.counted (h.createsReach.1 hreach)
  unsent hreach := by
    rw [h.creates]
    exact hs.unsent fun h' => hreach (h.createsReach.2 h')
  attached hc' := by
    rw [h.creates, h.failures]
    rw [h.chatId] at hc'
    exact ⟨h.createsReach.2 (hs.attached hc').1, (hs.attached hc').2⟩
  held hn hc' := by
    rw [h.creates, h.failures, h.chatId] at *
    rw [h.creating]
    exact hs.held hn hc'
  unlinked hc' := by
    rw [h.chatId] at hc'
    rcases hq with hq | hq
    · exact absurd hc' hq
    · rw [hq]
      exact hs.unlinked hc'
  logMarked := by
    obtain ⟨l, hl, -⟩ := h.log
    rw [hl, List.length_append]
    exact Nat.le_add_right_of_le hs.logMarked
  eventsMarked := by
    obtain ⟨l, hl, -⟩ := h.events
    rw [hl, List.length_append]
    exact Nat.le_add_right_of_le hs.eventsMarked

/-- A step apart from the creation keeps the settled states where the chat is attached. -/
theorem Apart.settled (hs : b.Settled w) (hc : (w.session 0).chatId ≠ none) (h : w.Apart w') :
    b.Settled w' :=
  Apart.settled_of hs h (.inl hc)

end Buying

end MarketChat
