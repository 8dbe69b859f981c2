import MarketChat.Proofs.ContractScheduler
import MarketChat.Sim.Buyer
/-!
# The lifetime contract of a chat session

A world with one chat session (number 0) runs many processes at once: the operations a user
started, the socket link, the tasks that mark messages read and notify, the typing timer. Once
the session is closed all of them must be silent. Each checks the lifetime's token before it
acts, so the argument is made one process at a time against one `Contract`:

* `World.Settled` is the bookkeeping that holds whenever no process runs: the drawn tokens that
  are not cancelled are exactly the current lifetime, a closed session has none, a session
  without a lifetime holds no socket, and no close is half done. It also asks that the origin
  reads as a URL, as a loaded configuration's does.
* `World.Step` relates the states before and after any atomic step: the event log and the
  tokens only grow, the configuration stays, and a closed session stays closed and quiet
  (`World.Quiet`) unless an open call begins (`World.Opening`).
* `World.Silent` steps report nothing, send nothing and draw no token; `World.Calm` ones also
  keep the bookkeeping, and may be taken anywhere. `World.Acting` steps report and send; they
  are taken only while their lifetime is live (`World.Live`).

A process runs in a `Mode`: anywhere, or inside a guard of a lifetime's token, where every
resumption finds the lifetime live again.

Main definitions: `World.Settled`, `World.Closed`, `World.Quiet`, `World.Step`,
`World.lifetimeContract`, `World.Calm`, `World.Acting`, `World.Live`, `World.Mode`.
-/

namespace MarketChat

namespace World

/-! ## Sessions of a world -/

@[simp] theorem sessions_modifySession (w : World) (i : Nat) (f : SessionState → SessionState) :
    (w.modifySession i f).sessions = w.sessions.modify i f := rfl

@[simp] theorem sessionEvents_modifySession (w : World) (i : Nat)
    (f : SessionState → SessionState) :
    (w.modifySession i f).sessionEvents = w.sessionEvents := rfl

@[simp] theorem sessions_emit (w : World) (i : Nat) (e : SessionEvent) :
    (w.emit i e).sessions = w.sessions := rfl

@[simp] theorem session_emit (w : World) (i j : Nat) (e : SessionEvent) :
    (w.emit i e).session j = w.session j := rfl

@[simp] theorem sessionEvents_emit (w : World) (i : Nat) (e : SessionEvent) :
    (w.emit i e).sessionEvents = w.sessionEvents ++ [(i, e)] := rfl

/-- The first session of a world that has one is the one a change of session 0 changes. -/
theorem session_modifySession_zero {w : World} (h : w.sessions ≠ [])
    (f : SessionState → SessionState) : (w.modifySession 0 f).session 0 = f (w.session 0) := by
  obtain ⟨s, rest, hs⟩ := List.exists_cons_of_ne_nil h
  simp [World.session, World.modifySession, hs]

/-- A world whose sessions were only changed keeps having one. -/
theorem sessions_ne_nil {w w' : World} (h : w'.sessions.length = w.sessions.length)
    (hw : w.sessions ≠ []) : w'.sessions ≠ [] := by
  intro h0
  rw [h0] at h
  exact hw (by simpa using h.symm)

/-! ## Identity checks -/

/-- The request `Identity.resolve` sends to ask the backend who is signed in. -/
def IsIdentityCheck (c : ChatConfig) (r : HttpRequest) : Prop :=
  ∃ url, Api.address c "/auth/me" [] = .ok url ∧ r = { method := .get, url, credentials := true }

/-- A request log that grew by identity checks only. -/
def ChecksOnly (c : ChatConfig) (log log' : List HttpRequest) : Prop :=
  ∃ l, log' = log ++ l ∧ ∀ r ∈ l, IsIdentityCheck c r

theorem ChecksOnly.refl (c : ChatConfig) (log : List HttpRequest) : ChecksOnly c log log :=
  ⟨[], by simp, by simp⟩

theorem ChecksOnly.trans {c : ChatConfig} {l₁ l₂ l₃ : List HttpRequest}
    (h₁ : ChecksOnly c l₁ l₂) (h₂ : ChecksOnly c l₂ l₃) : ChecksOnly c l₁ l₃ := by
  obtain ⟨a, rfl, ha⟩ := h₁
  obtain ⟨b, rfl, hb⟩ := h₂
  refine ⟨a ++ b, by simp, fun r hr => ?_⟩
  rcases List.mem_append.1 hr with hr | hr
  · exact ha r hr
  · exact hb r hr

theorem ChecksOnly.check {c : ChatConfig} {log : List HttpRequest} {r : HttpRequest}
    (h : IsIdentityCheck c r) : ChecksOnly c log (log ++ [r]) :=
  ⟨[r], rfl, by simpa using h⟩

/-! ## The bookkeeping of a settled world -/

/-- An online session holds a socket's sending half. -/
def Linked (w : World) : Prop := (w.session 0).online = true → (w.session 0).outbound ≠ none

/-- What holds of the world's session whenever no process runs. -/
structure Settled (w : World) : Prop where
  hasSession : w.sessions ≠ []
  originOk : ∃ u, Url.parse w.config.origin = .ok u
  /-- The drawn tokens not cancelled are exactly the current lifetime. -/
  live_iff : ∀ t, (t < w.nextToken ∧ w.isCancelled t = false) ↔ (w.session 0).lifetime = some t
  cancelled_lt : ∀ t, w.isCancelled t = true → t < w.nextToken
  closed_dead : (w.session 0).phase = .closed → (w.session 0).lifetime = none
  dead_unlinked : (w.session 0).lifetime = none → (w.session 0).outbound = none
  linked : Linked w
  /-- A close reports the closed phase and the end in one go. -/
  notMidClose : w.sessionEvents.getLast? ≠ some (0, .phaseChanged .closed)

/-- The session is closed: every drawn token is cancelled, and the last report is not a close
half done. -/
structure Closed (w : World) : Prop where
  phase : (w.session 0).phase = .closed
  allCancelled : ∀ t < w.nextToken, w.isCancelled t = true
  notMidClose : w.sessionEvents.getLast? ≠ some (0, .phaseChanged .closed)

/-- In a settled world a session in the closed phase is closed. -/
theorem Settled.closed {w : World} (h : Settled w) (hp : (w.session 0).phase = .closed) :
    Closed w := by
  refine ⟨hp, fun t ht => ?_, h.notMidClose⟩
  cases hc : w.isCancelled t with
  | true => rfl
  | false =>
    have := (h.live_iff t).1 ⟨ht, hc⟩
    simp [h.closed_dead hp] at this

/-- Nothing the session reports or starts changed, and the requests sent are identity checks. -/
structure Quiet (w w' : World) : Prop where
  events : w'.sessionEvents = w.sessionEvents
  nextToken : w'.nextToken = w.nextToken
  attempts : w'.sockets.attempts = w.sockets.attempts
  sent : w'.sockets.sent = w.sockets.sent
  calls : w'.platform.calls = w.platform.calls
  log : ChecksOnly w.config w.backend.log w'.backend.log

theorem Quiet.refl (w : World) : Quiet w w :=
  ⟨rfl, rfl, rfl, rfl, rfl, ChecksOnly.refl _ _⟩

theorem Quiet.trans {w₁ w₂ w₃ : World} (h₁ : Quiet w₁ w₂) (h₂ : Quiet w₂ w₃)
    (hc : w₂.config = w₁.config) : Quiet w₁ w₃ :=
  ⟨h₂.events.trans h₁.events, h₂.nextToken.trans h₁.nextToken,
    h₂.attempts.trans h₁.attempts, h₂.sent.trans h₁.sent, h₂.calls.trans h₁.calls,
    h₁.log.trans (hc ▸ h₂.log)⟩

/-- An open call has begun: a lifetime was drawn, or an open refused for missing identifiers
reported it before anything else. -/
def Opening (w w' : World) : Prop :=
  w.nextToken < w'.nextToken ∨
    ∃ rest, w'.sessionEvents =
      w.sessionEvents ++ (0, .error ChatError.missingIdentifiers.message) :: rest

/-! ## Steps -/

/-- What every atomic step keeps: reports and tokens only grow, cancellations stay, the
configuration stays, and a closed session stays closed and quiet until an open call begins. -/
structure Step (w w' : World) : Prop where
  events : w.sessionEvents <+: w'.sessionEvents
  nextToken : w.nextToken ≤ w'.nextToken
  cancelled : ∀ t, w.isCancelled t = true → w'.isCancelled t = true
  config : w'.config = w.config
  closed : Closed w → (Closed w' ∧ Quiet w w') ∨ Opening w w'

theorem Step.refl (w : World) : Step w w :=
  ⟨List.prefix_refl _, Nat.le_refl _, fun _ h => h, rfl, fun h => .inl ⟨h, Quiet.refl w⟩⟩

/-- An open call that began stays begun. -/
theorem Opening.extend {w₁ w₂ w₃ : World} (h : Opening w₁ w₂) (h₂ : Step w₂ w₃) :
    Opening w₁ w₃ := by
  rcases h with h | ⟨rest, hrest⟩
  · exact .inl (Nat.lt_of_lt_of_le h h₂.nextToken)
  · obtain ⟨more, hmore⟩ := h₂.events
    exact .inr ⟨rest ++ more, by rw [← hmore, hrest]; simp⟩

/-- An open call that begins after a quiet stretch began after its start. -/
theorem Opening.of_quiet {w₁ w₂ w₃ : World} (hq : Quiet w₁ w₂) (h : Opening w₂ w₃) :
    Opening w₁ w₃ := by
  rcases h with h | ⟨rest, hrest⟩
  · exact .inl (hq.nextToken ▸ h)
  · exact .inr ⟨rest, hq.events ▸ hrest⟩

theorem Step.trans {w₁ w₂ w₃ : World} (h₁ : Step w₁ w₂) (h₂ : Step w₂ w₃) : Step w₁ w₃ := by
  refine ⟨h₁.events.trans h₂.events, Nat.le_trans h₁.nextToken h₂.nextToken,
    fun t h => h₂.cancelled t (h₁.cancelled t h), h₂.config.trans h₁.config, fun hc => ?_⟩
  rcases h₁.closed hc with ⟨hc₂, hq₁⟩ | ho
  · rcases h₂.closed hc₂ with ⟨hc₃, hq₂⟩ | ho
    · exact .inl ⟨hc₃, hq₁.trans hq₂ h₁.config⟩
    · exact .inr (ho.of_quiet hq₁)
  · exact .inr (ho.extend h₂)

/-- A step from a session that is not closed only has to keep what grows. -/
theorem Step.of_notClosed {w w' : World} (hc : ¬ Closed w)
    (he : w.sessionEvents <+: w'.sessionEvents) (hn : w.nextToken ≤ w'.nextToken)
    (hx : ∀ t, w.isCancelled t = true → w'.isCancelled t = true) (hcfg : w'.config = w.config) :
    Step w w' :=
  ⟨he, hn, hx, hcfg, fun h => absurd h hc⟩

/-- Moving the clock is a step. -/
theorem Step.setNow (w : World) (t : Nat) : Step w { w with now := t } :=
  ⟨List.prefix_refl _, Nat.le_refl _, fun _ h => h, rfl,
    fun h => .inl ⟨⟨h.phase, h.allCancelled, h.notMidClose⟩, ⟨rfl, rfl, rfl, rfl, rfl,
      ChecksOnly.refl _ _⟩⟩⟩

theorem Settled.setNow {w : World} (h : Settled w) (t : Nat) : Settled { w with now := t } :=
  ⟨h.hasSession, h.originOk, h.live_iff, h.cancelled_lt, h.closed_dead, h.dead_unlinked,
    h.linked, h.notMidClose⟩

/-- The contract of the session's lifetimes. -/
def lifetimeContract : Contract World where
  settled := Settled
  step := Step
  step_refl := Step.refl
  step_trans := Step.trans
  cancelled_of_step h hc := h.cancelled _ hc
  step_setNow := Step.setNow
  settled_setNow t h := h.setNow t

@[simp] theorem lifetimeContract_settled : lifetimeContract.settled = Settled := rfl

@[simp] theorem lifetimeContract_step : lifetimeContract.step = Step := rfl

/-! ## Steps that change nothing reported -/

/-- A step that reports nothing, sends nothing but identity checks, draws no token and leaves
the phase as it is. -/
structure Silent (w w' : World) : Prop where
  events : w'.sessionEvents = w.sessionEvents
  nextToken : w'.nextToken = w.nextToken
  cancelled : ∀ t, w.isCancelled t = true → w'.isCancelled t = true
  config : w'.config = w.config
  phase : (w'.session 0).phase = (w.session 0).phase
  attempts : w'.sockets.attempts = w.sockets.attempts
  sent : w'.sockets.sent = w.sockets.sent
  calls : w'.platform.calls = w.platform.calls
  log : ChecksOnly w.config w.backend.log w'.backend.log

theorem Silent.closed {w w' : World} (h : Silent w w') (hc : Closed w) : Closed w' :=
  ⟨h.phase ▸ hc.phase, fun t ht => h.cancelled t (hc.allCancelled t (h.nextToken ▸ ht)),
    h.events ▸ hc.notMidClose⟩

theorem Silent.step {w w' : World} (h : Silent w w') : Step w w' :=
  ⟨h.events ▸ List.prefix_refl _, h.nextToken ▸ Nat.le_refl _, h.cancelled, h.config,
    fun hc => .inl ⟨h.closed hc, ⟨h.events, h.nextToken, h.attempts, h.sent, h.calls, h.log⟩⟩⟩

/-- A silent step that also keeps the cancellations and the session's lifetime and socket:
it keeps the bookkeeping, so it may be taken anywhere. -/
structure Calm (w w' : World) : Prop extends Silent w w' where
  sameCancelled : w'.cancelled = w.cancelled
  sessions : w'.sessions.length = w.sessions.length
  lifetime : (w'.session 0).lifetime = (w.session 0).lifetime
  outbound : (w'.session 0).outbound = (w.session 0).outbound
  online : (w'.session 0).online = (w.session 0).online

theorem Calm.linked {w w' : World} (h : Calm w w') (hw : Linked w) : Linked w' := by
  unfold Linked
  rw [h.online, h.outbound]
  exact hw

theorem Calm.isCancelled {w w' : World} (h : Calm w w') (t : Nat) :
    w'.isCancelled t = w.isCancelled t := by
  simp [World.isCancelled, h.sameCancelled]

theorem Calm.settled {w w' : World} (hs : Settled w) (h : Calm w w') : Settled w' where
  hasSession := sessions_ne_nil h.sessions hs.hasSession
  originOk := h.config ▸ hs.originOk
  live_iff t := by rw [h.isCancelled, h.nextToken, h.lifetime]; exact hs.live_iff t
  cancelled_lt t := by rw [h.isCancelled, h.nextToken]; exact hs.cancelled_lt t
  closed_dead := by rw [h.phase, h.lifetime]; exact hs.closed_dead
  dead_unlinked := by rw [h.lifetime, h.outbound]; exact hs.dead_unlinked
  linked := h.linked hs.linked
  notMidClose := h.events ▸ hs.notMidClose

/-! ## Live lifetimes -/

/-- The lifetime `tok` is the session's current one, in a settled world. -/
structure Live (tok : Nat) (w : World) : Prop where
  settled : Settled w
  lifetime : (w.session 0).lifetime = some tok

theorem Live.notCancelled {tok : Nat} {w : World} (h : Live tok w) : w.isCancelled tok = false :=
  ((h.settled.live_iff tok).2 h.lifetime).2

theorem Live.drawn {tok : Nat} {w : World} (h : Live tok w) : tok < w.nextToken :=
  ((h.settled.live_iff tok).2 h.lifetime).1

theorem Live.notClosed {tok : Nat} {w : World} (h : Live tok w) : ¬ Closed w := fun hc =>
  absurd (hc.allCancelled tok h.drawn) (by simp [h.notCancelled])

/-- A drawn token that is not cancelled in a settled world is its live lifetime. -/
theorem Live.of_drawn {tok : Nat} {w : World} (hs : Settled w) (hd : tok < w.nextToken)
    (hc : w.isCancelled tok = false) : Live tok w :=
  ⟨hs, (hs.live_iff tok).1 ⟨hd, hc⟩⟩

/-- A step a live lifetime takes: it may report (but not the closed phase), send and call the
platform, and keeps the tokens, the configuration and the lifetime. -/
structure Acting (w w' : World) : Prop where
  events : ∃ l, w'.sessionEvents = w.sessionEvents ++ l ∧ (0, .phaseChanged .closed) ∉ l
  nextToken : w'.nextToken = w.nextToken
  cancelled : w'.cancelled = w.cancelled
  config : w'.config = w.config
  sessions : w'.sessions.length = w.sessions.length
  lifetime : (w'.session 0).lifetime = (w.session 0).lifetime
  phase : (w'.session 0).phase = (w.session 0).phase ∨ (w'.session 0).phase ≠ .closed
  linked : Linked w → Linked w'

theorem Calm.acting {w w' : World} (h : Calm w w') : Acting w w' :=
  ⟨⟨[], by simp [h.events], by simp⟩, h.nextToken, h.sameCancelled, h.config, h.sessions,
    h.lifetime, .inl h.phase, h.linked⟩

/-- An action taken where the session is not closed is a step. -/
theorem Acting.step_of_notClosed {w w' : World} (h : Acting w w') (hc : ¬ Closed w) :
    Step w w' := by
  obtain ⟨l, hl', -⟩ := h.events
  refine Step.of_notClosed hc (hl' ▸ List.prefix_append _ _) (Nat.le_of_eq h.nextToken.symm)
    (fun t ht => ?_) h.config
  simpa [World.isCancelled, h.cancelled] using ht

theorem Acting.step {tok : Nat} {w w' : World} (hl : Live tok w) (h : Acting w w') :
    Step w w' :=
  h.step_of_notClosed hl.notClosed

/-- An action does not leave a close half done. -/
theorem Acting.notMidClose {w w' : World} (h : Acting w w')
    (hw : w.sessionEvents.getLast? ≠ some (0, .phaseChanged .closed)) :
    w'.sessionEvents.getLast? ≠ some (0, .phaseChanged .closed) := by
  obtain ⟨l, hl', hnot⟩ := h.events
  rw [hl', List.getLast?_append]
  cases hlast : l.getLast? with
  | none => simpa using hw
  | some e =>
    simp only [Option.some_or, ne_eq, Option.some.injEq]
    rintro rfl
    exact hnot (List.mem_of_getLast? hlast)

theorem Acting.live {tok : Nat} {w w' : World} (hl : Live tok w) (h : Acting w w') :
    Live tok w' := by
  have hs := hl.settled
  have hphase : (w'.session 0).phase ≠ .closed := by
    rcases h.phase with hp | hp
    · rw [hp]
      intro hc
      have := hs.closed_dead hc
      rw [hl.lifetime] at this
      cases this
    · exact hp
  have hcan : ∀ t, w'.isCancelled t = w.isCancelled t := by simp [World.isCancelled, h.cancelled]
  refine ⟨⟨?_, h.config ▸ hs.originOk, fun t => ?_, fun t => ?_, fun hc => absurd hc hphase,
    fun hd => ?_, h.linked hs.linked, h.notMidClose hs.notMidClose⟩, h.lifetime.trans hl.lifetime⟩
  · exact sessions_ne_nil h.sessions hs.hasSession
  · rw [hcan, h.nextToken, h.lifetime]; exact hs.live_iff t
  · rw [hcan, h.nextToken]; exact hs.cancelled_lt t
  · simp [h.lifetime, hl.lifetime] at hd

/-! ## The steps the session's processes take -/

/-- A field of session 0 that a change of the session keeps stays. -/
theorem session_modifySession_field {β : Type} (w : World) (f : SessionState → SessionState)
    (g : SessionState → β) (hg : ∀ s, g (f s) = g s) :
    g ((w.modifySession 0 f).session 0) = g (w.session 0) := by
  cases h : w.sessions with
  | nil => simp [World.session, World.modifySession, h]
  | cons s rest => simp [World.session, World.modifySession, h, hg]

/-- A change of session 0 changes its state by `f`, unless the world has no session. -/
theorem session_modifySession_cases (w : World) (f : SessionState → SessionState) :
    (w.modifySession 0 f).session 0 = f (w.session 0) ∨
      (w.modifySession 0 f).session 0 = w.session 0 := by
  cases h : w.sessions with
  | nil => exact .inr (by simp [World.session, World.modifySession, h])
  | cons s rest => exact .inl (by simp [World.session, World.modifySession, h])

/-- A step away from the session: its state, reports, tokens, configuration and logs stay. -/
theorem Calm.aside {w w' : World} (hs : w'.sessions = w.sessions)
    (he : w'.sessionEvents = w.sessionEvents) (hn : w'.nextToken = w.nextToken)
    (hc : w'.cancelled = w.cancelled) (hcfg : w'.config = w.config)
    (ha : w'.sockets.attempts = w.sockets.attempts) (hsent : w'.sockets.sent = w.sockets.sent)
    (hcalls : w'.platform.calls = w.platform.calls)
    (hlog : ChecksOnly w.config w.backend.log w'.backend.log) : Calm w w' :=
  have hsess : w'.session 0 = w.session 0 := by simp [World.session, hs]
  { events := he, nextToken := hn, config := hcfg, attempts := ha, sent := hsent,
    calls := hcalls, log := hlog, sameCancelled := hc
    cancelled := fun t h => by simpa [World.isCancelled, hc] using h
    phase := by rw [hsess]
    sessions := by rw [hs]
    lifetime := by rw [hsess]
    outbound := by rw [hsess]
    online := by rw [hsess] }

/-- Changing the session's other fields (its actor, lock, timer or target) is calm. -/
theorem Calm.modifySession (w : World) {f : SessionState → SessionState}
    (hf : ∀ s, (f s).phase = s.phase ∧ (f s).lifetime = s.lifetime ∧
      (f s).outbound = s.outbound ∧ (f s).online = s.online) :
    Calm w (w.modifySession 0 f) where
  events := rfl
  nextToken := rfl
  cancelled _ h := h
  config := rfl
  phase := session_modifySession_field w f _ fun s => (hf s).1
  attempts := rfl
  sent := rfl
  calls := rfl
  log := ChecksOnly.refl _ _
  sameCancelled := rfl
  sessions := by simp
  lifetime := session_modifySession_field w f _ fun s => (hf s).2.1
  outbound := session_modifySession_field w f _ fun s => (hf s).2.2.1
  online := session_modifySession_field w f _ fun s => (hf s).2.2.2

theorem Backend.exchange_log (b : Backend) (req : HttpRequest) :
    (b.exchange req).1.log = b.log ∨ (b.exchange req).1.log = b.log ++ [req] := by
  simp only [Backend.exchange]
  split
  · exact .inl rfl
  · split
    · exact .inr rfl
    · split <;> exact .inr rfl

/-- Sending an identity check is calm. -/
theorem Calm.exchange {w : World} {req : HttpRequest} (h : IsIdentityCheck w.config req) :
    Calm w { w with backend := (w.backend.exchange req).1 } :=
  Calm.aside rfl rfl rfl rfl rfl rfl rfl rfl (by
    rcases Backend.exchange_log w.backend req with hl | hl
    · exact hl ▸ ChecksOnly.refl _ _
    · exact hl ▸ ChecksOnly.check h)

/-- A step that leaves the session, its reports, tokens and configuration: it may send, and is
an action of a live lifetime. -/
theorem Acting.aside {w w' : World} (hs : w'.sessions = w.sessions)
    (he : w'.sessionEvents = w.sessionEvents) (hn : w'.nextToken = w.nextToken)
    (hc : w'.cancelled = w.cancelled) (hcfg : w'.config = w.config) : Acting w w' :=
  have hsess : w'.session 0 = w.session 0 := by simp [World.session, hs]
  ⟨⟨[], by simp [he], by simp⟩, hn, hc, hcfg, by rw [hs], by rw [hsess], .inl (by rw [hsess]),
    fun h => by unfold Linked; rw [hsess]; exact h⟩

theorem Acting.emit (w : World) {e : SessionEvent} (he : e ≠ .phaseChanged .closed) :
    Acting w (w.emit 0 e) :=
  ⟨⟨[(0, e)], rfl, by simpa using he.symm⟩, rfl, rfl, rfl, rfl, rfl, .inl rfl, id⟩

/-- Changing the session's fields other than its phase and lifetime, keeping an online session
linked, is an action. -/
theorem Acting.modifySession (w : World) {f : SessionState → SessionState}
    (hp : ∀ s, (f s).phase = s.phase) (hl : ∀ s, (f s).lifetime = s.lifetime)
    (hk : ∀ s : SessionState, (s.online = true → s.outbound ≠ none) →
      (f s).online = true → (f s).outbound ≠ none) :
    Acting w (w.modifySession 0 f) := by
  refine ⟨⟨[], by simp, by simp⟩, rfl, rfl, rfl, by simp, session_modifySession_field w f _ hl,
    .inl (session_modifySession_field w f _ hp), fun h => ?_⟩
  unfold Linked at h ⊢
  rcases session_modifySession_cases w f with hf | hf <;> rw [hf]
  · exact hk _ h
  · exact h

theorem Acting.trans {w₁ w₂ w₃ : World} (h₁ : Acting w₁ w₂) (h₂ : Acting w₂ w₃) :
    Acting w₁ w₃ := by
  obtain ⟨l₁, hl₁, hn₁⟩ := h₁.events
  obtain ⟨l₂, hl₂, hn₂⟩ := h₂.events
  refine ⟨⟨l₁ ++ l₂, by rw [hl₂, hl₁, List.append_assoc], by simp [hn₁, hn₂]⟩,
    h₂.nextToken.trans h₁.nextToken, h₂.cancelled.trans h₁.cancelled, h₂.config.trans h₁.config,
    h₂.sessions.trans h₁.sessions, h₂.lifetime.trans h₁.lifetime, ?_,
    fun h => h₂.linked (h₁.linked h)⟩
  -- the phase ends where it began, or anywhere but closed
  rcases h₂.phase with hp₂ | hp₂
  · rcases h₁.phase with hp₁ | hp₁
    · exact .inl (hp₂.trans hp₁)
    · exact .inr (hp₂ ▸ hp₁)
  · exact .inr hp₂

/-- Entering a phase other than closed is an action. -/
theorem Acting.setPhase (w : World) {p : SessionPhase} (hp : p ≠ .closed) :
    Acting w (if (w.session 0).phase = p then w
      else (w.modifySession 0 fun s => { s with phase := p }).emit 0 (.phaseChanged p)) := by
  split
  · exact (Calm.aside rfl rfl rfl rfl rfl rfl rfl rfl (ChecksOnly.refl _ _)).acting
  · have hact := Acting.emit (w.modifySession 0 fun s => { s with phase := p })
      (e := .phaseChanged p) (fun h => hp (SessionEvent.phaseChanged.inj h))
    refine ⟨hact.events, rfl, rfl, rfl, by simp,
      session_modifySession_field w (fun s => { s with phase := p }) SessionState.lifetime
        (fun _ => rfl), .inr ?_, fun h => ?_⟩
    · rw [session_emit]
      cases h : w.sessions with
      | nil => simp [World.session, World.modifySession, h]
      | cons s rest => simpa [World.session, World.modifySession, h] using hp
    · -- the phase is not what links the session
      unfold Linked at h ⊢
      rw [session_emit]
      rcases session_modifySession_cases w (fun s => { s with phase := p }) with hf | hf <;>
        rw [hf] <;> exact h

/-- Letting go of a socket's sending half is an action. -/
theorem Acting.releaseIn (w : World) (o : Option Nat) : Acting w (Session.releaseIn w o) := by
  cases o <;> exact Acting.aside rfl rfl rfl rfl rfl

/-- Taking another socket's sending half and going on or offline is an action, when the session
goes online only with one. -/
theorem Acting.setOnline (w : World) {online : Bool} {outbound : Option Nat}
    (h : online = true → outbound ≠ none) :
    Acting w (let s := w.session 0
      let w := Session.releaseIn w s.outbound
      let w := w.modifySession 0 fun s => { s with outbound, online }
      if s.online ≠ online then w.emit 0 (.connectionChanged online) else w) := by
  have hmod := (Acting.releaseIn w (w.session 0).outbound).trans
    (Acting.modifySession (Session.releaseIn w (w.session 0).outbound)
      (f := fun s => { s with outbound, online }) (fun _ => rfl) (fun _ => rfl) fun _ _ => h)
  dsimp only
  split
  · exact hmod.trans (Acting.emit _ (by simp))
  · exact hmod

/-! ## Modes -/

/-- Where a process runs: a condition on the world that holds where it runs, that calm steps
keep, and that holds again wherever a wait under the guards `gs` resumes. -/
structure Mode (gs : List Nat) where
  holds : World → Prop
  settled : ∀ {w}, holds w → Settled w
  calm : ∀ {w w'}, holds w → Calm w w' → holds w'
  resumed : ∀ {w w₁}, holds w → lifetimeContract.Resumed gs w w₁ → holds w₁

/-- A process that may run anywhere. -/
def Mode.anywhere (gs : List Nat) : Mode gs where
  holds := Settled
  settled h := h
  calm h hc := hc.settled h
  resumed _ h := h.1

/-- A process of the lifetime `tok`, inside a guard of it: it is resumed only while `tok` is
not cancelled, so the lifetime is live again. -/
def Mode.live (tok : Nat) (gs : List Nat) (hg : tok ∈ gs) : Mode gs where
  holds := Live tok
  settled h := h.settled
  calm h hc := hc.acting.live h
  resumed h hr := Live.of_drawn hr.1 (Nat.lt_of_lt_of_le h.drawn hr.2.1.nextToken) (hr.2.2 tok hg)

/-- The lifetime `tok` has been drawn, in a settled world: what a task of the lifetime knows
wherever it runs, whether or not the lifetime has ended since. -/
structure Drawn (tok : Nat) (w : World) : Prop where
  settled : Settled w
  lt : tok < w.nextToken

/-- Where its token is not cancelled, a task of a drawn lifetime finds it live. -/
theorem Drawn.live {tok : Nat} {w : World} (h : Drawn tok w) (hc : w.isCancelled tok = false) :
    Live tok w :=
  Live.of_drawn h.settled h.lt hc

theorem Live.toDrawn {tok : Nat} {w : World} (h : Live tok w) : Drawn tok w :=
  ⟨h.settled, h.drawn⟩

/-- A cancelled token was drawn. -/
theorem Drawn.of_cancelled {tok : Nat} {w : World} (hs : Settled w)
    (hc : w.isCancelled tok = true) : Drawn tok w :=
  ⟨hs, hs.cancelled_lt tok hc⟩

/-- A drawn lifetime stays drawn. -/
theorem Drawn.later {tok : Nat} {w w' : World} (h : Drawn tok w) (hs : Settled w')
    (hstep : Step w w') : Drawn tok w' :=
  ⟨hs, Nat.lt_of_lt_of_le h.lt hstep.nextToken⟩

section Rules

variable {gs : List Nat} (m : Mode gs) {α : Type} {Q : α → World → Prop} {s : World}

/-- A calm step keeps the contract and the mode. -/
theorem Mode.calm_step {w w' : World} (hw : m.holds w) (h : Calm w w') :
    lifetimeContract.step w w' ∧ m.holds w' :=
  ⟨h.toSilent.step, m.calm hw h⟩

theorem Mode.modify_bind {f : World → World} {k : Unit → Proc World α} (hs : m.holds s)
    (hc : Calm s (f s)) (h : m.holds (f s) → lifetimeContract.Obeys gs Q (k ()) (f s)) :
    lifetimeContract.Obeys gs Q (Proc.modify f >>= k) s :=
  .modify_bind (m.calm_step hs hc).1 (h (m.calm_step hs hc).2)

theorem Mode.update_bind {β : Type} {f : World → β × World} {k : β → Proc World α}
    (hs : m.holds s) (hc : Calm s (f s).2)
    (h : m.holds (f s).2 → lifetimeContract.Obeys gs Q (k (f s).1) (f s).2) :
    lifetimeContract.Obeys gs Q (Proc.update f >>= k) s :=
  .update_bind (m.calm_step hs hc).1 (h (m.calm_step hs hc).2)

/-- A sleep keeps the mode. -/
theorem Mode.sleep {ms : Nat} (hs : m.holds s) :
    lifetimeContract.Obeys gs (fun _ => m.holds) (Proc.sleep ms) s :=
  .sleep (m.settled hs) hs fun _ h => m.resumed hs h

/-- A wait whose end is calm keeps the mode. -/
theorem Mode.await_calm {β : Type} {b : Blocker World β} (hs : m.holds s)
    (hready : ∀ w v w', b.ready w = some (v, w') → Calm w w') :
    lifetimeContract.Obeys gs (fun _ => m.holds) (Proc.await b) s :=
  .await (fun v s' hv => m.calm_step hs (hready s v s' hv)) (fun _ => m.settled hs)
    fun s₁ hres v s' hv =>
      m.calm_step (m.resumed hs hres.of_append) (hready s₁ v s' hv)

end Rules

/-! ## Requests -/

/-- The world after the backend received a request. -/
def exchanged (w : World) (req : HttpRequest) : World :=
  { w with backend := (w.backend.exchange req).1 }

/-- A mode allows a request in a configuration: receiving it in a world of that configuration
where the mode holds is a step and keeps the mode. -/
def Mode.Sends {gs : List Nat} (m : Mode gs) (c : ChatConfig) (req : HttpRequest) : Prop :=
  ∀ w, m.holds w → w.config = c →
    lifetimeContract.step w (w.exchanged req) ∧ m.holds (w.exchanged req)

/-- Every mode allows identity checks. -/
theorem Mode.sends_check {gs : List Nat} (m : Mode gs) {c : ChatConfig} {req : HttpRequest}
    (h : IsIdentityCheck c req) : m.Sends c req :=
  fun _ hw hc => m.calm_step hw (Calm.exchange (hc ▸ h))

/-- A live lifetime may send any request. -/
theorem Mode.sends_live {tok : Nat} {gs : List Nat} (hg : tok ∈ gs) (c : ChatConfig)
    (req : HttpRequest) : (Mode.live tok gs hg).Sends c req := fun w hw _ =>
  have hact : Acting w (w.exchanged req) := Acting.aside rfl rfl rfl rfl rfl
  ⟨hact.step hw, hact.live hw⟩

end World

end MarketChat
