import MarketChat.Proofs.ContractLink
/-!
# The session's operations keep the lifetime contract

Every operation a user can start on a chat session keeps `World.lifetimeContract` from any
settled world, whether the session is open, awaiting, or closed:

* `Session.teardown` cancels the lifetime's token and lets go of the socket without reporting
  anything; from a settled world it ends with every drawn token cancelled (`World.TornDown`).
* `Session.begin` tears down and draws a fresh token: the lifetime it starts is the only drawn
  token not cancelled (`World.Begun`). Reporting the opening and a phase other than closed
  then makes it live.
* `Session.close` tears down and reports the closed phase and the end, unless the session is
  closed already: it ends closed, with exactly `Session.closeEvents` reported.
* The opens, `Session.send` and `Session.inputChanged` do everything else inside guards of
  their lifetime's token, so they act only while it is live.

The steps that draw a token or report a refused open are the only ones a closed session takes
that are not quiet (`World.Opening`).

Main statements: `Session.teardown_obeys`, `Session.begin_obeys`, `Session.close_obeys`,
`Session.openListing_obeys`, `Session.openExisting_obeys`, `Session.send_obeys`,
`Session.inputChanged_obeys`.
-/

namespace MarketChat

open World Contract

namespace World

/-! ## Cancelling and drawing tokens -/

theorem isCancelled_cancel (w : World) (t t' : Nat) :
    (w.cancel t).isCancelled t' = true ↔ w.isCancelled t' = true ∨ t' = t := by
  unfold World.cancel
  split
  · next h =>
    constructor
    · exact .inl
    · rintro (h' | rfl)
      · exact h'
      · exact h
  · simp [World.isCancelled]

/-- Cancelling a token changes nothing but the cancelled tokens. -/
theorem cancel_eq (w : World) (t : Nat) :
    w.cancel t = { w with cancelled := (w.cancel t).cancelled } := by
  unfold World.cancel
  split <;> rfl

theorem Silent.cancel (w : World) (t : Nat) : Silent w (w.cancel t) := by
  rw [cancel_eq]
  exact { events := rfl, nextToken := rfl, config := rfl, phase := rfl, attempts := rfl,
          sent := rfl, calls := rfl, log := ChecksOnly.refl _ _
          cancelled := fun t' h => (isCancelled_cancel w t t').2 (.inl h) }

/-- Changing the session's fields other than its phase is silent. -/
theorem Silent.modifySession (w : World) {f : SessionState → SessionState}
    (hp : ∀ s, (f s).phase = s.phase) : Silent w (w.modifySession 0 f) where
  events := rfl
  nextToken := rfl
  cancelled _ h := h
  config := rfl
  phase := session_modifySession_field w f _ hp
  attempts := rfl
  sent := rfl
  calls := rfl
  log := ChecksOnly.refl _ _

/-- Drawing a token is a step: from a closed session it begins an open call. -/
theorem Step.freshToken (w : World) : Step w w.freshToken.2 :=
  ⟨List.prefix_refl _, Nat.le_succ _, fun _ h => h, rfl,
    fun _ => .inr (.inl (Nat.lt_succ_self _))⟩

/-- Refusing an open for missing identifiers is a step: from a closed session it is the
report an open call begins with. -/
theorem Step.refuseOpen (w : World) :
    Step w (w.emit 0 (.error ChatError.missingIdentifiers.message)) :=
  ⟨List.prefix_append _ _, Nat.le_refl _, fun _ h => h, rfl,
    fun _ => .inr (.inr ⟨[], rfl⟩)⟩

/-- A report other than the closed phase keeps the bookkeeping. -/
theorem Settled.emit {w : World} (hs : Settled w) {e : SessionEvent}
    (he : e ≠ .phaseChanged .closed) : Settled (w.emit 0 e) :=
  ⟨hs.hasSession, hs.originOk, hs.live_iff, hs.cancelled_lt, hs.closed_dead, hs.dead_unlinked,
    hs.linked, by simpa using he⟩

/-! ## Ending a lifetime -/

/-- Partway through ending the lifetime of `s`: nothing reported or drawn, every drawn token
cancelled, and the session's phase and socket as they were. -/
structure Clearing (s w : World) : Prop where
  events : w.sessionEvents = s.sessionEvents
  nextToken : w.nextToken = s.nextToken
  config : w.config = s.config
  sessions : w.sessions.length = s.sessions.length
  phase : (w.session 0).phase = (s.session 0).phase
  outbound : (w.session 0).outbound = (s.session 0).outbound
  allCancelled : ∀ t < w.nextToken, w.isCancelled t = true
  cancelled_lt : ∀ t, w.isCancelled t = true → t < w.nextToken

/-- Once its token is cancelled, a settled world's lifetime is being cleared. -/
theorem Clearing.cancel {s : World} (hs : Settled s) {t : Nat}
    (ht : (s.session 0).lifetime = some t) : Clearing s (s.cancel t) := by
  have hc := isCancelled_cancel s t
  rw [cancel_eq] at hc ⊢
  refine ⟨rfl, rfl, rfl, rfl, rfl, rfl, fun t' ht' => (hc t').2 ?_, fun t' ht' => ?_⟩
  · -- the drawn tokens other than the lifetime's were cancelled already
    by_cases h : t' = t
    · exact .inr h
    · cases hx : s.isCancelled t' with
      | true => exact .inl rfl
      | false => exact absurd (Option.some.inj ((hs.live_iff t').1 ⟨ht', hx⟩ ▸ ht)) h
  · rcases (hc t').1 ht' with h | rfl
    · exact hs.cancelled_lt t' h
    · exact ((hs.live_iff t').2 ht).1

/-- A settled world without a lifetime has nothing to cancel. -/
theorem Clearing.of_none {s : World} (hs : Settled s) (ht : (s.session 0).lifetime = none) :
    Clearing s s := by
  refine ⟨rfl, rfl, rfl, rfl, rfl, rfl, fun t h => ?_, hs.cancelled_lt⟩
  cases hx : s.isCancelled t with
  | true => rfl
  | false => simp [(hs.live_iff t).1 ⟨h, hx⟩] at ht

theorem Clearing.modifySession {s w : World} (h : Clearing s w) {f : SessionState → SessionState}
    (hp : ∀ x, (f x).phase = x.phase) (ho : ∀ x, (f x).outbound = x.outbound) :
    Clearing s (w.modifySession 0 f) :=
  ⟨h.events, h.nextToken, h.config, by simpa using h.sessions,
    (session_modifySession_field w f _ hp).trans h.phase,
    (session_modifySession_field w f _ ho).trans h.outbound, h.allCancelled, h.cancelled_lt⟩

/-- A closed session being cleared holds no socket: it had no lifetime to begin with. -/
theorem Clearing.unlinked {s w : World} (hs : Settled s) (h : Clearing s w) (hc : Closed w) :
    (w.session 0).outbound = none := by
  rw [h.outbound]
  exact hs.dead_unlinked (hs.closed_dead (h.phase ▸ hc.phase))

/-- Letting go of a sending half changes only the socket server. -/
theorem releaseIn_eq (w : World) (o : Option Nat) :
    Session.releaseIn w o = { w with sockets := (Session.releaseIn w o).sockets } := by
  cases o <;> rfl

/-- The last step of a teardown: let go of the socket's sending half and go offline. -/
def releaseSocket (w : World) : World :=
  (Session.releaseIn w (w.session 0).outbound).modifySession 0
    fun s => { s with outbound := none, online := false }

theorem releaseSocket_eq (w : World) : World.releaseSocket w =
    { w with sockets := (Session.releaseIn w (w.session 0).outbound).sockets,
             sessions := w.sessions.modify 0 fun s => { s with outbound := none, online := false } } := by
  unfold World.releaseSocket
  rw [releaseIn_eq]
  rfl

/-- Letting go of the socket is a step, provided a closed session holds none. -/
theorem Step.releaseSocket (w : World) (h : Closed w → (w.session 0).outbound = none) :
    Step w (World.releaseSocket w) := by
  by_cases hc : Closed w
  · -- nothing to let go of: only the session's fields change
    rw [releaseSocket_eq, h hc]
    exact (Silent.modifySession w (f := fun s => { s with outbound := none, online := false })
      fun _ => rfl).step
  · unfold World.releaseSocket
    exact ((Acting.releaseIn w _).trans
      (Acting.modifySession _ (f := fun s => { s with outbound := none, online := false })
        (fun _ => rfl) (fun _ => rfl) fun _ _ h => nomatch h)).step_of_notClosed hc

/-- The lifetime of `s` has ended: nothing was reported or drawn, the phase is as it was, and
the session has neither a lifetime, a live token, nor a socket, and is offline. -/
structure TornDown (s w : World) : Prop where
  events : w.sessionEvents = s.sessionEvents
  nextToken : w.nextToken = s.nextToken
  config : w.config = s.config
  sessions : w.sessions.length = s.sessions.length
  phase : (w.session 0).phase = (s.session 0).phase
  lifetime : (w.session 0).lifetime = none
  outbound : (w.session 0).outbound = none
  offline : (w.session 0).online = false
  allCancelled : ∀ t < w.nextToken, w.isCancelled t = true
  cancelled_lt : ∀ t, w.isCancelled t = true → t < w.nextToken

theorem releaseSocket_session {w : World} (h : w.sessions ≠ []) :
    (World.releaseSocket w).session 0 = { w.session 0 with outbound := none, online := false } := by
  rw [releaseSocket_eq]
  exact session_modifySession_zero h _

theorem Clearing.tornDown {s w : World} (hs : Settled s) (h : Clearing s w)
    (hl : (w.session 0).lifetime = none) : TornDown s (World.releaseSocket w) := by
  have hsess := releaseSocket_session (sessions_ne_nil h.sessions hs.hasSession)
  refine ⟨?_, ?_, ?_, ?_, by rw [hsess]; exact h.phase, by rw [hsess]; exact hl, by rw [hsess],
    by rw [hsess], ?_, ?_⟩ <;> rw [releaseSocket_eq]
  · exact h.events
  · exact h.nextToken
  · exact h.config
  · simpa using h.sessions
  · exact h.allCancelled
  · exact h.cancelled_lt

theorem TornDown.settled {s w : World} (hs : Settled s) (h : TornDown s w) : Settled w where
  hasSession := sessions_ne_nil h.sessions hs.hasSession
  originOk := h.config ▸ hs.originOk
  live_iff t := by
    simp only [h.lifetime, reduceCtorEq, iff_false, not_and, Bool.not_eq_false]
    exact h.allCancelled t
  cancelled_lt := h.cancelled_lt
  closed_dead _ := h.lifetime
  dead_unlinked _ := h.outbound
  linked hon := by simp [h.offline] at hon
  notMidClose := h.events ▸ hs.notMidClose

/-! ## Beginning a lifetime -/

/-- The lifetime `tok` has just begun: it is the session's, and the only drawn token not
cancelled. The phase is still the one before, possibly closed. -/
structure Begun (tok : Nat) (w : World) : Prop where
  hasSession : w.sessions ≠ []
  originOk : ∃ u, Url.parse w.config.origin = .ok u
  lifetime : (w.session 0).lifetime = some tok
  live_iff : ∀ t, (t < w.nextToken ∧ w.isCancelled t = false) ↔ t = tok
  cancelled_lt : ∀ t, w.isCancelled t = true → t < w.nextToken
  linked : Linked w
  notMidClose : w.sessionEvents.getLast? ≠ some (0, .phaseChanged .closed)

/-- A torn down world that draws a token and binds it to a target has begun that lifetime. -/
theorem TornDown.begun {s w : World} (hs : Settled s) (h : TornDown s w) (target : Target) :
    Begun w.nextToken (({ w with nextToken := w.nextToken + 1 } : World).modifySession 0
      fun x => { x with lifetime := some w.nextToken, target := some target }) := by
  have hne : w.sessions ≠ [] := sessions_ne_nil h.sessions hs.hasSession
  refine ⟨by simpa using hne, h.config ▸ hs.originOk, ?_, fun t => ?_, fun t ht => ?_,
    fun hon => ?_, h.events ▸ hs.notMidClose⟩
  · exact congrArg SessionState.lifetime (session_modifySession_zero hne _)
  · -- every token drawn before is cancelled; the new one is not
    show (t < w.nextToken + 1 ∧ w.isCancelled t = false) ↔ t = w.nextToken
    constructor
    · rintro ⟨hlt, hc⟩
      rcases Nat.lt_succ_iff_lt_or_eq.1 hlt with hlt | rfl
      · simp [h.allCancelled t hlt] at hc
      · rfl
    · rintro rfl
      refine ⟨Nat.lt_succ_self _, ?_⟩
      cases hc : w.isCancelled w.nextToken with
      | true => exact absurd (h.cancelled_lt _ hc) (Nat.lt_irrefl _)
      | false => rfl
  · exact Nat.lt_succ_of_lt (h.cancelled_lt t ht)
  · -- the new lifetime starts offline
    have hon' : (w.session 0).online = true :=
      (congrArg SessionState.online (session_modifySession_zero hne _)).symm.trans hon
    simp [h.offline] at hon'

theorem Begun.notClosed {tok : Nat} {w : World} (h : Begun tok w) : ¬ Closed w := fun hc => by
  have := hc.allCancelled tok ((h.live_iff tok).2 rfl).1
  simp [((h.live_iff tok).2 rfl).2] at this

/-- An action keeps a lifetime begun. -/
theorem Begun.acting {tok : Nat} {w w' : World} (h : Begun tok w) (ha : Acting w w') :
    Begun tok w' := by
  have hcan : ∀ t, w'.isCancelled t = w.isCancelled t := by
    simp [World.isCancelled, ha.cancelled]
  refine ⟨sessions_ne_nil ha.sessions h.hasSession, ha.config ▸ h.originOk,
    ha.lifetime.trans h.lifetime, fun t => ?_, fun t => ?_, ha.linked h.linked,
    ha.notMidClose h.notMidClose⟩
  · rw [hcan, ha.nextToken]; exact h.live_iff t
  · rw [hcan, ha.nextToken]; exact h.cancelled_lt t

/-- A begun lifetime in a phase other than closed is live. -/
theorem Begun.live {tok : Nat} {w : World} (h : Begun tok w)
    (hp : (w.session 0).phase ≠ .closed) : Live tok w where
  settled :=
    { hasSession := h.hasSession
      originOk := h.originOk
      live_iff := fun t => (h.live_iff t).trans ⟨fun ht => ht ▸ h.lifetime,
        fun ht => Option.some.inj (ht.symm.trans h.lifetime)⟩
      cancelled_lt := h.cancelled_lt
      closed_dead := fun hc => absurd hc hp
      dead_unlinked := fun hd => by simp [h.lifetime] at hd
      linked := h.linked
      notMidClose := h.notMidClose }
  lifetime := h.lifetime

/-- Entering a phase other than closed makes a begun lifetime live. -/
theorem Begun.setPhase {tok : Nat} {w : World} (h : Begun tok w) {p : SessionPhase}
    (hp : p ≠ .closed) :
    Live tok (if (w.session 0).phase = p then w
      else (w.modifySession 0 fun s => { s with phase := p }).emit 0 (.phaseChanged p)) := by
  refine (h.acting (Acting.setPhase w hp)).live ?_
  split
  · next heq => rw [heq]; exact hp
  · rw [session_emit, session_modifySession_zero h.hasSession]
    exact hp

/-! ## Closing -/

/-- What closing `w` reports: the closed phase and the end, unless the session is closed. -/
def closeEvents (w : World) : List (Nat × SessionEvent) :=
  if (w.session 0).phase = .closed then [] else [(0, .phaseChanged .closed), (0, .closed)]

/-- The session was closed by a close that started in `s`: the world is settled, the session
closed, and the close reported exactly `closeEvents s`. -/
structure ClosedBy (s w : World) : Prop where
  settled : Settled w
  closed : Closed w
  events : w.sessionEvents = s.sessionEvents ++ closeEvents s

/-- The report of the closed phase ends a close only once the end is reported. -/
theorem TornDown.closed {s w : World} (hs : Settled s) (h : TornDown s w)
    (hp : (s.session 0).phase ≠ .closed) :
    ClosedBy s (((w.modifySession 0 fun x => { x with phase := .closed }).emit 0
      (.phaseChanged .closed)).emit 0 .closed) := by
  have hne : w.sessions ≠ [] := sessions_ne_nil h.sessions hs.hasSession
  have hsess := session_modifySession_zero hne fun x => { x with phase := .closed }
  have hlast : (((w.modifySession 0 fun x => { x with phase := .closed }).emit 0
      (.phaseChanged .closed)).emit 0 .closed).sessionEvents.getLast? ≠
        some (0, .phaseChanged .closed) := by
    simp
  have hall : ∀ t < w.nextToken, w.isCancelled t = true := h.allCancelled
  refine ⟨⟨by simpa using hne, h.config ▸ hs.originOk, fun t => ?_, h.cancelled_lt,
    fun _ => ?_, fun _ => ?_, fun hon => ?_, hlast⟩, ⟨?_, hall, hlast⟩, ?_⟩
  · simp only [session_emit, hsess, h.lifetime, reduceCtorEq, iff_false, not_and,
      Bool.not_eq_false]
    exact hall t
  · simp only [session_emit, hsess]; exact h.lifetime
  · simp only [session_emit, hsess]; exact h.outbound
  · simp [session_emit, hsess, h.offline] at hon
  · simp only [session_emit, hsess]
  · simp [closeEvents, hp, h.events]

end World

section Lifetime

variable {gs : List Nat} {s : World}

/-- Tearing down from a settled world cancels every drawn token and lets go of the socket,
reporting nothing. -/
theorem Session.teardown_obeys (hs : Settled s) :
    lifetimeContract.Obeys gs (fun _ => TornDown s) (Session.teardown 0) s := by
  unfold Session.teardown
  refine Obeys.read_bind ?_
  lift_lets
  extract_lets letGo clearRest
  -- every branch ends by letting go of the socket
  have hletGo : ∀ w, Clearing s w → (w.session 0).lifetime = none →
      lifetimeContract.Obeys gs (fun _ => TornDown s) (letGo ()) w := fun w hw hl =>
    Obeys.modify (Step.releaseSocket w (hw.unlinked hs)) (hw.tornDown hs hl)
  -- after the token is cancelled: drop the lifetime, then the typing timer
  have hclear : ∀ w, Clearing s w →
      lifetimeContract.Obeys gs (fun _ => TornDown s) (clearRest ()) w := by
    intro w hw
    have hw₁ := hw.modifySession (f := fun x => { x with lifetime := none }) (fun _ => rfl)
      (fun _ => rfl)
    have hne : (w.modifySession 0 fun x => { x with lifetime := none }).sessions ≠ [] :=
      sessions_ne_nil hw₁.sessions hs.hasSession
    refine Obeys.modify_bind
      (Silent.modifySession w (f := fun x => { x with lifetime := none }) fun _ => rfl).step ?_
    split
    · refine Obeys.modify_bind (Silent.modifySession _ (f := fun x => { x with typingTimer := none })
        fun _ => rfl).step (Obeys.stop_bind ?_)
      refine hletGo _ (hw₁.modifySession (fun _ => rfl) (fun _ => rfl)) ?_
      rw [session_modifySession_zero (by simpa using hne), session_modifySession_zero
        (sessions_ne_nil hw.sessions hs.hasSession)]
    · refine hletGo _ hw₁ ?_
      rw [session_modifySession_zero (sessions_ne_nil hw.sessions hs.hasSession)]
  split
  · next t ht => exact Obeys.modify_bind (Silent.cancel s t).step (hclear _ (Clearing.cancel hs ht))
  · next ht =>
    refine hclear s (Clearing.of_none hs ?_)
    cases h : (s.session 0).lifetime with
    | none => rfl
    | some t => exact absurd h (ht t)

/-- Beginning a lifetime from a settled world: the one begun is the only live token. -/
theorem Session.begin_obeys (hs : Settled s) {target : Target} :
    lifetimeContract.Obeys gs (fun tok => Begun tok) (Session.begin 0 target) s := by
  unfold Session.begin
  refine (Session.teardown_obeys hs).bind fun _ w₁ h₁ => ?_
  refine Obeys.update_bind (Step.freshToken w₁) ?_
  -- binding the token changes the session's fields other than its phase
  exact Obeys.modify_bind (Silent.modifySession _
    (f := fun x => { x with lifetime := some w₁.nextToken, target := some target })
    fun _ => rfl).step (.pure (h₁.begun hs target))

/-- Closing from a settled world: it ends closed, having reported exactly `closeEvents`. -/
theorem Session.close_obeys (hs : Settled s) :
    lifetimeContract.Obeys gs (fun _ => ClosedBy s) (Session.close 0) s := by
  unfold Session.close
  refine Obeys.read_bind ?_
  split
  · next hc => exact .pure ⟨hs, hs.closed hc, by simp [closeEvents, hc]⟩
  · next hc =>
    refine (Session.teardown_obeys hs).bind fun _ w₁ h₁ => ?_
    have hp₁ : (w₁.session 0).phase ≠ .closed := h₁.phase ▸ hc
    have hne : w₁.sessions ≠ [] := sessions_ne_nil h₁.sessions hs.hasSession
    refine Obeys.modify_bind ?_ (Obeys.modify ?_ ?_) <;> simp only [if_neg hp₁]
    · exact Step.of_notClosed (fun h => hp₁ h.phase) (List.prefix_append _ _) (Nat.le_refl _)
        (fun _ h => h) rfl
    · -- half way through, the close is not over
      exact Step.of_notClosed (fun h => h.notMidClose (by simp)) (List.prefix_append _ _)
        (Nat.le_refl _) (fun _ h => h) rfl
    · exact h₁.closed hs hc

end Lifetime

/-! ## Opening -/

section Open

variable {tok : Nat} {gs : List Nat} {α : Type} {Q : α → World → Prop} {s : World}

theorem World.Begun.emit_bind {e : SessionEvent} {k : Unit → Proc World α} (hb : Begun tok s)
    (he : e ≠ .phaseChanged .closed)
    (h : Begun tok (s.emit 0 e) → lifetimeContract.Obeys gs Q (k ()) (s.emit 0 e)) :
    lifetimeContract.Obeys gs Q (Session.emit 0 e >>= k) s :=
  .modify_bind ((Acting.emit s he).step_of_notClosed hb.notClosed) (h (hb.acting (Acting.emit s he)))

theorem World.Begun.setPhase_bind {p : SessionPhase} {k : Unit → Proc World α} (hb : Begun tok s)
    (hp : p ≠ .closed) (h : ∀ s', Live tok s' → lifetimeContract.Obeys gs Q (k ()) s') :
    lifetimeContract.Obeys gs Q (Session.setPhase 0 p >>= k) s :=
  .modify_bind ((Acting.setPhase s hp).step_of_notClosed hb.notClosed) (h _ (hb.setPhase hp))

/-- Reporting an empty conversation awaits its first message. -/
theorem Session.awaitFirstMessage_obeys (hl : Live tok s) :
    lifetimeContract.Obeys gs (fun _ => Live tok) (Session.awaitFirstMessage 0) s := by
  unfold Session.awaitFirstMessage
  refine Session.emit_bind hl (by simp) fun s' hl' => ?_
  have hact := Acting.setPhase s' (p := .awaitingFirstMessage) (by simp)
  exact Obeys.modify (hact.step hl') (hact.live hl')

/-- Binding the target to a chat is calm. -/
theorem Session.attach_calm (w : World) (chatId : Int) :
    Calm w (w.modifySession 0 fun s =>
      { s with target := s.target.map fun t => { t with chatId := some chatId } }) :=
  Calm.modifySession w fun _ => ⟨rfl, rfl, rfl, rfl⟩

theorem Session.attach_bind {chatId : Int} {k : Unit → Proc World α} (hl : Live tok s)
    (h : ∀ s', Live tok s' → lifetimeContract.Obeys gs Q (k ()) s') :
    lifetimeContract.Obeys gs Q (Session.attach 0 chatId >>= k) s :=
  hl.modify_bind (Session.attach_calm s chatId).acting (h _)

/-- A chat's history is loaded and its link started while the lifetime is drawn. -/
theorem Session.follow_obeys {chatId : Int} {a : Actor} {k : Unit → Proc World α}
    (hs : Drawn tok s) (h : ∀ s', Drawn tok s' → lifetimeContract.Obeys gs Q (k ()) s') :
    lifetimeContract.Obeys gs Q
      (Session.loadHistory 0 chatId tok a >>= fun _ => Session.startLink 0 chatId tok a >>= k) s :=
  (Session.loadHistory_obeys hs).bind fun _ s' h' => Session.startLink_obeys h' (h s' h')

/-- The start of every open: a lifetime begun, the opening reported, the discovering phase
entered, and the actor resolved inside the lifetime. What follows runs where the lifetime is
live, or where it was cut short. -/
theorem Session.discover_obeys {target : Target} {e : SessionEvent} {k : Nat → Option Actor → Proc World α}
    (hs : Settled s) (he : e ≠ .phaseChanged .closed)
    (h : ∀ tok r s', lifetimeContract.Caught tok (fun _ => Live tok) r s' →
      lifetimeContract.Obeys gs Q (k tok r) s') :
    lifetimeContract.Obeys gs Q (Session.begin 0 target >>= fun tok => Session.emit 0 e >>= fun _ =>
      Session.setPhase 0 .discovering >>= fun _ => Proc.guarded tok (Session.actor 0) >>= k tok) s := by
  refine (Session.begin_obeys hs).bind fun tok w₁ hb₁ => ?_
  refine hb₁.emit_bind he fun hb₂ => ?_
  refine hb₂.setPhase_bind (by simp) fun w₃ hl₃ => ?_
  exact (Session.guarded_obeys hl₃.toDrawn fun hl =>
    Session.actor_obeys (Mode.live tok _ (List.mem_cons_self ..)) hl).bind (h tok)

/-- Opening a listing's conversation keeps the contract from any settled world. -/
theorem Session.openListing_obeys (hs : Settled s) {listingId sellerId : Option Int} :
    lifetimeContract.Obeys gs (fun _ => Settled) (Session.openListing 0 listingId sellerId) s := by
  unfold Session.openListing
  dsimp only
  split
  · refine Session.discover_obeys hs (by simp) fun tok r w₄ h₄ => ?_
    split
    · have hl₄ : Live tok w₄ := h₄
      refine (Session.guarded_obeys hl₄.toDrawn fun hl =>
        Api.findConversation_live (List.mem_cons_self ..) hl).bind fun r w₅ h₅ => ?_
      split
      · have hl₅ : Live tok w₅ := h₅
        -- a conversation found with an id is followed; any other answer awaits the first message
        split
        · split
          · refine Session.attach_bind hl₅ fun _ hl₆ => ?_
            exact Session.follow_obeys hl₆.toDrawn fun _ h => .pure h.settled
          · exact (Session.awaitFirstMessage_obeys hl₅).bind fun _ _ h => .pure h.settled
        · exact (Session.awaitFirstMessage_obeys hl₅).bind fun _ _ h => .pure h.settled
      · exact .pure (Session.caught_drawn h₅).settled
    · exact .pure (Session.caught_drawn h₄).settled
  · exact Obeys.modify_bind (Step.refuseOpen s) (.pure (hs.emit (by simp)))

/-- Opening a known chat keeps the contract from any settled world. -/
theorem Session.openExisting_obeys (hs : Settled s) {chatId : Int} {peerLabel : String} :
    lifetimeContract.Obeys gs (fun _ => Settled) (Session.openExisting 0 chatId peerLabel) s := by
  unfold Session.openExisting
  refine Session.discover_obeys hs (by simp) fun tok r w₄ h₄ => ?_
  split
  · have hl₄ : Live tok w₄ := h₄
    exact Session.follow_obeys hl₄.toDrawn fun _ h => .pure h.settled
  · exact .pure (Session.caught_drawn h₄).settled

end Open


/-! ## Sending -/

section Send

variable {tok : Nat} {gs : List Nat} {s : World}

/-- How an operation of the lifetime `tok` ends: the lifetime drawn, and live when it
succeeded. -/
structure LiveIfOk (tok : Nat) (r : Except ChatError Unit) (w : World) : Prop where
  drawn : Drawn tok w
  live : r = .ok () → Live tok w

theorem World.Live.liveIfOk {w : World} (h : Live tok w) (r : Except ChatError Unit) :
    LiveIfOk tok r w :=
  ⟨h.toDrawn, fun _ => h⟩

/-- An operation that failed ends where its lifetime is drawn. -/
theorem World.Drawn.liveIfOk {w : World} (h : Drawn tok w) (e : ChatError) :
    LiveIfOk tok (.error e) w :=
  ⟨h, fun h => nomatch h⟩

/-- A wait for a condition whose end is calm keeps the mode. -/
theorem World.Mode.waitUntil {m : Mode gs} {β : Type} {ready : World → Option (β × World)}
    {limit : Nat} (hs : m.holds s) (hready : ∀ w v w', ready w = some (v, w') → Calm w w') :
    lifetimeContract.Obeys gs (fun _ => m.holds) (Proc.waitUntil ready limit) s := by
  have hwhere : ∀ s₁, (s₁ = s ∨ lifetimeContract.Resumed gs s s₁) → m.holds s₁ := by
    rintro s₁ (rfl | hres)
    · exact hs
    · exact m.resumed hs hres
  exact Obeys.waitUntil (m.settled hs)
    (fun s₁ hw v s' hv => m.calm_step (hwhere s₁ hw) (hready s₁ v s' hv)) hwhere

/-- Taking the conversation lock, or waiting in its line, keeps the mode. -/
theorem Session.lockCreating_obeys {m : Mode gs} {me : Nat} (hs : m.holds s) :
    lifetimeContract.Obeys gs (fun _ => m.holds) (Session.lockCreating 0 me) s := by
  unfold Session.lockCreating
  refine m.update_bind hs (by
    dsimp only
    exact Calm.modifySession s fun _ => ⟨rfl, rfl, rfl, rfl⟩) fun hs₁ => ?_
  generalize (s.session 0).creating.arrive me = arrived at hs₁ ⊢
  obtain ⟨taken, l⟩ := arrived
  dsimp only at hs₁ ⊢
  split
  · refine Obeys.onAbort (m.await_calm hs₁ fun w v w' hv => ?_)
      (Calm.cleanup (f := fun w => w.modifySession 0 fun s => { s with creating := s.creating.leave me })
        fun w => Calm.modifySession w fun _ => ⟨rfl, rfl, rfl, rfl⟩)
    dsimp only at hv
    split at hv
    · cases hv
      exact Calm.aside rfl rfl rfl rfl rfl rfl rfl rfl (ChecksOnly.refl _ _)
    · cases hv
  · exact .pure hs₁

/-- Creating the conversation under the lock: it succeeds only once the socket is online, while
the lifetime is live. -/
theorem Session.createHeld_obeys {a : Actor} (hl : Live tok s) :
    lifetimeContract.Obeys gs (LiveIfOk tok) (Session.createHeld 0 tok a) s := by
  unfold Session.createHeld
  refine Obeys.read_bind ?_
  split
  · split
    · exact .pure (hl.liveIfOk _)
    · split
      · refine (Session.guarded_obeys hl.toDrawn fun hl' =>
          Api.createConversation_live (List.mem_cons_self ..) hl').bind fun r w₁ h₁ => ?_
        split
        · have hl₁ : Live tok w₁ := h₁
          lift_lets
          intro chatId online err
          unfold chatId
          split
          · refine Session.attach_bind hl₁ fun _ hl₂ => ?_
            refine Session.follow_obeys hl₂.toDrawn fun w₃ hd₃ => Obeys.read_bind ?_
            -- the wait for the socket is guarded by the lifetime
            refine (Session.guarded_obeys hd₃ fun hl₃ =>
              (Mode.live tok _ (List.mem_cons_self ..)).waitUntil hl₃ fun w v w' hv => ?_).bind
                fun r w₄ h₄ => ?_
            · dsimp only [online] at hv
              split at hv
              · cases hv
                exact Calm.aside rfl rfl rfl rfl rfl rfl rfl rfl (ChecksOnly.refl _ _)
              · cases hv
            · split
              · exact .pure (World.Live.liveIfOk h₄ _)
              · exact .pure ((Session.caught_drawn h₄).liveIfOk _)
          · exact Session.emit_bind hl₁ (by simp) fun _ h => .pure (h.toDrawn.liveIfOk _)
        · exact .pure ((Session.caught_drawn h₁).liveIfOk _)
      · exact .pure (hl.toDrawn.liveIfOk _)
  · exact .pure (hl.toDrawn.liveIfOk _)

/-- Creating the conversation of a first send: the lock is let go of however it ends. -/
theorem Session.createConversation_obeys {a : Actor} (hl : Live tok s) :
    lifetimeContract.Obeys gs (LiveIfOk tok) (Session.createConversation 0 tok a) s := by
  unfold Session.createConversation
  refine Obeys.self_bind fun me => ?_
  have hunlock : ∀ w, Calm w (w.modifySession 0 fun s => { s with creating := s.creating.leave me }) :=
    fun w => Calm.modifySession w fun _ => ⟨rfl, rfl, rfl, rfl⟩
  refine (Session.guarded_obeys hl.toDrawn fun hl' =>
    Session.lockCreating_obeys (m := Mode.live tok _ (List.mem_cons_self ..)) hl').bind
      fun r w₁ h₁ => ?_
  split
  · have hl₁ : Live tok w₁ := h₁
    refine (Obeys.onAbort (Session.createHeld_obeys hl₁) (Calm.cleanup hunlock)).bind
      fun r w₂ h₂ => ?_
    refine Obeys.modify_bind (hunlock w₂).toSilent.step (.pure ?_)
    exact ⟨h₂.drawn.later ((hunlock w₂).settled h₂.drawn.settled) (hunlock w₂).toSilent.step,
      fun h => (hunlock w₂).acting.live (h₂.live h)⟩
  · exact .pure ((Session.caught_drawn h₁).liveIfOk _)

/-- A token the session reads as its lifetime is live. -/
theorem Session.token_live (hs : Settled s)
    (h : ((s.session 0).lifetime.filter fun t => !s.isCancelled t) = some tok) : Live tok s := by
  cases hlt : (s.session 0).lifetime with
  | none => simp [hlt] at h
  | some t =>
    simp only [hlt, Option.filter_some, Bool.not_eq_eq_eq_not, Bool.not_true] at h
    split at h
    · next hc =>
      cases h
      exact ⟨hs, hlt⟩
    · cases h

theorem Session.sendTyping_obeys {typing : Bool} (hl : Live tok s) :
    lifetimeContract.Obeys gs (fun _ => Live tok) (Session.sendTyping 0 typing) s := by
  unfold Session.sendTyping
  exact Session.sendFrame_bind hl fun _ _ h => .pure h

/-- Sending keeps the contract from any settled world: it acts only inside a live lifetime. -/
theorem Session.send_obeys (hs : Settled s) {text : String} :
    lifetimeContract.Obeys gs (fun _ => Settled) (Session.send 0 text) s := by
  unfold Session.send
  lift_lets
  extract_lets text
  split
  · exact .pure hs
  · refine Obeys.read_bind ?_
    split
    · next tok htok =>
      have hl := Session.token_live hs htok
      refine (Session.guarded_obeys hl.toDrawn fun hl' =>
        Session.actor_obeys (Mode.live tok _ (List.mem_cons_self ..)) hl').bind fun r w₁ h₁ => ?_
      split
      · next a =>
        have hl₁ : Live tok w₁ := h₁
        refine Obeys.read_bind ?_
        -- the message is sent, or reported as not connected, while the lifetime is live
        have hfinish : ∀ w, Live tok w → lifetimeContract.Obeys gs (fun _ => Settled)
            (Session.sendFrame 0 (OutboundFrame.message text a.isRegistered).encode >>= fun sent =>
              if sent = true then pure (Except.ok () : Except ChatError Unit)
              else Session.emit 0 (.error ChatError.notConnected.message) >>= fun _ =>
                pure (Except.error .notConnected)) w := by
          intro w hw
          refine Session.sendFrame_bind hw fun b w' hw' => ?_
          split
          · exact .pure hw'.settled
          · exact Session.emit_bind hw' (by simp) fun _ h => .pure h.settled
        split
        · refine (Session.createConversation_obeys hl₁).bind fun r w₂ h₂ => ?_
          split
          · exact .pure h₂.drawn.settled
          · next hne =>
            cases r with
            | ok u => exact hfinish w₂ (h₂.live rfl)
            | error e => exact absurd rfl (hne e)
        · exact hfinish w₁ hl₁
      · exact .pure (Session.caught_drawn h₁).settled
    · exact .pure hs

/-- Reporting input keeps the contract from any settled world: the typing timer it starts
sends only while the lifetime is live. -/
theorem Session.inputChanged_obeys (hs : Settled s) :
    lifetimeContract.Obeys gs (fun _ => Settled) (Session.inputChanged 0) s := by
  unfold Session.inputChanged
  refine Obeys.read_bind ?_
  split
  · next tok htok =>
    have hl := Session.token_live hs htok
    refine Obeys.read_bind ?_
    split
    · exact .pure hs
    · refine (Session.sendTyping_obeys hl).bind fun _ w₁ hl₁ => Obeys.read_bind ?_
      refine Obeys.fork_bind (parked_of_obeys fun s₁ hs₁ hstep => ?_) fun timer => ?_
      · -- the timer, wherever it runs, sends the end of typing only while the lifetime is live
        refine (Session.guarded_obeys (hl₁.toDrawn.later hs₁ hstep) fun hl₂ =>
          (Mode.live tok _ (List.mem_cons_self ..)).sleep hl₂).bind fun r w₂ h₂ => ?_
        cases r with
        | some u =>
          simp only [Option.isSome_some, ↓reduceIte]
          exact (Session.sendTyping_obeys h₂).weaken fun _ _ h => h.settled
        | none => exact .pure (Session.caught_drawn h₂).settled
      · refine hl₁.update_bind (Calm.modifySession _ (f := fun s => { s with typingTimer := some timer })
          fun _ => ⟨rfl, rfl, rfl, rfl⟩).acting fun hl₂ => ?_
        split
        · exact Obeys.stop hl₂.settled
        · exact .pure hl₂.settled
  · exact .pure hs

end Send

end MarketChat
