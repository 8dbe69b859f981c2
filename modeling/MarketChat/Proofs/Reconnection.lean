import MarketChat.Proofs.ReconnectionPolicy
import MarketChat.Proofs.SessionContract
import MarketChat.Proofs.SessionRuns
/-!
# The socket link keeps its reconnection policy

Every run of a chat's link task, among any other processes that keep the sessions of the world,
follows the policy of `LinkPolicy`: its moves are the policy's, it waits only where the policy
lets it, and it ends only where the policy ends.

The proof follows the link's code, one building block at a time: connecting (`connect`), the
reload of the history (`loadHistory`), the report of a frame (`dispatch`), the reading of a
connection (`pump`, by induction on its rounds), and the loop of attempts (`linkLoop`, by
induction on its rounds). Each block is given by the stage it starts in and where it leaves the
policy. Two facts are carried along every block: session `i` exists, since the link keeps the
sessions and the others do not remove one, and the link's own moves never move the clock, so
what it does after a loss happens at the time the loss was taken.

Main statement: `Session.link_follows_reconnection_policy`.
-/

namespace MarketChat

open Monitor

/-! ## What the link's steps do to the world -/

namespace World

/-- The world once session `i` enters phase `p`, reported when it changes. -/
def enterPhase (w : World) (i : Nat) (p : SessionPhase) : World :=
  if (w.session i).phase = p then w
  else (w.modifySession i fun s => { s with phase := p }).emit i (.phaseChanged p)

/-- The world once session `i` holds another sending half and is on or offline, reported when
that changes. -/
def goOnline (w : World) (i : Nat) (online : Bool) (outbound : Option Nat) : World :=
  let w' := (Session.releaseIn w (w.session i).outbound).modifySession i
    fun s => { s with outbound, online }
  if (w.session i).online ≠ online then w'.emit i (.connectionChanged online) else w'

@[simp] theorem now_modifySession (w : World) (i : Nat) (f : SessionState → SessionState) :
    (w.modifySession i f).now = w.now := rfl

@[simp] theorem now_emit (w : World) (i : Nat) (e : SessionEvent) : (w.emit i e).now = w.now :=
  rfl

@[simp] theorem length_modifySession (w : World) (i : Nat) (f : SessionState → SessionState) :
    (w.modifySession i f).sessions.length = w.sessions.length :=
  List.length_modify ..

theorem session_modifySession_self {w : World} {i : Nat} (hi : i < w.sessions.length)
    (f : SessionState → SessionState) : (w.modifySession i f).session i = f (w.session i) := by
  simp [World.session, World.modifySession, List.getD_eq_getElem?_getD, hi]

/-- A change of session `i` that keeps its phase keeps it, whether or not the session exists. -/
theorem phase_modifySession {w : World} {i : Nat} {f : SessionState → SessionState}
    (hf : ∀ s, (f s).phase = s.phase) : ((w.modifySession i f).session i).phase =
      (w.session i).phase := by
  by_cases hi : i < w.sessions.length
  · rw [session_modifySession_self hi, hf]
  · simp [World.session, World.modifySession, List.getD_eq_getElem?_getD, Nat.not_lt.1 hi]

@[simp] theorem now_enterPhase (w : World) (i : Nat) (p : SessionPhase) :
    (w.enterPhase i p).now = w.now := by
  unfold enterPhase; split <;> rfl

@[simp] theorem length_enterPhase (w : World) (i : Nat) (p : SessionPhase) :
    (w.enterPhase i p).sessions.length = w.sessions.length := by
  unfold enterPhase
  split
  · rfl
  · simp

/-- An existing session is in the phase it enters. -/
theorem phase_enterPhase {w : World} {i : Nat} (hi : i < w.sessions.length) (p : SessionPhase) :
    ((w.enterPhase i p).session i).phase = p := by
  unfold enterPhase
  split
  · assumption
  · rw [session_emit, session_modifySession_self hi]

end World

namespace Session

theorem setPhase_eq (i : Nat) (p : SessionPhase) :
    Session.setPhase i p = Proc.modify (·.enterPhase i p) := rfl

theorem setOnline_eq (i : Nat) (online : Bool) (outbound : Option Nat) :
    Session.setOnline i online outbound = Proc.modify (·.goOnline i online outbound) := rfl

@[simp] theorem now_releaseIn (w : World) (o : Option Nat) : (releaseIn w o).now = w.now := by
  cases o <;> rfl

@[simp] theorem sessions_releaseIn (w : World) (o : Option Nat) :
    (releaseIn w o).sessions = w.sessions := by
  cases o <;> rfl

@[simp] theorem sessionEvents_releaseIn (w : World) (o : Option Nat) :
    (releaseIn w o).sessionEvents = w.sessionEvents := by
  cases o <;> rfl

/-- Letting go of a sending half leaves the log of attempts. -/
@[simp] theorem attempts_releaseIn (w : World) (o : Option Nat) :
    (releaseIn w o).sockets.attempts = w.sockets.attempts := by
  cases o with
  | none => rfl
  | some c =>
    simp only [releaseIn, SocketServer.release]
    split
    · split <;> rfl
    · rfl

end Session

namespace World

@[simp] theorem now_goOnline (w : World) (i : Nat) (online : Bool) (o : Option Nat) :
    (w.goOnline i online o).now = w.now := by
  unfold goOnline; split <;> simp

@[simp] theorem length_goOnline (w : World) (i : Nat) (online : Bool) (o : Option Nat) :
    (w.goOnline i online o).sessions.length = w.sessions.length := by
  unfold goOnline
  split <;> simp

theorem phase_goOnline (w : World) (i : Nat) (online : Bool) (o : Option Nat) :
    ((w.goOnline i online o).session i).phase = (w.session i).phase := by
  have hkeep : (((Session.releaseIn w (w.session i).outbound).modifySession i
      fun s => { s with outbound := o, online }).session i).phase = (w.session i).phase := by
    rw [phase_modifySession (f := fun s => { s with outbound := o, online }) fun _ => rfl,
      World.session, World.session, Session.sessions_releaseIn]
  unfold goOnline
  split
  · rw [session_emit, hkeep]
  · exact hkeep

end World

/-! ## Attempts and requests, restated -/

namespace World

/-- The world once an attempt to connect to `url` is logged. -/
def logAttempt (w : World) (url : String) : World :=
  { w with sockets := (w.sockets.attempt url w.now).2 }

@[simp] theorem now_logAttempt (w : World) (url : String) : (w.logAttempt url).now = w.now :=
  rfl

@[simp] theorem sessions_logAttempt (w : World) (url : String) :
    (w.logAttempt url).sessions = w.sessions := rfl

@[simp] theorem connectDelay_logAttempt (w : World) (url : String) :
    (w.logAttempt url).sockets.connectDelay = w.sockets.connectDelay := rfl

/-- The world once a connection to `url` is accepted. -/
def acceptConn (w : World) (url : String) : World :=
  { w with sockets := (w.sockets.accept url).2 }

end World

namespace Session

/-- The end of an attempt, once its answer is taken: the refusal, or the accepted connection,
numbered by the connections before it. -/
def takeAnswer (url : String) (refused : Bool) : Act (Except TransportError Nat) :=
  if refused then pure (.error (.refused url))
  else Proc.update fun w => (.ok w.sockets.conns.length, w.acceptConn url)

/-- An attempt: logged at once, refused or not as the server then does, and answered after the
server's delay. -/
theorem connect_eq (url : String) :
    Session.connect url =
      Proc.bind (Proc.update fun w => (w.sockets.refuse, w.logAttempt url)) fun refused =>
      Proc.bind (Proc.read (·.sockets.connectDelay)) fun delay =>
      if delay > 0 then Proc.bind (Proc.sleep delay) fun _ => Session.takeAnswer url refused
      else Session.takeAnswer url refused := rfl

end Session

namespace Api

/-- A request: sent by one move that changes the backend, answered after the route's delay. -/
theorem execute_eq (req : HttpRequest) :
    Api.execute req =
      Proc.bind (Proc.update fun w =>
        ((w.backend.exchange req).2, { w with backend := (w.backend.exchange req).1 })) fun r =>
      if r.1 > 0 then Proc.bind (Proc.sleep r.1) fun _ => pure r.2 else pure r.2 := rfl

/-- With no lifetime, a request goes straight to the backend. -/
theorem fetch_zero (req : HttpRequest) : Api.fetch req 0 = Api.execute req := by
  simp [Api.fetch]

end Api

/-! ## What the link's steps show -/

namespace Move

variable {i : Nat}

theorem quiet_self (b : Bool) (w : World) : Move.Quiet i ⟨b, w, w⟩ :=
  ⟨⟨by simp, by simp⟩, rfl⟩

theorem shows_emit (b : Bool) (w : World) (e : SessionEvent) :
    Move.Shows i ⟨b, w, w.emit i e⟩ [] [e] :=
  ⟨by simp [World.emit], by simp⟩

theorem shows_enterPhase (w : World) (p : SessionPhase) :
    ∃ es, Move.Shows i ⟨false, w, w.enterPhase i p⟩ [] es ∧ ∀ e ∈ es, e = .phaseChanged p := by
  unfold World.enterPhase
  split
  · exact ⟨[], ⟨by simp, by simp⟩, by simp⟩
  · exact ⟨[.phaseChanged p], ⟨by simp [World.emit, World.modifySession], by simp⟩, by simp⟩

theorem shows_goOnline (w : World) (online : Bool) (o : Option Nat) :
    ∃ es, Move.Shows i ⟨false, w, w.goOnline i online o⟩ [] es ∧
      ∀ e ∈ es, e = .connectionChanged online := by
  unfold World.goOnline
  split
  · exact ⟨[.connectionChanged online],
      ⟨by simp [World.emit, World.modifySession], by simp⟩, by simp⟩
  · exact ⟨[], ⟨by simp [World.modifySession], by simp⟩, by simp⟩

/-- Sending a request to the backend shows nothing. -/
theorem quiet_backend (b : Bool) (w : World) (backend : Backend) :
    Move.Quiet i ⟨b, w, { w with backend }⟩ :=
  ⟨⟨by simp, by simp⟩, rfl⟩

/-- Taking from or changing the sockets, other than by an attempt, shows nothing. -/
theorem quiet_sockets (b : Bool) (w : World) {so : SocketServer}
    (h : so.attempts = w.sockets.attempts) : Move.Quiet i ⟨b, w, { w with sockets := so }⟩ :=
  ⟨⟨by simp [h], by simp⟩, rfl⟩

/-- Letting go of a sending half shows nothing. -/
theorem quiet_release {i : Nat} (b : Bool) (w : World) (o : Option Nat) :
    Move.Quiet i ⟨b, w, Session.releaseIn w o⟩ :=
  ⟨⟨by simp, by simp⟩, by simp [World.session]⟩

end Move

/-! ## Following the policy, block by block -/

namespace LinkPolicy

variable {P : LinkPolicy}

/-! ### Attempts -/

/-- Reading the world is a quiet move. -/
theorem Step.read (m : LinkWatch) (w : World) : P.Step m ⟨false, w, w⟩ m :=
  .quiet rfl (Move.quiet_self false w)

/-- Where the policy stands once the answer to an attempt is taken, `n` attempts made: lost then
after a refusal, connected on the new connection otherwise. -/
def Answered (r : Nat) (again : Bool) (n : Nat) :
    Except TransportError Nat → World → LinkWatch → Prop
  | .error _, s, m => m = ⟨.lost r s.now false, n⟩
  | .ok c, _, m => m = ⟨.connected c again, n⟩

/-- Taking the answer: a refusal is lost at once, an accepted connection is taken. -/
theorem takeAnswer_follows {gs : List Nat} {url : String} {r : Nat} {again refused : Bool}
    {n due : Nat} {w : World} (hdue : w.now = due) :
    P.monitor.Follows gs (fun res s' m => w.sessions.length ≤ s'.sessions.length ∧
        Answered r again n res s' m)
      (Session.takeAnswer url refused) w ⟨if refused then .lost r due false else .accepted again, n⟩ := by
  unfold Session.takeAnswer
  cases refused with
  | true => exact .pure ⟨Nat.le_refl _, by simp [Answered, hdue]⟩
  | false =>
    exact .step _ (.join (c := { url }) rfl (Move.quiet_sockets false w rfl) rfl)
      (.pure ⟨Nat.le_refl _, rfl⟩)

/-- **An attempt follows the policy**: it is logged at once, its answer is taken when the
server's delay is over, and the policy stands where `Answered` says. -/
theorem connect_follows {gs : List Nat} {url : String} {r : Nat} {again : Bool} {n : Nat}
    {s : World} :
    P.monitor.Follows gs (fun res s' m => s.sessions.length ≤ s'.sessions.length ∧
        Answered r again (n + 1) res s' m)
      (Session.connect url) s ⟨.dial r again s.now, n⟩ := by
  rw [Session.connect_eq]
  refine Follows.update_bind
    (.attempt (a := ⟨url, s.now, s.sockets.refuse⟩) rfl ⟨rfl, by simp [World.logAttempt]⟩ rfl) ?_
  dsimp only
  by_cases hd : s.sockets.connectDelay = 0
  · -- no delay: the answer is taken as the delay is read
    refine Follows.read_bind (.answered (Move.quiet_self false _) (by simp [hd])) ?_
    rw [if_neg (by simp [hd])]
    exact (takeAnswer_follows (by simp [hd])).weaken fun _ _ _ h => h
  · refine Follows.read_bind (Step.read _ _) ?_
    rw [if_pos (by simp; omega)]
    refine Follows.sleep_bind (Step.read _ _) (fun h => absurd h hd) (fun _ => rfl)
      (fun _ _ _ _ => ⟨_, .wake rfl rfl⟩) ?_
    -- the answer comes exactly when the delay is over
    intro s₁ _ hmean hnow _
    have hdue : s₁.now = s.now + (s.logAttempt url).sockets.connectDelay := hnow
    refine ⟨_, .answered (Move.quiet_self true s₁) hdue, ?_⟩
    exact (takeAnswer_follows hdue).weaken fun _ _ _ h => ⟨Nat.le_trans hmean.kept h.1, h.2⟩

/-! ### Requests to the backend -/

/-- A request to the backend: sent by one move, then its answer is waited for where the policy
lets the link wait. -/
theorem execute_follows {gs : List Nat} {req : HttpRequest} {m₀ m₁ : LinkWatch} {s : World}
    (hsend : P.Step m₀ ⟨false, s, { s with backend := (s.backend.exchange req).1 }⟩ m₁)
    (hwait : ∀ w d, P.Rests m₁ w d) :
    P.monitor.Follows gs (fun r s' m => s.sessions.length ≤ s'.sessions.length ∧ m = m₁ ∧
        r = (s.backend.exchange req).2.2)
      (Api.execute req) s m₀ := by
  rw [Api.execute_eq]
  refine Follows.update_bind hsend ?_
  dsimp only
  split
  · refine Follows.sleep_bind (Step.read _ _) (fun h => by omega) (fun _ => hwait _ _)
      (fun _ _ _ _ => ⟨_, .wake rfl rfl⟩) ?_
    intro s₁ _ hmean _ _
    exact ⟨_, .wake rfl rfl, .pure ⟨hmean.kept, rfl, rfl⟩⟩
  · exact .pure ⟨Nat.le_refl _, rfl, rfl⟩

/-- Where the policy stands once a call of the backend with no cache returns: with no address,
the error, at once after the reading of the configuration; with one, what the backend answered, read. -/
def Called {α : Type} (path : String) (params : List (String × String))
    (request : String → HttpRequest) (answer : String → HttpResponse → Except HttpError α)
    (m₁ : LinkWatch) (next : String → Except HttpError HttpResponse → LinkWatch) (s : World)
    (res : Except HttpError α) (s' : World) (m : LinkWatch) : Prop :=
  (∃ e, Api.address s.config path params = .error e ∧ res = .error e ∧ s' = s ∧ m = m₁) ∨
  (∃ url, Api.address s.config path params = .ok url ∧
    m = next url (s.backend.exchange (request url)).2.2 ∧
    res = (s.backend.exchange (request url)).2.2.bind (answer url))

/-- A call of the backend with no cache: the configuration is read, and with an address the
request is sent by one move and its answer waited for. -/
theorem call_follows {gs : List Nat} {α : Type} {path : String} {params : List (String × String)}
    {request : String → HttpRequest} {answer : String → HttpResponse → Except HttpError α}
    {m₀ m₁ : LinkWatch} {s : World} (next : String → Except HttpError HttpResponse → LinkWatch)
    (hread : P.Step m₀ ⟨false, s, s⟩ m₁)
    (hsend : ∀ url, Api.address s.config path params = .ok url →
      P.Step m₁ ⟨false, s, { s with backend := (s.backend.exchange (request url)).1 }⟩
        (next url (s.backend.exchange (request url)).2.2))
    (hwait : ∀ url ans w d, P.Rests (next url ans) w d) :
    P.monitor.Follows gs (fun res s' m => s.sessions.length ≤ s'.sessions.length ∧
        Called path params request answer m₁ next s res s' m)
      (Api.call path params request 0 answer) s m₀ := by
  unfold Api.call
  refine Follows.read_bind hread ?_
  split
  · next e he => exact .pure ⟨Nat.le_refl _, .inl ⟨e, he, rfl, rfl, rfl⟩⟩
  · next url hurl =>
    rw [Api.fetch_zero]
    refine Follows.seq (execute_follows (hsend url hurl) (hwait url _)) ?_
    rintro r s' m ⟨hlen, rfl, rfl⟩
    split <;> exact .pure ⟨hlen, .inr ⟨url, hurl, rfl, by simp_all [Except.bind]⟩⟩

/-! ### The reload of the history -/

/-- The history the code reports is the policy's reading of the backend's answer. -/
theorem historyOf_eq (url : String) (ans : Except HttpError HttpResponse) :
    (match ans.bind (Api.expect (Reader.items Message.read) url) with
      | .ok ms => ms.map (DisplayMessage.forActor · P.actor)
      | .error _ => []) = P.historyOf url ans := by
  cases ans <;> rfl

/-- The read receipt of a reloaded history: sent when the chat has an address to mark read,
and the connection is read from then on. -/
theorem markRead_follows {gs : List Nat} {c n : Nat} {s : World} :
    P.monitor.Follows gs (fun _ s' m => s.sessions.length ≤ s'.sessions.length ∧
        m = ⟨.reading c 0, n⟩)
      (Api.markRead P.chatId P.actor.id) s ⟨.receipt c, n⟩ := by
  -- with no address the reading of the configuration is the receipt's move; with one, the POST
  cases haddr : Api.address s.config P.readPath [("user_id", P.actor.id)] with
  | error e =>
    refine (call_follows (fun _ _ => ⟨.reading c 0, n⟩)
      (.unreceipted rfl haddr (Move.quiet_self false s)) ?_ fun _ _ _ _ => trivial).weaken ?_
    · intro url hurl
      exact absurd (haddr.symm.trans hurl) (by simp)
    · rintro _ _ _ ⟨hlen, ⟨_, _, _, _, rfl⟩ | ⟨_, _, rfl, _⟩⟩ <;> exact ⟨hlen, rfl⟩
  | ok url =>
    refine (call_follows (fun _ _ => ⟨.reading c 0, n⟩) (Step.read _ _)
      (fun url hurl => .receipt rfl hurl rfl) fun _ _ _ _ => trivial).weaken ?_
    rintro _ _ _ ⟨hlen, ⟨_, he, _⟩ | ⟨_, _, rfl, _⟩⟩
    · exact absurd (haddr.symm.trans he) (by simp)
    · exact ⟨hlen, rfl⟩

/-- **The reload of the history follows the policy**: the GET of the messages, the history
reported, the read receipt; the connection is then read, unless the lifetime ended. -/
theorem loadHistory_follows {gs : List Nat} {tok c n : Nat} {s : World} :
    P.monitor.Follows gs (fun _ s' m => Runtime.cancelled s' tok = true ∨
        (s.sessions.length ≤ s'.sessions.length ∧ m = ⟨.reading c 0, n⟩))
      (Session.loadHistory P.session P.chatId tok P.actor) s ⟨.reload c, n⟩ := by
  -- the receipt ends the reload either way
  have receipt : ∀ s₂, s.sessions.length ≤ s₂.sessions.length →
      P.monitor.Follows gs (fun _ s' m => Runtime.cancelled s' tok = true ∨
          (s.sessions.length ≤ s'.sessions.length ∧ m = ⟨.reading c 0, n⟩))
        (Proc.guarded tok (Api.markRead P.chatId P.actor.id) >>= fun _ => pure ())
        s₂ ⟨.receipt c, n⟩ := by
    intro s₂ hlen
    refine Follows.seq (Follows.guarded (Step.read _ _) fun _ => markRead_follows) ?_
    rintro (_ | _) s₃ _ h
    · exact .pure (.inl h)
    · exact .pure (.inr ⟨Nat.le_trans hlen h.1, h.2⟩)
  unfold Session.loadHistory
  refine Follows.seq (Follows.guarded (Step.read _ _) fun _ =>
    call_follows (fun url ans => ⟨.fetched c url ans, n⟩) (Step.read _ _)
      (fun url hurl => .fetch rfl hurl rfl) fun _ _ _ _ => trivial) ?_
  rintro (_ | res) s₁ m₁ h
  · exact .pure (.inl h)
  obtain ⟨hlen, ⟨e, he, rfl, rfl, rfl⟩ | ⟨url, hurl, rfl, rfl⟩⟩ := h
  · exact Follows.modify_bind (.unaddressed rfl he (Move.shows_emit false _ _) (by simp))
      (receipt _ (by simp))
  · refine Follows.modify_bind (.history rfl ?_ (by simp)) (receipt _ (by simpa using hlen))
    rw [← historyOf_eq]
    exact Move.shows_emit false _ _

/-! ### Reading a connection -/

/-- Reporting an event while a connection is read. -/
theorem Step.report_emit {c k n : Nat} (w : World) (e : SessionEvent) :
    P.Step ⟨.reading c k, n⟩ ⟨false, w, w.emit P.session e⟩ ⟨.reading c k, n⟩ :=
  .report rfl (Move.shows_emit false w e) (by simp)

/-- A message from the peer only starts tasks, after reading the world. -/
theorem incoming_follows {gs : List Nat} {tok c k n : Nat} {s : World} (text : String) :
    P.monitor.Follows gs (fun _ s' m => s.sessions.length ≤ s'.sessions.length ∧
        m = ⟨.reading c k, n⟩)
      (Session.incoming P.session P.chatId tok P.actor text) s ⟨.reading c k, n⟩ := by
  unfold Session.incoming
  refine Follows.fork_bind fun _ => Follows.read_bind (Step.read _ _) ?_
  split
  · exact Follows.read_bind (Step.read _ _) (Follows.fork_bind fun _ => .pure ⟨Nat.le_refl _, rfl⟩)
  · exact .pure ⟨Nat.le_refl _, rfl⟩

/-- **A frame is reported while the connection is read**, by one move at most. -/
theorem dispatch_follows {gs : List Nat} {tok c k n : Nat} {s : World} (f : InboundFrame) :
    P.monitor.Follows gs (fun _ s' m => s.sessions.length ≤ s'.sessions.length ∧
        m = ⟨.reading c k, n⟩)
      (Session.dispatch P.session P.chatId tok P.actor f) s ⟨.reading c k, n⟩ := by
  have reported : ∀ e, P.monitor.Follows gs (fun _ s' m => s.sessions.length ≤ s'.sessions.length ∧
      m = ⟨.reading c k, n⟩) (Session.emit P.session e) s ⟨.reading c k, n⟩ :=
    fun e => .step _ (Step.report_emit s e) (.pure ⟨by simp, rfl⟩)
  cases f with
  | message msg =>
    refine Follows.modify_bind (Step.report_emit s _) ?_
    split
    · exact (incoming_follows msg.text).weaken fun _ _ _ h => ⟨by simpa using h.1, h.2⟩
    · exact .pure ⟨by simp, rfl⟩
  | typing u b =>
    rw [Session.dispatch]
    split
    · exact reported _
    · exact .pure ⟨Nat.le_refl _, rfl⟩
  | onlineUsers us => exact reported _
  | messagesRead cnt u => exact reported _
  | userDisconnected u => exact reported _
  | unknown => exact .pure ⟨Nat.le_refl _, rfl⟩

/-- Where the policy stands once a signal of connection `c` is taken at time `now`: a frame or
an error is read on, a closing signal or the end of the stream is the loss. -/
def afterSignal (c k n now : Nat) : Option SocketSignal → LinkWatch
  | some (.frame _) | some (.error _) => ⟨.reading c (k + 1), n⟩
  | _ => ⟨.lost 0 now false, n⟩

/-- Taking a signal of the connection being read. -/
theorem Step.receive {c k n : Nat} {w : World} {sig : Option SocketSignal} {so : SocketServer}
    (h : w.sockets.receive c = some (sig, so)) :
    P.Step ⟨.reading c k, n⟩ ⟨true, w, { w with sockets := so }⟩ (afterSignal c k n w.now sig) := by
  rcases sig with _ | (_ | _ | _)
  · exact .closes rfl h trivial
  · exact .take rfl h rfl id
  · exact .take rfl h rfl id
  · exact .closes rfl h trivial

/-- A signal taken from the connection is a step of the policy, and keeps the sessions. -/
theorem receive_taken {c k n : Nat} {s w w' : World} {v : Option SocketSignal}
    (hlen : s.sessions.length ≤ w.sessions.length)
    (hv : (w.sockets.receive c).map (fun (sig, so) => (sig, { w with sockets := so })) =
      some (v, w')) :
    ∃ m', P.Step ⟨.reading c k, n⟩ ⟨true, w, w'⟩ m' ∧
      s.sessions.length ≤ w'.sessions.length ∧ m' = afterSignal c k n w'.now v := by
  obtain ⟨⟨sig, so⟩, hr, heq⟩ := Option.map_eq_some_iff.1 hv
  cases heq
  exact ⟨_, Step.receive hr, hlen, rfl⟩

/-- Waiting for a signal of the connection being read. -/
theorem receive_follows {gs : List Nat} {c k n : Nat} {s : World} :
    P.monitor.Follows gs (fun sig s' m => s.sessions.length ≤ s'.sessions.length ∧
        m = afterSignal c k n s'.now sig)
      (Session.receive c) s ⟨.reading c k, n⟩ :=
  -- a signal is taken at once or once the others have sent it; the session stays either way
  Follows.await (fun _ _ hv => receive_taken (Nat.le_refl _) hv) (fun _ => trivial)
    (fun _ _ _ _ => ⟨_, .wake rfl rfl⟩) fun _ _ hmean _ _ _ hv => receive_taken hmean.kept hv

/-- Where the reading of a connection leaves the policy: stopped where the link may end, or the
connection lost at the time it was, with the session still there. -/
def Pumped (tok n : Nat) : Bool → World → LinkWatch → Prop
  | true, s', m => P.Ends tok m s'
  | false, s', m => P.session < s'.sessions.length ∧ m = ⟨.lost 0 s'.now false, n⟩

/-- **Reading a connection follows the policy**, round after round: what it brings is reported,
and it ends lost on a closing signal, or stopped where the link may end. The rounds left and the
signals taken add up to the link's rounds. -/
theorem pump_follows {gs : List Nat} {tok c n : Nat} :
    ∀ (fuel k : Nat) (s : World), P.session < s.sessions.length → k + fuel = Session.linkFuel →
      P.monitor.Follows gs (P.Pumped tok n)
        (Session.pump P.session P.chatId tok P.actor c fuel) s ⟨.reading c k, n⟩ := by
  intro fuel
  induction fuel with
  | zero =>
    intro k s _ hk
    exact .pure (.inr (show Session.linkFuel ≤ k by omega))
  | succ fuel ih =>
    intro k s hi hk
    rw [Session.pump]
    refine Follows.seq (Follows.guarded (Step.read _ _) fun _ => receive_follows) ?_
    rintro (_ | sig) s₁ m₁ h
    · exact .pure (.inl h)
    obtain ⟨hlen, rfl⟩ := h
    have hi₁ : P.session < s₁.sessions.length := by omega
    -- the rest of the reading, from the next signal on
    have rest : ∀ s₂, P.session < s₂.sessions.length →
        P.monitor.Follows gs (P.Pumped tok n)
          (Session.pump P.session P.chatId tok P.actor c fuel) s₂ ⟨.reading c (k + 1), n⟩ :=
      fun s₂ h₂ => ih (k + 1) s₂ h₂ (by omega)
    rcases sig with _ | (raw | _ | _)
    · exact .pure ⟨hi₁, rfl⟩
    · -- a frame that decodes is reported, one that does not is skipped
      dsimp only
      split
      · exact Follows.seq (dispatch_follows _) fun _ s₂ _ h =>
          h.2 ▸ rest s₂ (Nat.lt_of_lt_of_le hi₁ h.1)
      · exact rest s₁ hi₁
    · -- a transport error takes the session offline
      obtain ⟨es, hshow, -⟩ := Move.shows_goOnline (i := P.session) s₁ false none
      dsimp only
      rw [Session.setOnline_eq]
      exact Follows.modify_bind (.report rfl hshow (World.phase_goOnline ..))
        (rest _ (by simpa using hi₁))
    · exact .pure ⟨hi₁, rfl⟩

/-- Once the lifetime is over, reading a connection stops at once, wherever the policy stands. -/
theorem pump_cancelled {gs : List Nat} {tok c n : Nat} {s : World} {m : LinkWatch}
    (hc : Runtime.cancelled s tok = true) (fuel : Nat) :
    P.monitor.Follows gs (P.Pumped tok n)
      (Session.pump P.session P.chatId tok P.actor c fuel) s m := by
  cases fuel with
  | zero => exact .pure (.inl hc)
  | succ fuel =>
    rw [Session.pump]
    refine Follows.seq (Q := Caught tok fun _ _ _ => False)
      (Follows.guarded (Step.read _ _) fun h => absurd hc (by simp [h])) ?_
    rintro (_ | _) s₁ _ h
    · exact .pure (.inl h)
    · exact h.elim

/-! ### After a loss, and the loop of attempts -/

/-- The wait of a Reconnecting link: the delay after the loss, when the next attempt is due. -/
theorem retryWait_follows {gs : List Nat} {r since n : Nat} {s : World} (hr : r < P.ceiling)
    (hph : (s.session P.session).phase = .reconnecting) (hnow : s.now = since) :
    P.monitor.Follows gs (fun _ s' m => s.sessions.length ≤ s'.sessions.length ∧
        s'.now = since + P.delay ∧ m = ⟨.dial (r + 1) true (since + P.delay), n⟩)
      (Proc.sleep P.delay) s ⟨.lost r since true, n⟩ := by
  rw [← Proc.bind_pure (Proc.sleep P.delay)]
  refine Follows.sleep_bind (Step.read _ _) (fun hd => ?_) (fun _ => ⟨rfl, hr, hph, ?_⟩)
    (fun _ _ _ _ => ⟨_, .wake rfl rfl⟩) fun s₁ _ hmean hnow₁ _ => ?_
  · exact ⟨_, .retry rfl hr, .pure ⟨Nat.le_refl _, by omega, rfl⟩⟩
  · exact congrArg (some <| · + P.delay) hnow
  · have hdue : s₁.now = s.now + P.delay := hnow₁
    exact ⟨_, .retry rfl hr, .pure ⟨hmean.kept, by omega, rfl⟩⟩

/-- **After a loss the link follows the policy**: it gives up in Disconnected once the retries
reach the ceiling, and otherwise enters Reconnecting and waits the delay after the loss before
the next attempt, unless the lifetime ends first. -/
theorem afterLoss_follows {gs : List Nat} {url : String} {tok fuel r n since : Nat}
    {marked : Bool} {s : World} (hi : P.session < s.sessions.length) (hnow : s.now = since)
    (hnext : ∀ s', P.session < s'.sessions.length → s'.now = since + P.delay →
      P.monitor.Follows gs (fun _ s' m => P.Ends tok m s')
        (Session.linkLoop P.session P.chatId tok P.actor url P.ceiling P.delay fuel (r + 1) true)
        s' ⟨.dial (r + 1) true (since + P.delay), n⟩) :
    P.monitor.Follows gs (fun _ s' m => P.Ends tok m s')
      (do
        let cancelled ← Session.cancelled tok
        if cancelled = true then pure ()
        else if r ≥ P.ceiling then do
          Session.setPhase P.session SessionPhase.disconnected
          pure ()
        else do
          Session.setPhase P.session SessionPhase.reconnecting
          let slept ← Proc.guarded tok (Proc.sleep P.delay)
          match slept with
          | some _ =>
            Session.linkLoop P.session P.chatId tok P.actor url P.ceiling P.delay fuel (r + 1) true
          | _ => pure ()) s ⟨.lost r since marked, n⟩ := by
  refine Follows.read_bind (Step.read _ _) ?_
  split
  · next hc => exact .pure (.inl hc)
  split
  · -- no retry left
    next hr =>
    obtain ⟨es, hshow, hes⟩ := Move.shows_enterPhase (i := P.session) s .disconnected
    have hph := World.phase_enterPhase hi .disconnected
    rw [Session.setPhase_eq]
    exact Follows.modify_bind (.giveUp rfl hr hshow hes hph) (.pure (.inr hph))
  · -- a retry, once the delay after the loss is over
    next hr =>
    have hlt : r < P.ceiling := Nat.lt_of_not_le hr
    obtain ⟨es, hshow, hes⟩ := Move.shows_enterPhase (i := P.session) s .reconnecting
    have hph := World.phase_enterPhase hi .reconnecting
    rw [Session.setPhase_eq]
    refine Follows.modify_bind
      (.mark rfl hshow (fun e he => .inr ⟨hlt, hes e he⟩) (.inr ⟨hlt, hph⟩)) ?_
    rw [decide_eq_true hph]
    refine Follows.seq (Follows.guarded (Step.read _ _) fun _ =>
      retryWait_follows hlt hph (by rw [World.now_enterPhase, hnow])) ?_
    rintro (_ | _) s₁ _ h
    · exact .pure (.inl h)
    · obtain ⟨hlen, hnow₁, rfl⟩ := h
      exact hnext s₁ (by simp at hlen; omega) hnow₁

/-- **A connection is read, then lost, following the policy**: the link reads it until it
closes, goes offline, and goes on as after any loss; it stops where the reading stopped, or once
the lifetime is over. -/
theorem connection_follows {gs : List Nat} {url : String} {tok fuel c n : Nat} {s : World}
    {m : LinkWatch}
    (hm : (P.session < s.sessions.length ∧ m = ⟨.reading c 0, n⟩) ∨
      Runtime.cancelled s tok = true)
    (hnext : ∀ since s', P.session < s'.sessions.length → s'.now = since + P.delay →
      P.monitor.Follows gs (fun _ s' m => P.Ends tok m s')
        (Session.linkLoop P.session P.chatId tok P.actor url P.ceiling P.delay fuel (0 + 1) true)
        s' ⟨.dial (0 + 1) true (since + P.delay), n⟩) :
    P.monitor.Follows gs (fun _ s' m => P.Ends tok m s')
      (do
        let stopped ← Session.pump P.session P.chatId tok P.actor c Session.linkFuel
        let cancelled ← Session.cancelled tok
        if (stopped || cancelled) = true then pure ()
        else do
          Session.setOnline P.session false none
          let attempts ← pure 0
          let cancelled ← Session.cancelled tok
          if cancelled = true then pure ()
          else if attempts ≥ P.ceiling then do
            Session.setPhase P.session SessionPhase.disconnected
            pure ()
          else do
            Session.setPhase P.session SessionPhase.reconnecting
            let slept ← Proc.guarded tok (Proc.sleep P.delay)
            match slept with
            | some _ =>
              Session.linkLoop P.session P.chatId tok P.actor url P.ceiling P.delay fuel
                (attempts + 1) true
            | _ => pure ()) s m := by
  have hpump : P.monitor.Follows gs (P.Pumped tok n)
      (Session.pump P.session P.chatId tok P.actor c Session.linkFuel) s m := by
    rcases hm with ⟨hi, rfl⟩ | hc
    · exact pump_follows _ 0 s hi (Nat.zero_add _)
    · exact pump_cancelled hc _
  refine Follows.seq hpump ?_
  rintro stopped s₁ m₁ h
  refine Follows.read_bind (Step.read _ _) ?_
  cases stopped with
  | true => exact .pure h
  | false =>
    obtain ⟨hi₁, rfl⟩ := h
    split
    · next hc =>
      rw [Bool.false_or] at hc
      exact .pure (.inl hc)
    -- the loss: offline first, then as after any loss
    obtain ⟨es, hshow, hes⟩ := Move.shows_goOnline (i := P.session) s₁ false none
    rw [Session.setOnline_eq]
    refine Follows.modify_bind
      (.mark rfl hshow (fun e he => .inl (hes e he)) (.inl (World.phase_goOnline ..))) ?_
    exact afterLoss_follows (by simpa using hi₁) (World.now_goOnline ..) (hnext _)

/-- **The loop of attempts follows the policy**, from an attempt due when it starts; the rounds
left and the attempts made add up to the link's rounds. -/
theorem linkLoop_follows {gs : List Nat} {url : String} {tok : Nat} :
    ∀ (fuel r n : Nat) (again : Bool) (due : Nat) (s : World), P.session < s.sessions.length →
      s.now = due → n + fuel = Session.linkFuel + P.ceiling →
      P.monitor.Follows gs (fun _ s' m => P.Ends tok m s')
        (Session.linkLoop P.session P.chatId tok P.actor url P.ceiling P.delay fuel r again) s
        ⟨.dial r again due, n⟩ := by
  intro fuel
  induction fuel with
  | zero =>
    intro r n again due s _ _ hn
    exact .pure (.inr (show Session.linkFuel + P.ceiling ≤ n by omega))
  | succ fuel ih =>
    intro r n again due s hi hdue hn
    subst hdue
    rw [Session.linkLoop]
    refine Follows.seq (Follows.guarded (Step.read _ _) fun _ => connect_follows) ?_
    rintro (_ | res) s₁ m₁ h
    · exact .pure (.inl h)
    obtain ⟨hlen, hans⟩ := h
    have hi₁ : P.session < s₁.sessions.length := by omega
    -- the rounds after this attempt
    have hnext : ∀ r' since s', P.session < s'.sessions.length → s'.now = since + P.delay →
        P.monitor.Follows gs (fun _ s' m => P.Ends tok m s')
          (Session.linkLoop P.session P.chatId tok P.actor url P.ceiling P.delay fuel (r' + 1) true)
          s' ⟨.dial (r' + 1) true (since + P.delay), n + 1⟩ :=
      fun r' _ s' hi' hnow' => ih (r' + 1) (n + 1) true _ s' hi' hnow' (by omega)
    dsimp only
    cases res with
    | error e =>
      -- refused: a loss at the time of the answer
      subst hans
      exact afterLoss_follows hi₁ rfl (hnext r s₁.now)
    | ok c =>
      subst hans
      refine Follows.read_bind (Step.read _ _) ?_
      split
      · -- the lifetime ended while connecting: the connection is let go
        next hc => exact Follows.modify_bind (.quiet rfl (Move.quiet_release false s₁ _)) (.pure (.inl hc))
      -- online, then Connected
      obtain ⟨es, hshow, hes⟩ := Move.shows_goOnline (i := P.session) s₁ true (some c)
      rw [Session.setOnline_eq]
      refine Follows.modify_bind (.online rfl hshow hes (World.phase_goOnline ..)) ?_
      have hi₂ : P.session < (s₁.goOnline P.session true (some c)).sessions.length := by simpa
      obtain ⟨es', hshow', hes'⟩ :=
        Move.shows_enterPhase (i := P.session) (s₁.goOnline P.session true (some c)) .connected
      rw [Session.setPhase_eq]
      refine Follows.modify_bind (.settle rfl hshow' hes' (World.phase_enterPhase hi₂ _)) ?_
      -- a reconnection reloads the history before reading
      cases again with
      | true =>
        refine Follows.seq loadHistory_follows fun _ s₄ m₄ h => connection_follows ?_ (hnext 0)
        rcases h with hc | ⟨hlen₄, rfl⟩
        · exact .inr hc
        · exact .inl ⟨by simp at hlen₄; omega, rfl⟩
      | false => exact connection_follows (.inl ⟨by simpa using hi₂, rfl⟩) (hnext 0)

/-- A run of the link of the lifetime `tok`, from `s` by the moves `tr` to `q` in `s'`, kept the
policy: the policy follows its moves from the lifetime's first attempt, due at once, and it
waits and ends only where the policy lets it. -/
def Kept (tok : Nat) (s : World) (tr : List (Move World)) (q : Act Unit) (s' : World) : Prop :=
  ∃ m, P.monitor.Accepts ⟨.dial 0 false s.now, 0⟩ tr m ∧
    (q.Waiting s' → P.Rests m s' q.deadline?) ∧ (q = .pure () → P.Ends tok m s')

end LinkPolicy

/-! ## The link -/

/-- The link of a chat follows the policy of the configuration it reads as it starts. -/
theorem Session.link_follows {i : Nat} {chatId : Int} {tok : Nat} {a : Actor} {s : World}
    (hi : i < s.sessions.length) :
    (LinkPolicy.ofConfig i chatId a s.config).monitor.Follows []
      (fun _ s' m => (LinkPolicy.ofConfig i chatId a s.config).Ends tok m s')
      (Session.link i chatId tok a) s ⟨.dial 0 false s.now, 0⟩ := by
  unfold Session.link
  refine Follows.read_bind (LinkPolicy.Step.read _ _) ?_
  split
  · -- no socket address: the link gives up at once
    next e he =>
    obtain ⟨es, hshow, hes⟩ := Move.shows_enterPhase (i := i) s .disconnected
    have hph := World.phase_enterPhase hi .disconnected
    rw [Session.setPhase_eq]
    exact .step _ (.unaddressable rfl he hshow hes hph) (.pure (.inr hph))
  · exact LinkPolicy.linkLoop_follows _ 0 0 false _ s hi rfl (Nat.zero_add _)

/-- **The link keeps its reconnection policy.** Every run of the link task of a chat whose
session exists, among other processes that keep the sessions, keeps the policy of the
configuration it starts with: each connection attempt is made when due, the retries after a
loss never exceed the ceiling (`LinkPolicy.retries_le_ceiling`), each waits the reconnection
delay after the loss in Reconnecting, and once the link gives up in Disconnected it makes no
further attempt (`LinkPolicy.no_attempt_after_giving_up`). -/
theorem Session.link_follows_reconnection_policy {i : Nat} {chatId : Int} {tok : Nat}
    {a : Actor} {s : World} {tr : List (Move World)} {q : Act Unit} {s' : World}
    (hi : i < s.sessions.length)
    (hrun : Proc.Runs World.KeepsSessions (Session.link i chatId tok a) s tr q s') :
    (LinkPolicy.ofConfig i chatId a s.config).Kept tok s tr q s' := by
  obtain ⟨m, hacc, hq⟩ := (Session.link_follows hi).runs hrun
  refine ⟨m, hacc, fun hw => hq.rests hw, ?_⟩
  rintro rfl
  exact hq.ended

/-- The link of the fresh session of a world with the origin x:, as it starts. -/
theorem Session.link_keeps_policy_at_start :
    (LinkPolicy.ofConfig 0 1 ⟨"u", true⟩ (World.withOrigin "x:").config).Kept 0
      (World.withOrigin "x:") [] (Session.link 0 1 0 ⟨"u", true⟩) (World.withOrigin "x:") :=
  Session.link_follows_reconnection_policy (by decide) (.refl _ _)

end MarketChat
