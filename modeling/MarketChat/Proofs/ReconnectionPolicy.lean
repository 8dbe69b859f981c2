import MarketChat.Proofs.Monitors
import MarketChat.Session.Link
/-!
# The reconnection policy of a chat's socket link

The link task of a lifetime connects to the chat's socket, reads it, and reconnects. Its policy
is a monitor of the link's moves (`LinkPolicy.monitor`), with the ceiling `N` of retries and the
delay `D` before each:

* the first attempt is made at once; the answer to an attempt comes after the server's
  connection delay; with no socket address for the chat, the session is left Disconnected and
  no attempt is made;
* an accepted connection is taken, the session goes online and enters Connected; unless it was
  the lifetime's first attempt, the history is then reloaded: a GET of the chat's messages is
  sent, its answer is reported as HistoryLoaded, and the read receipt is sent, all before the
  connection is read;
* while a connection is read, its signals are taken one by one: frames and transport errors may
  be reported, but the connection is lost only when it closes or its stream ends;
* after a lost connection or a refused attempt, with `r` retries made since the last accepted
  connection (or since the start): while `r < N` the session is left Reconnecting and the next
  attempt, retry `r + 1`, is made exactly `D` after the loss was taken; once `r = N` the session
  is left Disconnected and no attempt follows.

Where the policy may end (`LinkPolicy.Ends`): when the lifetime is over, after giving up, or when
the link's rounds run out (`Session.linkFuel` connections beyond the retries, or `linkFuel`
signals of one connection).

The link is looked at among other processes that may do anything while it waits, except move
time past its deadline, take back a cancellation, or remove a session (`World.KeepsSessions`),
so the policy is one of each link on its own.

Main definitions: `LinkStage`, `LinkWatch`, `LinkPolicy.Step`, `LinkPolicy.monitor`,
`LinkPolicy.Ends`. Main statements: `LinkPolicy.retries_le_ceiling`,
`LinkPolicy.no_attempt_after_giving_up`.
-/

namespace MarketChat

/-- Other processes may add sessions but never remove one. -/
def World.KeepsSessions (w w' : World) : Prop := w.sessions.length ≤ w'.sessions.length

/-- What a move shows in the two logs a link writes: the connection attempts it logs, and the
events it reports for session `i`. -/
structure Move.Shows (i : Nat) (mv : Move World) (attempts : List ConnectAttempt)
    (events : List SessionEvent) : Prop where
  attempts_eq : mv.after.sockets.attempts = mv.before.sockets.attempts ++ attempts
  events_eq : mv.after.sessionEvents = mv.before.sessionEvents ++ events.map (i, ·)

/-- A move that shows nothing: no attempt, no event, and session `i` stays in its phase. -/
def Move.Quiet (i : Nat) (mv : Move World) : Prop :=
  mv.Shows i [] [] ∧ (mv.after.session i).phase = (mv.before.session i).phase

/-- What a receive takes when it ends the reading of a connection: the closing signal, or
nothing at the end of the stream. -/
def SocketSignal.Ends : Option SocketSignal → Prop
  | none => True
  | some (.closed _ _) => True
  | some _ => False

/-- Where a link stands in its policy. `retries` counts the retries made since the last
accepted connection, or since the start; `again` says the attempt is not the lifetime's
first. -/
inductive LinkStage where
  /-- An attempt is to be made at `due`. -/
  | dial (retries : Nat) (again : Bool) (due : Nat)
  /-- The attempt is made; its answer, a refusal or not, comes at `due`. -/
  | answer (retries : Nat) (again : Bool) (refused : Bool) (due : Nat)
  /-- The attempt was accepted; the connection is to be taken. -/
  | accepted (again : Bool)
  /-- The connection `conn` is taken; the session goes online and enters Connected. -/
  | connected (conn : Nat) (again : Bool)
  /-- The history is to be reloaded before `conn` is read. -/
  | reload (conn : Nat)
  /-- The GET of the history went to `url`, and the backend gives `answer`. -/
  | fetched (conn : Nat) (url : String) (answer : Except HttpError HttpResponse)
  /-- The history is reported; the read receipt is to be sent. -/
  | receipt (conn : Nat)
  /-- The signals of `conn` are read; `reads` were taken. -/
  | reading (conn : Nat) (reads : Nat)
  /-- A connection was lost, or an attempt refused, at `since`, after `retries` retries;
  `marked`: the link's last move left the session Reconnecting. -/
  | lost (retries : Nat) (since : Nat) (marked : Bool)
  /-- The link gave up. -/
  | gaveUp

/-- The stage keeps its retries within the ceiling `N`. -/
def LinkStage.Within (N : Nat) : LinkStage → Prop
  | .dial r _ _ => r ≤ N
  | .answer r _ _ _ => r ≤ N
  | .lost r _ _ => r ≤ N
  | _ => True

/-- The state of the policy: the stage, and the number of attempts made. -/
structure LinkWatch where
  stage : LinkStage
  made : Nat

/-- What a link's policy is about: its session, its chat, the actor the history is shown for,
the ceiling of retries and the delay before each. -/
structure LinkPolicy where
  session : Nat
  chatId : Int
  actor : Actor
  ceiling : Nat
  delay : Nat

namespace LinkPolicy

variable (P : LinkPolicy)

/-- The policy of the link of session `i` on a chat, under a configuration. -/
def ofConfig (i : Nat) (chatId : Int) (a : Actor) (c : ChatConfig) : LinkPolicy :=
  ⟨i, chatId, a, c.maxReconnectAttempts, c.reconnectDelayMs⟩

/-- The path of the chat's messages. -/
def messagesPath : String := "/chat/chats/" ++ toString P.chatId ++ "/messages"

/-- The path that marks the chat read. -/
def readPath : String := "/chat/chats/" ++ toString P.chatId ++ "/read"

/-- The GET of the chat's messages at an address. -/
def historyRequest (url : String) : HttpRequest := { method := .get, url }

/-- The read receipt at an address. -/
def receiptRequest (url : String) : HttpRequest := { method := .post, url }

/-- The history the backend's answer to the GET gives: its messages shown for the actor, or
none when the GET failed. -/
def historyOf (url : String) : Except HttpError HttpResponse → List DisplayMessage
  | .ok resp =>
    match Api.expect (Reader.items Message.read) url resp with
    | .ok ms => ms.map (DisplayMessage.forActor · P.actor)
    | .error _ => []
  | .error _ => []

/-- The moves the policy allows, stage by stage. -/
inductive Step : LinkWatch → Move World → LinkWatch → Prop
  /-- Reading the world, taking or letting go of a socket: nothing is shown. -/
  | quiet {m : LinkWatch} {mv : Move World} :
      mv.woke = false → mv.Quiet P.session → Step m mv m
  /-- A wait ends without taking anything. -/
  | wake {m : LinkWatch} {mv : Move World} :
      mv.woke = true → mv.after = mv.before → Step m mv m
  /-- With no socket address for the chat, the link gives up at once in Disconnected. -/
  | unaddressable {due n : Nat} {mv : Move World} {e : HttpError} {es : List SessionEvent} :
      mv.woke = false → Api.socketUrl mv.before.config P.chatId P.actor.id = .error e →
      mv.Shows P.session [] es → (∀ e ∈ es, e = .phaseChanged .disconnected) →
      (mv.after.session P.session).phase = .disconnected →
      Step ⟨.dial 0 false due, n⟩ mv ⟨.gaveUp, n⟩
  /-- The attempt is made at its time; its answer comes after the server's delay. -/
  | attempt {r : Nat} {again : Bool} {due n : Nat} {mv : Move World} {a : ConnectAttempt} :
      mv.woke = false → mv.Shows P.session [a] [] → a.time = due →
      Step ⟨.dial r again due, n⟩ mv
        ⟨.answer r again a.refused (due + mv.after.sockets.connectDelay), n + 1⟩
  /-- The answer is taken at its time. -/
  | answered {r : Nat} {again refused : Bool} {due n : Nat} {mv : Move World} :
      mv.Quiet P.session → mv.before.now = due →
      Step ⟨.answer r again refused due, n⟩ mv
        ⟨if refused then .lost r due false else .accepted again, n⟩
  /-- The accepted connection is taken; it is numbered by the connections before it. -/
  | join {again : Bool} {n : Nat} {mv : Move World} {c : Connection} :
      mv.woke = false → mv.Quiet P.session →
      mv.after.sockets.conns = mv.before.sockets.conns ++ [c] →
      Step ⟨.accepted again, n⟩ mv ⟨.connected mv.before.sockets.conns.length again, n⟩
  /-- The session goes online. -/
  | online {c : Nat} {again : Bool} {n : Nat} {mv : Move World} {es : List SessionEvent} :
      mv.woke = false → mv.Shows P.session [] es → (∀ e ∈ es, e = .connectionChanged true) →
      (mv.after.session P.session).phase = (mv.before.session P.session).phase →
      Step ⟨.connected c again, n⟩ mv ⟨.connected c again, n⟩
  /-- The session enters Connected; a reconnection reloads the history before reading. -/
  | settle {c : Nat} {again : Bool} {n : Nat} {mv : Move World} {es : List SessionEvent} :
      mv.woke = false → mv.Shows P.session [] es → (∀ e ∈ es, e = .phaseChanged .connected) →
      (mv.after.session P.session).phase = .connected →
      Step ⟨.connected c again, n⟩ mv ⟨if again then .reload c else .reading c 0, n⟩
  /-- The GET of the chat's messages is sent; what the backend answers is kept. -/
  | fetch {c n : Nat} {mv : Move World} {url : String} :
      mv.woke = false → Api.address mv.before.config P.messagesPath [] = .ok url →
      mv.after = { mv.before with
        backend := (mv.before.backend.exchange (historyRequest url)).1 } →
      Step ⟨.reload c, n⟩ mv
        ⟨.fetched c url (mv.before.backend.exchange (historyRequest url)).2.2, n⟩
  /-- With no address for the messages, the empty history is reported. -/
  | unaddressed {c n : Nat} {mv : Move World} {e : HttpError} :
      mv.woke = false → Api.address mv.before.config P.messagesPath [] = .error e →
      mv.Shows P.session [] [.historyLoaded []] →
      (mv.after.session P.session).phase = (mv.before.session P.session).phase →
      Step ⟨.reload c, n⟩ mv ⟨.receipt c, n⟩
  /-- The answer to the GET is reported as the history. -/
  | history {c : Nat} {url : String} {answer : Except HttpError HttpResponse} {n : Nat}
      {mv : Move World} :
      mv.woke = false → mv.Shows P.session [] [.historyLoaded (P.historyOf url answer)] →
      (mv.after.session P.session).phase = (mv.before.session P.session).phase →
      Step ⟨.fetched c url answer, n⟩ mv ⟨.receipt c, n⟩
  /-- The read receipt is sent. -/
  | receipt {c n : Nat} {mv : Move World} {url : String} :
      mv.woke = false → Api.address mv.before.config P.readPath [("user_id", P.actor.id)] = .ok url →
      mv.after = { mv.before with
        backend := (mv.before.backend.exchange (receiptRequest url)).1 } →
      Step ⟨.receipt c, n⟩ mv ⟨.reading c 0, n⟩
  /-- With no address to mark the chat read, nothing is sent. -/
  | unreceipted {c n : Nat} {mv : Move World} {e : HttpError} :
      mv.woke = false →
      Api.address mv.before.config P.readPath [("user_id", P.actor.id)] = .error e →
      mv.Quiet P.session → Step ⟨.receipt c, n⟩ mv ⟨.reading c 0, n⟩
  /-- While a connection is read, what it brings is reported; no attempt is made. -/
  | report {c k n : Nat} {mv : Move World} {es : List SessionEvent} :
      mv.woke = false → mv.Shows P.session [] es →
      (mv.after.session P.session).phase = (mv.before.session P.session).phase →
      Step ⟨.reading c k, n⟩ mv ⟨.reading c k, n⟩
  /-- A signal that does not end the connection is taken. -/
  | take {c k n : Nat} {mv : Move World} {sig : SocketSignal} {so : SocketServer} :
      mv.woke = true → mv.before.sockets.receive c = some (some sig, so) →
      mv.after = { mv.before with sockets := so } → ¬ SocketSignal.Ends (some sig) →
      Step ⟨.reading c k, n⟩ mv ⟨.reading c (k + 1), n⟩
  /-- The connection closes, or its stream ends: the loss is taken now. -/
  | closes {c k n : Nat} {mv : Move World} {sig : Option SocketSignal} {so : SocketServer} :
      mv.woke = true → mv.before.sockets.receive c = some (sig, so) → SocketSignal.Ends sig →
      Step ⟨.reading c k, n⟩ mv ⟨.lost 0 mv.before.now false, n⟩
  /-- After a loss the session goes offline, and enters Reconnecting while retries remain. -/
  | mark {r since : Nat} {marked : Bool} {n : Nat} {mv : Move World} {es : List SessionEvent} :
      mv.woke = false → mv.Shows P.session [] es →
      (∀ e ∈ es, e = .connectionChanged false ∨ (r < P.ceiling ∧ e = .phaseChanged .reconnecting)) →
      ((mv.after.session P.session).phase = (mv.before.session P.session).phase ∨
        r < P.ceiling ∧ (mv.after.session P.session).phase = .reconnecting) →
      Step ⟨.lost r since marked, n⟩ mv
        ⟨.lost r since (decide ((mv.after.session P.session).phase = .reconnecting)), n⟩
  /-- With no retry left, the session enters Disconnected and the link gives up. -/
  | giveUp {r since : Nat} {marked : Bool} {n : Nat} {mv : Move World} {es : List SessionEvent} :
      mv.woke = false → P.ceiling ≤ r → mv.Shows P.session [] es →
      (∀ e ∈ es, e = .phaseChanged .disconnected) →
      (mv.after.session P.session).phase = .disconnected →
      Step ⟨.lost r since marked, n⟩ mv ⟨.gaveUp, n⟩
  /-- The wait of a Reconnecting link ends: the next retry is due the delay after the loss. -/
  | retry {r since n : Nat} {mv : Move World} :
      mv.woke = true → r < P.ceiling →
      Step ⟨.lost r since true, n⟩ mv ⟨.dial (r + 1) true (since + P.delay), n⟩

/-- Where the link may wait: for the answer to its attempt until it is due, for the answer of
the GET, while reading, and, Reconnecting, until the delay after the loss. -/
def Rests : LinkWatch → World → Option Nat → Prop
  | ⟨.answer _ _ _ due, _⟩, _, d => d = some due
  | ⟨.fetched .., _⟩, _, _ => True
  | ⟨.reading .., _⟩, _, _ => True
  | ⟨.lost r since marked, _⟩, s, d =>
    marked = true ∧ r < P.ceiling ∧ (s.session P.session).phase = .reconnecting ∧
      d = some (since + P.delay)
  | _, _, _ => False

/-- Where the policy itself ends: given up in Disconnected, or out of rounds. -/
def Finished : LinkWatch → World → Prop
  | ⟨.gaveUp, _⟩, s => (s.session P.session).phase = .disconnected
  | ⟨.dial .., n⟩, _ => Session.linkFuel + P.ceiling ≤ n
  | ⟨.reading _ k, _⟩, _ => Session.linkFuel ≤ k
  | _, _ => False

/-- Where the link of the lifetime `tok` may end: once the lifetime is over, or where the
policy ends. -/
def Ends (tok : Nat) (m : LinkWatch) (s : World) : Prop :=
  Runtime.cancelled s tok = true ∨ P.Finished m s

/-- The policy as a monitor, among other processes that keep every session. -/
def monitor : Monitor World LinkWatch where
  next := P.Step
  rests := P.Rests
  others := World.KeepsSessions

/-! ## The ceiling -/

variable {P}

/-- Every move the policy allows keeps the retries within the ceiling: a retry is made only
below it. -/
theorem Step.within {m m' : LinkWatch} {mv : Move World} (h : P.Step m mv m')
    (hm : m.stage.Within P.ceiling) : m'.stage.Within P.ceiling := by
  cases h with
  | answered => split <;> simp_all [LinkStage.Within]
  | settle => split <;> simp [LinkStage.Within]
  | retry _ hr => simp only [LinkStage.Within]; omega
  | _ => simp_all [LinkStage.Within]

/-- **The retries never exceed the ceiling**: along every list of moves the policy follows from
a stage within the ceiling, such as the first attempt of a lifetime. -/
theorem retries_le_ceiling {m m' : LinkWatch} {tr : List (Move World)}
    (h : P.monitor.Accepts m tr m') (hm : m.stage.Within P.ceiling) :
    m'.stage.Within P.ceiling := by
  induction h with
  | nil => exact hm
  | cons hstep _ ih => exact ih (Step.within hstep hm)

/-! ## Giving up -/

/-- Once given up, the policy allows only moves that log no attempt, and stays given up. -/
theorem Step.of_gaveUp {n : Nat} {mv : Move World} {m' : LinkWatch}
    (h : P.Step ⟨.gaveUp, n⟩ mv m') :
    m' = ⟨.gaveUp, n⟩ ∧ mv.after.sockets.attempts = mv.before.sockets.attempts := by
  cases h with
  | quiet _ hq => exact ⟨rfl, by simpa using hq.1.attempts_eq⟩
  | wake _ hafter => exact ⟨rfl, by rw [hafter]⟩

/-- **A link that gave up connects no more**: along every list of moves the policy follows
from there, no connection attempt is logged. -/
theorem no_attempt_after_giving_up {n : Nat} {tr : List (Move World)} {m : LinkWatch}
    (h : P.monitor.Accepts ⟨.gaveUp, n⟩ tr m) :
    ∀ mv ∈ tr, mv.after.sockets.attempts = mv.before.sockets.attempts := by
  induction tr with
  | nil => simp
  | cons mv tr ih =>
    cases h with
    | cons hstep hrest =>
      obtain ⟨rfl, hatt⟩ := Step.of_gaveUp hstep
      intro mv' hmv'
      rcases List.mem_cons.1 hmv' with rfl | hmem
      · exact hatt
      · exact ih hrest mv' hmem

end LinkPolicy

end MarketChat
