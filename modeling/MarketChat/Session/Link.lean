import MarketChat.Session.Lifetime
/-!
# The socket of a chat session

One link task runs per attached chat and lifetime. It connects to the chat's socket address,
reads what the server sends until the socket closes, and reconnects:

* a connection that succeeds goes online, enters the connected phase, reloads the history when
  it is not the first one, resets the attempt count, and reads signals;
* after a closed socket (the session going offline) or a failed attempt, the link gives up in
  the disconnected phase once the attempts reach the configured ceiling; otherwise it enters
  the reconnecting phase and waits the reconnection delay;
* everything stops when the lifetime ends.

Signals are read in order: a frame that decodes is dispatched (frames that do not decode are
skipped), a transport error takes the session offline while reading goes on, and a closing
signal or the end of the stream ends the reading.

A message from the peer starts two tasks: one marks the chat read, one notifies the user with
the peer's label.

Main definitions: `Session.connect`, `Session.pump`, `Session.dispatch`, `Session.link`.
-/

namespace MarketChat

namespace Session

/-- Connect to a socket address: the attempt is logged at once, the answer comes after the
server's delay. -/
def connect (url : String) : Act (Except TransportError Nat) := do
  let refused ← Proc.update fun w =>
    let (r, s) := w.sockets.attempt url w.now
    (r, { w with sockets := s })
  let delay ← Proc.read (·.sockets.connectDelay)
  if delay > 0 then Proc.sleep delay
  if refused then return .error (.refused url)
  Proc.update fun w =>
    let (c, s) := w.sockets.accept url
    (.ok c, { w with sockets := s })

/-- The next signal of a connection, waiting for one; `none` at the end of the stream. -/
def receive (conn : Nat) : Act (Option SocketSignal) :=
  Proc.await { ready := fun w => (w.sockets.receive conn).map fun (sig, s) => (sig, { w with sockets := s }) }

/-- Mark the chat read and notify the user of a message from the peer, each in a task. -/
def incoming (i : Nat) (chatId : Int) (tok : Nat) (a : Actor) (text : String) : Act Unit := do
  let _ ← Proc.fork (do let _ ← Proc.guarded tok (Api.markRead chatId a.id))
  if ← Proc.read (·.notifications) then
    let label := (← state i).peerLabel
    let _ ← Proc.fork (do let _ ← Proc.guarded tok (Bridge.notify label text chatId))

/-- Report a frame from the server. -/
def dispatch (i : Nat) (chatId : Int) (tok : Nat) (a : Actor) : InboundFrame → Act Unit
  | .message m => do
    let d := DisplayMessage.forActor m a
    emit i (.messageReceived d)
    if !d.own then incoming i chatId tok a m.text
  | .typing u b => if u ≠ a.id then emit i (.peerTyping b) else pure ()
  | .onlineUsers us => emit i (.onlineUsers (us.map Json.userIdText))
  | .messagesRead n _ => emit i (.messagesRead n)
  | .userDisconnected u => emit i (.peerDisconnected u)
  | .unknown => pure ()

/-- Read the signals of a connection until it closes: `true` when the lifetime ended first, or
when the rounds ran out (the link then stops without reconnecting). -/
def pump (i : Nat) (chatId : Int) (tok : Nat) (a : Actor) (conn : Nat) : Nat → Act Bool
  | 0 => pure true
  | fuel + 1 => do
    let some signal ← Proc.guarded tok (receive conn) | return true
    match signal with
    | some (.frame raw) =>
      match InboundFrame.decode raw with
      | .ok frame => dispatch i chatId tok a frame
      | .error _ => pure ()
      pump i chatId tok a conn fuel
    | some (.error _) =>
      setOnline i false none
      pump i chatId tok a conn fuel
    | some (.closed _ _) => return false
    | none => return false

/-- Enough rounds for any run of the link: the signals of one connection, and the connections of
one lifetime beyond the retries the ceiling allows. -/
def linkFuel : Nat := 100000

/-- The token is cancelled. -/
def cancelled (tok : Nat) : Act Bool := Proc.read (·.isCancelled tok)

/-- Connect, read, and reconnect until the lifetime ends or the attempts run out. -/
def linkLoop (i : Nat) (chatId : Int) (tok : Nat) (a : Actor) (url : String) (ceiling delay : Nat) :
    Nat → Nat → Bool → Act Unit
  | 0, _, _ => pure ()
  | fuel + 1, attempts, reconnecting => do
    let some result ← Proc.guarded tok (connect url) | return
    let attempts ← match result with
      | .ok conn =>
        if ← cancelled tok then
          Proc.modify fun w => releaseIn w (some conn)
          return
        setOnline i true (some conn)
        setPhase i .connected
        if reconnecting then loadHistory i chatId tok a
        let stopped ← pump i chatId tok a conn linkFuel
        if stopped || (← cancelled tok) then return
        setOnline i false none
        pure 0
      | .error _ => pure attempts
    if ← cancelled tok then return
    if attempts ≥ ceiling then
      setPhase i .disconnected
      return
    setPhase i .reconnecting
    let some _ ← Proc.guarded tok (Proc.sleep delay) | return
    linkLoop i chatId tok a url ceiling delay fuel (attempts + 1) true

/-- The link task of a chat in a lifetime. -/
def link (i : Nat) (chatId : Int) (tok : Nat) (a : Actor) : Act Unit := do
  let c ← Proc.read (·.config)
  match Api.socketUrl c chatId a.id with
  | .error _ => setPhase i .disconnected
  | .ok url =>
    linkLoop i chatId tok a url c.maxReconnectAttempts c.reconnectDelayMs
      (linkFuel + c.maxReconnectAttempts) 0 false

/-- Start the link task. -/
def startLink (i : Nat) (chatId : Int) (tok : Nat) (a : Actor) : Act Unit := do
  let _ ← Proc.fork (link i chatId tok a)

end Session

end MarketChat
