import MarketChat.Json.Value
/-!
# A scripted socket server

Every connection attempt is logged with its address, time, and whether the server refused
it; an accepted connection gets the next number. A connection carries two streams:

* inbound, from the server to the client: text frames, transport errors and a closing signal,
  received in order; when the server lets go of its sending half, the stream ends once the
  signals already sent are received;
* outbound, from the client to the server: text frames, and the end of the stream when the
  client lets go of its sending half.

What the client sends is logged in order, each frame and each end once.

Main definitions: `SocketSignal`, `Connection`, `SocketServer`.
-/

namespace MarketChat

/-- What a socket reports to the client. -/
inductive SocketSignal where
  | frame (raw : String)
  | error (message : String)
  /-- The connection ended; always the last signal. -/
  | closed (code : Option Nat) (reason : String)
  deriving Repr

/-- One accepted connection. -/
structure Connection where
  url : String
  /-- Signals sent by the server, not yet received. -/
  inbound : List SocketSignal := []
  /-- The server still holds its sending half. -/
  serverHolds : Bool := true
  /-- The client still holds its sending half. -/
  clientHolds : Bool := true
  deriving Repr

/-- A logged connection attempt. -/
structure ConnectAttempt where
  url : String
  time : Nat
  refused : Bool
  deriving Repr

/-- What the client sent on a connection: a text frame, or the end of its stream. -/
inductive Outgoing where
  | frame (conn : Nat) (text : String)
  | closed (conn : Nat)
  deriving Repr

/-- The server: whether it refuses, how long connecting takes, its connections and logs. -/
structure SocketServer where
  refuse : Bool := false
  connectDelay : Nat := 0
  conns : List Connection := []
  attempts : List ConnectAttempt := []
  sent : List Outgoing := []
  deriving Repr

namespace SocketServer

/-- Log an attempt to connect to `url` at `time`; the answer is whether it is refused. -/
def attempt (s : SocketServer) (url : String) (time : Nat) : Bool × SocketServer :=
  (s.refuse, { s with attempts := s.attempts ++ [⟨url, time, s.refuse⟩] })

/-- Accept a connection: its number. -/
def accept (s : SocketServer) (url : String) : Nat × SocketServer :=
  (s.conns.length, { s with conns := s.conns ++ [{ url }] })

/-- Change one connection. -/
def modifyConn (s : SocketServer) (i : Nat) (f : Connection → Connection) : SocketServer :=
  { s with conns := s.conns.modify i f }

/-- The connection's inbound stream: the next signal taken, `some none` at its end, `none`
while nothing has arrived. -/
def receive (s : SocketServer) (i : Nat) : Option (Option SocketSignal × SocketServer) :=
  match s.conns[i]? with
  | none => some (none, s)
  | some c =>
    match c.inbound with
    | sig :: rest => some (some sig, s.modifyConn i fun c => { c with inbound := rest })
    | [] => if c.serverHolds then none else some (none, s)

/-- The client sends a text frame; `false` when it no longer holds the stream. -/
def send (s : SocketServer) (i : Nat) (text : String) : Bool × SocketServer :=
  match s.conns[i]? with
  | some c =>
    if c.clientHolds then (true, { s with sent := s.sent ++ [.frame i text] }) else (false, s)
  | none => (false, s)

/-- The client lets go of its sending half. -/
def release (s : SocketServer) (i : Nat) : SocketServer :=
  match s.conns[i]? with
  | some c =>
    if c.clientHolds then
      { s.modifyConn i (fun c => { c with clientHolds := false }) with sent := s.sent ++ [.closed i] }
    else s
  | none => s

/-- The server sends a signal on a connection. -/
def signal (s : SocketServer) (i : Nat) (sig : SocketSignal) : SocketServer :=
  s.modifyConn i fun c => if c.serverHolds then { c with inbound := c.inbound ++ [sig] } else c

/-- The server lets go of its sending half. -/
def hangUp (s : SocketServer) (i : Nat) : SocketServer :=
  s.modifyConn i fun c => { c with serverHolds := false }

end SocketServer

/-- The JSON of a logged attempt. -/
def ConnectAttempt.toJson (a : ConnectAttempt) : Json :=
  .obj [("url", .str a.url), ("t", Json.ofNat a.time), ("refused", .bool a.refused)]

/-- The JSON of what the client sent. -/
def Outgoing.toJson : Outgoing → Json
  | .frame i t => .obj [("conn", Json.ofNat i), ("frame", .str t)]
  | .closed i => .obj [("conn", Json.ofNat i), ("closed_by_client", .bool true)]

end MarketChat
