import MarketChat.Sim.World
/-!
# Driving a world from outside

Besides the client's own operations, a world is driven by commands to its surroundings: let
virtual time run, have the server push a frame, close a connection, report a transport error
or hang up (on a given connection, by default the latest one), make the connector refuse, add
a route, or read the store.

Each command is run as the main process of the world's scheduler, which then lets every task
that can run do so before the next command; `Scene.perform` does this. What the surroundings
logged during a command is read off by the `Marks` taken before it.

Generated identifiers are random in a real run; answers show each distinct one as
`<uuid#N>`, numbered by first appearance (`maskUuids`).

Main definitions: `WorldCommand`, `Scene`, `Scene.perform`, `Marks`, `maskUuids`, `isUuidV4`.
-/

namespace MarketChat

/-- An error as reported: its kind and sentence. -/
def errorJson (kind message : String) : Json :=
  .obj [("error", .str kind), ("message", .str message)]

/-- A command to the world around the client. -/
inductive WorldCommand where
  | advance (ms : Nat)
  | push (raw : String) (conn : Option Nat)
  | serverClose (code : Option Nat) (reason : String) (conn : Option Nat)
  | serverError (message : String) (conn : Option Nat)
  | serverHangup (conn : Option Nat)
  | refuse (on : Bool)
  | route (r : Route)
  | storeGet (key : String)
  deriving Repr

namespace WorldCommand

/-- The connection a server command goes to: the given one, or the latest. -/
def target (w : World) : Option Nat → Option Nat
  | some c => if c < w.sockets.conns.length then some c else none
  | none => if w.sockets.conns.isEmpty then none else some (w.sockets.conns.length - 1)

/-- The answer when there is no connection to signal on. -/
def noConnection : Json := errorJson "NoConnection" "no socket connection yet"

/-- Have the server act on a connection. -/
def onConn (conn : Option Nat) (f : SocketServer → Nat → SocketServer) : Act Json :=
  Proc.update fun w =>
    match target w conn with
    | some c => (.null, { w with sockets := f w.sockets c })
    | none => (noConnection, w)

/-- Run a command: its result. -/
def run : WorldCommand → Act Json
  | .advance ms => do Proc.sleep ms; return .null
  | .push raw conn => onConn conn fun s c => s.signal c (.frame raw)
  | .serverClose code reason conn => onConn conn fun s c => s.signal c (.closed code reason)
  | .serverError msg conn => onConn conn fun s c => s.signal c (.error msg)
  | .serverHangup conn => onConn conn fun s c => s.hangUp c
  | .refuse on => do
    Proc.modify fun w => { w with sockets := { w.sockets with refuse := on } }
    return .null
  | .route r => do
    Proc.modify fun w => { w with backend := w.backend.addRoute r }
    return .null
  | .storeGet key => Proc.read fun w =>
    match w.store.get key with
    | .ok v => (v.map Json.str).getD .null
    | .error e => errorJson e.kind e.message

end WorldCommand

/-- How far the logs of a world reached. -/
structure Marks where
  requests : Nat
  connects : Nat
  sent : Nat
  calls : Nat
  sessionEvents : Nat
  inboxEvents : Nat

namespace Marks

/-- The marks of a world now. -/
def of (w : World) : Marks where
  requests := w.backend.log.length
  connects := w.sockets.attempts.length
  sent := w.sockets.sent.length
  calls := w.platform.calls.length
  sessionEvents := w.sessionEvents.length
  inboxEvents := w.inboxEvents.length

/-- The requests since the marks. -/
def requests? (m : Marks) (w : World) : Json :=
  .arr ((w.backend.log.drop m.requests).map HttpRequest.toJson)

/-- The connection attempts since the marks. -/
def connects? (m : Marks) (w : World) : Json :=
  .arr ((w.sockets.attempts.drop m.connects).map ConnectAttempt.toJson)

/-- What the client sent since the marks. -/
def frames? (m : Marks) (w : World) : Json :=
  .arr ((w.sockets.sent.drop m.sent).map Outgoing.toJson)

/-- The platform calls since the marks. -/
def calls? (m : Marks) (w : World) : Json :=
  .arr ((w.platform.calls.drop m.calls).map PlatformCall.toJson)

/-- The notifications shown since the marks. -/
def shown? (m : Marks) (w : World) : Json :=
  .arr ((w.platform.calls.drop m.calls).filterMap fun
    | .present n => some n.toJson
    | _ => none)

end Marks

/-- A world under a scheduler, with how many operations run as tasks were joined. -/
structure Scene where
  pool : Pool World
  joined : Nat := 0

namespace Scene

/-- The world. -/
def world (s : Scene) : World := s.pool.state

/-- Run a process as the main one and let the tasks settle: its result (`none` when it can
never end) and the scene after. -/
def perform {α : Type} (s : Scene) (p : Act α) : Option α × Scene :=
  let (r, pool) := s.pool.run p
  (r, { s with pool })

end Scene

/-- The characters of a lowercase hexadecimal digit. -/
def isHexLower (c : Char) : Bool := c.isDigit || ('a' ≤ c && c ≤ 'f')

/-- A lowercase hyphenated version-4 UUID whose variant digit is one of `8`, `9`, `a`, `b`. -/
def isUuidV4 (s : String) : Bool :=
  let cs := s.toList
  cs.length = 36 &&
    (cs.zipIdx.all fun (c, i) =>
      if i = 8 || i = 13 || i = 18 || i = 23 then c = '-' else isHexLower c) &&
    cs[14]? = some '4' && (cs[19]?.any fun c => "89ab".toList.contains c)

/-- The fixed start of the identifiers a world generates. -/
def generatedPrefix : List Char := "00000000-0000-4000-8000-".toList

/-- Replace generated identifiers in a text by `<uuid#N>`, numbered by first appearance. -/
def maskChars : Nat → List Char → List (List Char) → List Char
  | 0, cs, _ => cs
  | _ + 1, [], _ => []
  | fuel + 1, c :: cs, seen =>
    if generatedPrefix.isPrefixOf (c :: cs) then
      let id := (c :: cs).take 36
      let rest := (c :: cs).drop 36
      let (n, seen) := match seen.idxOf? id with
        | some k => (k + 1, seen)
        | none => (seen.length + 1, seen ++ [id])
      ("<uuid#" ++ toString n ++ ">").toList ++ maskChars fuel rest seen
    else c :: maskChars fuel cs seen

/-- Replace generated identifiers in a text by `<uuid#N>`, numbered by first appearance. -/
def maskUuids (s : String) : String :=
  String.ofList (maskChars (s.length + 1) s.toList [])

end MarketChat
