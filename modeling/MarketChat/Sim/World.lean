import MarketChat.Runtime.Scheduler
import MarketChat.Store.Cache
import MarketChat.Sim.Backend
import MarketChat.Sim.Socket
import MarketChat.Sim.Platform
import MarketChat.Session.State
import MarketChat.Inbox.State
/-!
# The client in its world

A `World` is the chat client together with everything around it: the virtual clock, the
configuration, the key-value store and the response cache over it, the HTTP backend, the
socket server, the notification platform, focus and windows, the cancellation tokens, the
identity cache, the chat sessions, the seller's inbox, and the logs of what they reported.

The response cache reads its own clock: a manual one that only moves when told, or the
virtual clock shifted by a fixed instant.

Generated identifiers are version-4 UUIDs numbered in order, so a run is reproducible.

`Act` is a process over a world; the scheduler of `Pool` runs them.

Main definitions: `World`, `Act`, `CacheClock`, `World.freshUuid`.
-/

namespace MarketChat

/-- The clock of the response cache, in milliseconds. -/
inductive CacheClock where
  /-- A clock that stands at an instant until it is set. -/
  | manual (t : Int)
  /-- The virtual clock shifted by an instant. -/
  | shifted (base : Int)
  deriving Repr

/-- The client and its surroundings. -/
structure World where
  now : Nat := 0
  config : ChatConfig := {}
  store : KvStore := {}
  cache : ResponseCache := {}
  cacheClock : CacheClock := .shifted 0
  backend : Backend := {}
  sockets : SocketServer := {}
  platform : Platform := {}
  focus : Focus := {}
  windows : Windows := {}
  /-- Notifications are wired to the platform. -/
  notifications : Bool := true
  cancelled : List Nat := []
  nextToken : Nat := 0
  uuids : Nat := 0
  /-- The resolved registered actor and when it was resolved. -/
  identity : Option (Actor × Nat) := none
  sessions : List SessionState := []
  sessionEvents : List (Nat × SessionEvent) := []
  inbox : InboxState := {}
  inboxEvents : List InboxEvent := []
  /-- The results of operations run as tasks, by the order they were started. -/
  results : List (Option (Except ChatError Unit)) := []

namespace World

/-- A world keeps the virtual time and the cancelled tokens. -/
instance : Runtime World where
  now w := w.now
  setNow w t := { w with now := t }
  cancelled w t := w.cancelled.contains t

/-- The response cache's time. -/
def cacheNow (w : World) : Int :=
  match w.cacheClock with
  | .manual t => t
  | .shifted base => base + w.now

/-- Twelve lowercase hexadecimal digits of a number. -/
def hex12 (n : Nat) : String :=
  let ds := Nat.toDigits 16 (n % 281474976710656)
  String.ofList (List.replicate (12 - ds.length) '0' ++ ds)

/-- A fresh version-4 UUID. -/
def freshUuid (w : World) : String × World :=
  ("00000000-0000-4000-8000-" ++ hex12 (w.uuids + 1), { w with uuids := w.uuids + 1 })

/-- A fresh cancellation token. -/
def freshToken (w : World) : Nat × World := (w.nextToken, { w with nextToken := w.nextToken + 1 })

/-- Cancel a token. -/
def cancel (w : World) (t : Nat) : World :=
  if w.cancelled.contains t then w else { w with cancelled := w.cancelled ++ [t] }

/-- The token is cancelled. -/
def isCancelled (w : World) (t : Nat) : Bool := w.cancelled.contains t

/-- A session's state. -/
def session (w : World) (i : Nat) : SessionState := w.sessions.getD i {}

/-- Change a session's state. -/
def modifySession (w : World) (i : Nat) (f : SessionState → SessionState) : World :=
  { w with sessions := w.sessions.modify i f }

/-- Add a session: its number. -/
def addSession (w : World) : Nat × World :=
  (w.sessions.length, { w with sessions := w.sessions ++ [{}] })

/-- A session reports an event. -/
def emit (w : World) (i : Nat) (e : SessionEvent) : World :=
  { w with sessionEvents := w.sessionEvents ++ [(i, e)] }

end World

/-- A process of the client in its world. -/
abbrev Act := Proc World

end MarketChat
