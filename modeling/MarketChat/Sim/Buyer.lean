import MarketChat.Sim.Control
import MarketChat.Session.Chat
/-!
# One chat session in a world

A world with one chat session (number 0) is driven by session commands: open a listing's
conversation or a known chat, send, report input, close, ask the actor, or wait for the oldest
operation that was started as a task. Opening and sending may run as tasks, answering
`"spawned"` at once.

Each command answers a step: the result, the session's events, phase, chat and connection
after it, the time, and what the surroundings logged meanwhile (requests, connection
attempts, frames sent, notifications shown).

Main definitions: `SessionCommand`, `Scene.sessionStep`.
-/

namespace MarketChat

/-- A command to a world with one chat session. -/
inductive SessionCommand where
  | openListing (listingId sellerId : Option Int) (spawn : Bool)
  | openExisting (chatId : Int) (peerLabel : String) (spawn : Bool)
  | send (text : String) (spawn : Bool)
  | inputChanged
  | close
  | actor
  | join
  | world (c : WorldCommand)
  deriving Repr

/-- The JSON of an operation's result: `"ok"` or the error. -/
def chatResult : Except ChatError Unit → Json
  | .ok _ => .str "ok"
  | .error e => errorJson e.kind e.message

/-- The JSON of an actor. -/
def Actor.toJson (a : Actor) : Json := .obj [("id", .str a.id), ("is_registered", .bool a.isRegistered)]

namespace Scene

/-- Run an operation now, or as a task whose result is kept for `join`. -/
def operate (op : Act (Except ChatError Unit)) (spawn : Bool) : Act Json :=
  if spawn then do
    let k ← Proc.update fun w => (w.results.length, { w with results := w.results ++ [none] })
    let _ ← Proc.fork do
      let r ← op
      Proc.modify fun w => { w with results := w.results.set k (some r) }
    return .str "spawned"
  else chatResult <$> op

/-- Wait for the result of the operation started `k`-th. -/
def joinResult (k : Nat) : Act Json :=
  chatResult <$> Proc.await { ready := fun w =>
    match w.results[k]? with
    | some (some r) => some (r, w)
    | _ => none }

/-- The process of a session command, and whether it joins a task. -/
def sessionAct (s : Scene) : SessionCommand → Act Json × Bool
  | .openListing l sid spawn => (operate (Session.openListing 0 l sid) spawn, false)
  | .openExisting c label spawn => (operate (Session.openExisting 0 c label) spawn, false)
  | .send text spawn => (operate (Session.send 0 text) spawn, false)
  | .inputChanged => (do Session.inputChanged 0; return .null, false)
  | .close => (do Session.close 0; return .null, false)
  | .actor => (Actor.toJson <$> Session.actor 0, false)
  | .join => (joinResult s.joined, true)
  | .world c => (c.run, false)

/-- Run a session command: the step it answers. -/
def sessionStep (s : Scene) (cmd : SessionCommand) : Json × Scene :=
  let m := Marks.of s.world
  let (p, joins) := s.sessionAct cmd
  let (r, s) := s.perform p
  let s := if joins then { s with joined := s.joined + 1 } else s
  let w := s.world
  let st := w.session 0
  let events := (w.sessionEvents.drop m.sessionEvents).map fun (_, e) => e.toJson
  let step : Json := .obj [
    ("result", r.getD .null),
    ("events", .arr events),
    ("state", .str st.phase.name),
    ("chat_id", (st.chatId.map Json.ofInt).getD .null),
    ("online", .bool st.online),
    ("t", Json.ofNat w.now),
    ("requests", m.requests? w),
    ("connects", m.connects? w),
    ("frames", m.frames? w),
    ("notifications", m.shown? w)]
  (step, s)

end Scene

end MarketChat
