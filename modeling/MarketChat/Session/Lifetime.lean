import MarketChat.Chat.Frame
import MarketChat.Client.Identity
import MarketChat.Client.Notify
import MarketChat.Text.Space
/-!
# Session lifetimes

The building blocks of a chat session `i` of a world:

* `begin` ends the current lifetime (`teardown`) and starts a new one bound to a target;
  `teardown` cancels the lifetime's token, stops the typing timer, lets go of the socket's
  sending half and marks the session offline, without reporting it;
* `close` tears down, then reports the closed phase and the end, once;
* `setPhase` reports a phase only when it changes; `setOnline` replaces the held sending half
  and reports the connection only when it changes;
* `actor` resolves the actor once per session: concurrent callers wait for the first, in
  order, and when a resolution is interrupted the next waiter resolves instead;
* `loadHistory` reports the full history of the chat (empty when it cannot be read), then
  marks the chat read; both stop when the lifetime ends.

Main definitions: `Session.begin`, `Session.teardown`, `Session.close`, `Session.actor`,
`Session.loadHistory`, `Session.setOnline`, `Session.sendFrame`.
-/

namespace MarketChat

namespace Session

/-- The session's state. -/
def state (i : Nat) : Act SessionState := Proc.read (·.session i)

/-- Change the session's state. -/
def change (i : Nat) (f : SessionState → SessionState) : Act Unit :=
  Proc.modify (·.modifySession i f)

/-- Report an event. -/
def emit (i : Nat) (e : SessionEvent) : Act Unit := Proc.modify (·.emit i e)

/-- Enter a phase, reporting it when it changes. -/
def setPhase (i : Nat) (p : SessionPhase) : Act Unit :=
  Proc.modify fun w =>
    if (w.session i).phase = p then w
    else (w.modifySession i fun s => { s with phase := p }).emit i (.phaseChanged p)

/-- The current lifetime's token, unless it is cancelled. -/
def token (i : Nat) : Act (Option Nat) :=
  Proc.read fun w => (w.session i).lifetime.filter (!w.isCancelled ·)

/-- Let go of a sending half. -/
def releaseIn (w : World) : Option Nat → World
  | some c => { w with sockets := w.sockets.release c }
  | none => w

/-- Hold another sending half (letting go of the old one) and set whether the session is
online, reporting a change. -/
def setOnline (i : Nat) (online : Bool) (outbound : Option Nat) : Act Unit :=
  Proc.modify fun w =>
    let s := w.session i
    let w := releaseIn w s.outbound
    let w := w.modifySession i fun s => { s with outbound, online }
    if s.online ≠ online then w.emit i (.connectionChanged online) else w

/-- End the current lifetime: cancel its token, stop the typing timer, let go of the socket,
go offline. Nothing is reported. -/
def teardown (i : Nat) : Act Unit := do
  let s ← state i
  if let some t := s.lifetime then Proc.modify (·.cancel t)
  change i fun s => { s with lifetime := none }
  if let some timer := s.typingTimer then
    change i fun s => { s with typingTimer := none }
    Proc.stop timer
  Proc.modify fun w =>
    let w := releaseIn w (w.session i).outbound
    w.modifySession i fun s => { s with outbound := none, online := false }

/-- Start a lifetime bound to a target, ending the previous one. -/
def begin (i : Nat) (target : Target) : Act Nat := do
  teardown i
  let t ← Proc.update (·.freshToken)
  change i fun s => { s with lifetime := some t, target := some target }
  return t

/-- Bind the target to a chat. -/
def attach (i : Nat) (chatId : Int) : Act Unit :=
  change i fun s => { s with target := s.target.map fun t => { t with chatId := some chatId } }

/-- Report the empty conversation and wait for the first message. -/
def awaitFirstMessage (i : Nat) : Act Unit := do
  emit i .emptyConversation
  setPhase i .awaitingFirstMessage

/-- Close the session, once. -/
def close (i : Nat) : Act Unit := do
  if (← state i).phase = .closed then return
  teardown i
  setPhase i .closed
  emit i .closed

/-- Send a frame on the held socket while online; `false` when it cannot be sent. -/
def sendFrame (i : Nat) (frame : String) : Act Bool :=
  Proc.update fun w =>
    let s := w.session i
    if !s.online then (false, w)
    else
      match s.outbound with
      | some c =>
        let (ok, so) := w.sockets.send c frame
        (ok, { w with sockets := so })
      | none => (false, w)

/-- Send a typing signal, if it can be sent. -/
def sendTyping (i : Nat) (typing : Bool) : Act Unit := do
  let _ ← sendFrame i (OutboundFrame.typing typing).encode

/-- Change the actor cell. -/
def changeCell (i : Nat) (f : ActorCell → ActorCell) : Act Unit :=
  change i fun s => { s with actor := f s.actor }

/-- Resolve the actor as the holder of the cell's lock, and keep it. An interrupted resolution
passes the lock on. -/
def resolveHeld (i : Nat) : Act Actor :=
  Proc.onAbort (changeCell i fun c => { c with lock := c.lock.release }) do
    let a ← Identity.resolve
    changeCell i fun c => { c with value := some a, lock := { c.lock with holder := none } }
    return a

/-- The session's actor, resolved once. -/
def actor (i : Nat) : Act Actor := do
  let me ← Proc.self
  match (← state i).actor.value with
  | some a => return a
  | none =>
    let taken ← Proc.update fun w =>
      let (taken, l) := (w.session i).actor.lock.arrive me
      (taken, w.modifySession i fun s => { s with actor := { s.actor with lock := l } })
    if taken then resolveHeld i
    else
      let got ← Proc.onAbort (changeCell i fun c => { c with lock := c.lock.leave me }) <|
        Proc.await {
          ready := fun w =>
            let c := (w.session i).actor
            match c.value with
            | some a =>
              some (some a, w.modifySession i fun s =>
                { s with actor := { c with lock := { c.lock with waiters := c.lock.waiters.filter (· ≠ me) } } })
            | none => if c.lock.heldBy me then some (none, w) else none }
      match got with
      | some a => return a
      | none => resolveHeld i

/-- Report the full history of a chat, then mark it read; both stop when the lifetime ends. -/
def loadHistory (i : Nat) (chatId : Int) (tok : Nat) (a : Actor) : Act Unit := do
  let some result ← Proc.guarded tok (Api.messages chatId) | return
  let history := match result with
    | .ok ms => ms.map (DisplayMessage.forActor · a)
    | .error _ => []
  emit i (.historyLoaded history)
  let _ ← Proc.guarded tok (Api.markRead chatId a.id)

end Session

end MarketChat
