import MarketChat.Chat.Message
/-!
# What a chat session reports

A chat session goes through phases: idle, discovering (resolving the actor and looking the
conversation up), awaiting the first message (no conversation yet), connected, reconnecting,
disconnected (the reconnection ceiling is reached) and closed.

It reports what happens as events, in the order they happen: the conversation it opened, phase
changes, whether the socket is online, the loaded history, the empty state, received messages,
the peer's typing, online users, read markers, a peer leaving, errors meant for the user, and
the end of the session.

A message is shown with whether it is the actor's own.

Main definitions: `SessionPhase`, `SessionEvent`, `DisplayMessage`.
-/

namespace MarketChat

/-- The phases of a chat session. -/
inductive SessionPhase where
  | idle
  | discovering
  | awaitingFirstMessage
  | connected
  | reconnecting
  | disconnected
  | closed
  deriving DecidableEq, Repr, Inhabited

/-- The name of a phase. -/
def SessionPhase.name : SessionPhase → String
  | .idle => "Idle"
  | .discovering => "Discovering"
  | .awaitingFirstMessage => "AwaitingFirstMessage"
  | .connected => "Connected"
  | .reconnecting => "Reconnecting"
  | .disconnected => "Disconnected"
  | .closed => "Closed"

/-- A message as shown to an actor. -/
structure DisplayMessage where
  message : Message
  own : Bool
  deriving Repr

/-- A message as shown to `a`: its own when `a` wrote it. -/
def DisplayMessage.forActor (m : Message) (a : Actor) : DisplayMessage := ⟨m, m.isFrom a⟩

/-- The JSON of a shown message. -/
def DisplayMessage.toJson (d : DisplayMessage) : Json :=
  .obj [("own", .bool d.own), ("message", d.message.toJson)]

/-- What a chat session reports. -/
inductive SessionEvent where
  | opened (listingId : Option Int) (chatId : Option Int)
  | phaseChanged (phase : SessionPhase)
  | connectionChanged (online : Bool)
  /-- The full history, replacing whatever is shown. -/
  | historyLoaded (messages : List DisplayMessage)
  /-- No conversation yet. -/
  | emptyConversation
  | messageReceived (message : DisplayMessage)
  | peerTyping (isTyping : Bool)
  | onlineUsers (users : List String)
  | messagesRead (count : Nat)
  | peerDisconnected (userId : String)
  /-- An error sentence for the user. -/
  | error (message : String)
  | closed
  deriving Repr

namespace SessionEvent

/-- An optional integer as JSON. -/
def optInt : Option Int → Json
  | some i => Json.ofInt i
  | none => .null

/-- The JSON of an event: its name under `event`, then its fields. -/
def toJson : SessionEvent → Json
  | .opened l c => .obj [("event", .str "Opened"), ("listing_id", optInt l), ("chat_id", optInt c)]
  | .phaseChanged p => .obj [("event", .str "StateChanged"), ("state", .str p.name)]
  | .connectionChanged b => .obj [("event", .str "ConnectionChanged"), ("online", .bool b)]
  | .historyLoaded ms =>
    .obj [("event", .str "HistoryLoaded"), ("messages", .arr (ms.map DisplayMessage.toJson))]
  | .emptyConversation => .obj [("event", .str "EmptyConversation")]
  | .messageReceived m => .obj [("event", .str "MessageReceived"), ("message", m.toJson)]
  | .peerTyping b => .obj [("event", .str "PeerTyping"), ("is_typing", .bool b)]
  | .onlineUsers us => .obj [("event", .str "OnlineUsers"), ("users", .arr (us.map Json.str))]
  | .messagesRead n => .obj [("event", .str "MessagesRead"), ("count", Json.ofNat n)]
  | .peerDisconnected u => .obj [("event", .str "PeerDisconnected"), ("user_id", .str u)]
  | .error m => .obj [("event", .str "Error"), ("message", .str m)]
  | .closed => .obj [("event", .str "Closed")]

end SessionEvent

end MarketChat
