import MarketChat.Inbox.Seller
import MarketChat.Time.Instant
/-!
# What the terminal prints

The lines the terminal client prints for what happens in a chat: session events, messages,
notifications, and a seller's grouped conversations. A message shows its UTC time of day as
`HH:MM`, who wrote it (`You`, or the peer's name), and its text. A notification is printed
after an empty line, with its title and body.

Main definitions: `eventLines`, `notificationLines`, `groupLines`.
-/

namespace MarketChat

namespace Terminal

/-- The UTC time of day of an instant, as `HH:MM`. -/
def clockText (t : Instant) : String :=
  Instant.twoDigits (t.secondOfDay / 3600) ++ ":" ++ Instant.twoDigits (t.secondOfDay % 3600 / 60)

/-- A message, as `[HH:MM] who: text`. -/
def messageLine (peer : String) (m : DisplayMessage) : String :=
  "[" ++ clockText m.message.createdAt ++ "] " ++ (if m.own then "You" else peer) ++ ": " ++
    m.message.text

/-- The lines a session event prints, the peer called `peer`. Events the user need not see
print nothing. -/
def eventLines (peer : String) : SessionEvent → List String
  | .historyLoaded ms => ("── " ++ toString ms.length ++ " messages ──") :: ms.map (messageLine peer)
  | .emptyConversation => ["No messages yet. Say hello!"]
  | .messageReceived m => [messageLine peer m]
  | .peerTyping true => ["✏️ " ++ peer ++ " is typing..."]
  | .connectionChanged true => ["🟢 Connected"]
  | .connectionChanged false => ["🔴 Offline"]
  | .messagesRead n => ["✓✓ " ++ toString n ++ " read"]
  | .peerDisconnected u => ["👋 " ++ u ++ " left"]
  | .error m => ["❌ " ++ m]
  | _ => []

/-- The lines a shown notification prints. -/
def notificationLines (n : Notification) : List String := ["", "🔔 " ++ n.title ++ ": " ++ n.body]

/-- The lines of a seller's grouped conversations: per listing a header with its marker
(`▸` folded, `▾` unfolded), title, number, count and unread count, then, unless folded, one
line per conversation. -/
def groupLines (views : List GroupView) : List String :=
  if views.isEmpty then ["No conversations yet"]
  else views.flatMap fun v =>
    let marker := if v.collapsed then "▸" else "▾"
    let unread := if v.unread > 0 then " [" ++ toString v.unread ++ " new]" else ""
    let header := marker ++ " " ++ v.title ++ " (#" ++ toString v.listingId ++ ") · " ++
      toString v.conversations.length ++ " chats" ++ unread
    if v.collapsed then [header]
    else header :: v.conversations.map fun c =>
      "    #" ++ toString c.id ++ " " ++ c.label ++ ": " ++ c.lastMessage.getD "(no messages)"

end Terminal

end MarketChat
