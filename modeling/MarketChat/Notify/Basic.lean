import MarketChat.Config
/-!
# Notifications

A notification announces a message from the peer: its title names the sender, its body is the
text cut to the configured number of characters (Unicode scalar values) with `...` after a
cut, its tag names the chat (one notification per chat is shown), and it carries the chat and
the address to open. It offers two actions, open and close.

Notifying results in one of: shown, suppressed (the client is in front), unsupported, permission
denied, or failed with the platform's sentence. A click dismisses the notification and then
closes it, focuses a window already at its address, or opens one.

Main definitions: `Permission`, `Notification`, `Notification.build`, `NotifyOutcome`,
`ClickOutcome`.
-/

namespace MarketChat

/-- Whether the user lets the client show notifications. -/
inductive Permission where
  | granted
  | denied
  | default
  deriving DecidableEq, Repr, Inhabited

/-- The name of a permission. -/
def Permission.name : Permission → String
  | .granted => "granted"
  | .denied => "denied"
  | .default => "default"

/-- The actions a notification offers. -/
inductive NotificationAction where
  | openChat
  | close
  deriving DecidableEq, Repr

namespace NotificationAction

/-- The action's name. -/
def name : NotificationAction → String
  | .openChat => "open"
  | .close => "close"

/-- The action's button text. -/
def title : NotificationAction → String
  | .openChat => "Open chat"
  | .close => "Close"

end NotificationAction

/-- A notification of a new message. -/
structure Notification where
  title : String
  body : String
  tag : String
  chatId : Int
  url : String
  actions : List NotificationAction := [.openChat, .close]
  deriving Repr

namespace Notification

/-- `text` cut after `limit` characters, with `...` when something was cut. -/
def truncate (text : String) (limit : Nat) : String :=
  let cs := text.toList
  if cs.length > limit then String.ofList (cs.take limit) ++ "..." else text

/-- The tag of a chat's notifications. -/
def tagOf (chatId : Int) : String := "chat-" ++ toString chatId

/-- The notification of a message from `label` in a chat. -/
def build (c : ChatConfig) (label text : String) (chatId : Int) : Notification where
  title := "New message from " ++ label
  body := truncate text c.notificationBodyLimit
  tag := tagOf chatId
  chatId := chatId
  url := c.notificationUrl

/-- The JSON of a notification. -/
def toJson (n : Notification) : Json :=
  .obj [("title", .str n.title), ("body", .str n.body), ("tag", .str n.tag),
    ("data", .obj [("chat_id", Json.ofInt n.chatId), ("url", .str n.url)]),
    ("actions", .arr (n.actions.map fun a => .str a.name))]

end Notification

/-- What notifying came to. -/
inductive NotifyOutcome where
  | shown
  | suppressed
  | unsupported
  | permissionDenied
  | failed (message : String)
  deriving DecidableEq, Repr

/-- The JSON of an outcome: a name, or `{"Failed": message}`. -/
def NotifyOutcome.toJson : NotifyOutcome → Json
  | .shown => .str "Shown"
  | .suppressed => .str "Suppressed"
  | .unsupported => .str "Unsupported"
  | .permissionDenied => .str "PermissionDenied"
  | .failed m => .obj [("Failed", .str m)]

/-- What a click came to. -/
inductive ClickOutcome where
  | dismissed
  | focused (url : String)
  | opened (url : String)
  deriving DecidableEq, Repr

/-- The JSON of a click outcome. -/
def ClickOutcome.toJson : ClickOutcome → Json
  | .dismissed => .str "Dismissed"
  | .focused u => .obj [("Focused", .str u)]
  | .opened u => .obj [("Opened", .str u)]

end MarketChat
