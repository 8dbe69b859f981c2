import MarketChat.Chat.Conversation
import MarketChat.Inbox.Basic
import MarketChat.Session.State
/-!
# The state of a seller's inbox

The inbox of a seller keeps the seller's id once the seller is known, the last snapshot of
conversations grouped by listing and when it was taken, the listings looked up so far, the
selected conversation with the session that shows it, the lock that operations on the
selection hold, and the token of the polling task while polling runs.

It reports refreshed snapshots (with their unread total), failed refreshes and errors meant
for the user; the events of the selected conversation's session are forwarded with the chat's
id.

Main definitions: `InboxEvent`, `InboxState`.
-/

namespace MarketChat

/-- What the inbox reports. -/
inductive InboxEvent where
  | groupsUpdated (unreadTotal : Nat)
  | refreshFailed (message : String)
  | error (message : String)
  deriving Repr

/-- The JSON of an inbox event. -/
def InboxEvent.toJson : InboxEvent → Json
  | .groupsUpdated n => .obj [("event", .str "GroupsUpdated"), ("unread_total", Json.ofNat n)]
  | .refreshFailed m => .obj [("event", .str "RefreshFailed"), ("message", .str m)]
  | .error m => .obj [("event", .str "Error"), ("message", .str m)]

/-- The selected conversation: its chat and the session showing it. -/
structure Selection where
  chatId : Int
  session : Nat
  deriving Repr

/-- Everything the inbox keeps. -/
structure InboxState where
  sellerId : Option Int := none
  groups : Groups := []
  lastRefresh : Option Nat := none
  listings : List (Int × ListingInfo) := []
  active : Option Selection := none
  /-- The lock of the selection: every operation on the selected conversation holds it. -/
  activeLock : FairLock := {}
  poller : Option Nat := none
  /-- Sessions whose events are forwarded, with the chat they are forwarded under. -/
  forwards : List (Nat × Int) := []
  /-- The inbox is gone. -/
  dropped : Bool := false
  deriving Repr

namespace InboxState

/-- Unread messages over all groups, as a 32-bit count. -/
def unreadTotal (s : InboxState) : Nat :=
  (s.groups.foldl (fun acc g => g.2.foldl (fun a c => a + c.unreadCount) acc) 0) % 4294967296

end InboxState

end MarketChat
