import MarketChat.Sim.Buyer
import MarketChat.Inbox.Seller
/-!
# A seller's inbox in a world

A world with a seller's inbox is driven by inbox commands and commands to the surroundings.
Each command answers a step: the result, the inbox's events, the forwarded session events
(each with its chat), whether the inbox polls (nothing once it is gone), the time, and what
the surroundings logged meanwhile.

Main definitions: `InboxCommand`, `Scene.inboxStep`.
-/

namespace MarketChat

/-- A command to a world with a seller's inbox. -/
inductive InboxCommand where
  | init
  | openPanel
  | closePanel
  | refresh
  | groups
  | unreadTotal
  | badge
  | listing (listingId : Int)
  | groupViews
  | toggleGroup (listingId : Int)
  | select (chatId : Int)
  | send (text : String)
  | inputChanged
  | deleteSelected
  | selected
  | isPolling
  | drop
  | world (c : WorldCommand)
  deriving Repr

/-- The command acts on the inbox itself. -/
def InboxCommand.isInboxOp : InboxCommand → Bool
  | .world _ => false
  | _ => true

/-- The JSON of an inbox operation's result: `"ok"` or the error. -/
def inboxResult : Except RegistryError Unit → Json
  | .ok _ => .str "ok"
  | .error e => errorJson e.kind e.message

namespace Scene

/-- The process of an inbox command. -/
def inboxAct : InboxCommand → Act Json
  | .init => do
    match ← Inbox.init with
    | .ok a => return a.toJson
    | .error e => return errorJson e.kind e.message
  | .openPanel => inboxResult <$> Inbox.openPanel
  | .closePanel => do Inbox.closePanel; return .null
  | .refresh => inboxResult <$> Inbox.refresh
  | .groups => Proc.read fun w => w.inbox.groups.toJson
  | .unreadTotal => Proc.read fun w => Json.ofNat w.inbox.unreadTotal
  | .badge => Proc.read fun w => ((badgeLabel w.inbox.unreadTotal).map Json.str).getD .null
  | .listing lid => do return ((← Inbox.listing lid).map ListingInfo.toJson).getD .null
  | .groupViews => do return .arr ((← Inbox.groupViews).map GroupView.toJson)
  | .toggleGroup lid => do return .bool (← Inbox.toggleGroup lid)
  | .select c => inboxResult <$> Inbox.select c
  | .send text => inboxResult <$> Inbox.send text
  | .inputChanged => do Inbox.inputChanged; return .null
  | .deleteSelected => inboxResult <$> Inbox.deleteSelected
  | .selected => do return ((← Inbox.selected).map Json.ofInt).getD .null
  | .isPolling => Proc.read fun w => .bool w.inbox.poller.isSome
  | .drop => do Inbox.drop; return .null
  | .world c => c.run

/-- The answer of an inbox operation once the inbox is gone. -/
def goneInbox : Json := errorJson "bad_input" "the registry has been dropped"

/-- Run an inbox command: the step it answers. Once the inbox is gone, its own operations
answer `goneInbox`. -/
def inboxStep (s : Scene) (cmd : InboxCommand) : Json × Scene :=
  let m := Marks.of s.world
  let act := if cmd.isInboxOp && s.world.inbox.dropped then pure goneInbox else inboxAct cmd
  let (r, s) := s.perform act
  let w := s.world
  let forwarded := (w.sessionEvents.drop m.sessionEvents).filterMap fun (i, e) =>
    (w.inbox.forwards.lookup i).map fun c => Json.obj [("chat_id", Json.ofInt c), ("session_event", e.toJson)]
  let step : Json := .obj [
    ("result", r.getD .null),
    ("events", .arr ((w.inboxEvents.drop m.inboxEvents).map InboxEvent.toJson)),
    ("session_events", .arr forwarded),
    ("polling", if w.inbox.dropped then .null else .bool w.inbox.poller.isSome),
    ("t", Json.ofNat w.now),
    ("requests", m.requests? w),
    ("connects", m.connects? w),
    ("frames", m.frames? w),
    ("notifications", m.shown? w)]
  (step, s)

end Scene

end MarketChat
