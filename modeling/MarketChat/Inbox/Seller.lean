import MarketChat.Session.Chat
import MarketChat.Runtime.Join
/-!
# The seller's inbox

The inbox lists a registered seller's conversations grouped by listing, keeps them fresh, and
shows one of them in a chat session.

* `init` resolves the actor: only a registered actor whose id reads as a 64-bit integer (an
  optional sign, then decimal digits) is a seller.
* `openPanel` refreshes unless the last snapshot is younger than the minimum interval, then
  starts polling: a task refreshes every poll interval, the first tick one interval after it
  starts, later ticks each one interval after the previous tick's due time. A timer cannot
  tick at a zero interval, so with a zero poll interval the task ends at once and never
  refreshes, though polling counts as started.
* `refresh` replaces the snapshot and reports the unread total, or reports the failure.
* `select` looks the conversation up, closes the selected session, and opens a session on the
  chat whose events are forwarded under the chat's id; `send`, `inputChanged` and
  `deleteSelected` act on the selected conversation. Opening, deleting and selecting refresh
  the snapshot afterwards. Every operation on the selection holds its lock (`holdingActive`),
  a fair lock handed on in order of arrival; the lookup of `select` and the refreshes are made
  outside it.
* Group views title each group by its listing (looked up once, through the cache, all
  groups' lookups side by side as `Proc.joinAll` runs them), or a fallback title, and tell
  whether the group is folded.

Main definitions: `Inbox.init`, `Inbox.openPanel`, `Inbox.refresh`, `Inbox.select`,
`Inbox.send`, `Inbox.deleteSelected`, `Inbox.groupViews`, `Inbox.toggleGroup`, `Inbox.drop`.
-/

namespace MarketChat

/-- One group of conversations as the seller sees it. -/
structure GroupView where
  listingId : Int
  title : String
  conversations : List Summary
  unread : Nat
  collapsed : Bool
  deriving Repr

/-- A group's unread count: its conversations' counts added in 32-bit arithmetic. -/
def GroupView.unreadOf (convs : List Summary) : Nat :=
  (convs.foldl (fun a c => a + c.unreadCount) 0) % 4294967296

/-- The JSON of a group view. -/
def GroupView.toJson (g : GroupView) : Json :=
  .obj [("listing_id", Json.ofInt g.listingId), ("title", .str g.title),
    ("unread", Json.ofNat g.unread), ("count", Json.ofNat g.conversations.length),
    ("collapsed", .bool g.collapsed),
    ("conversation_ids", .arr (g.conversations.map fun c => Json.ofInt c.id))]

namespace Inbox

/-- The inbox's state. -/
def state : Act InboxState := Proc.read (·.inbox)

/-- Change the inbox's state. -/
def change (f : InboxState → InboxState) : Act Unit :=
  Proc.modify fun w => { w with inbox := f w.inbox }

/-- Report an event. -/
def emit (e : InboxEvent) : Act Unit :=
  Proc.modify fun w => { w with inboxEvents := w.inboxEvents ++ [e] }

/-- Decimal digits as a number. -/
def digitsValue (cs : List Char) : Option Nat :=
  if cs.isEmpty || !cs.all Char.isDigit then none
  else some (cs.foldl (fun acc c => acc * 10 + (c.toNat - 48)) 0)

/-- A 64-bit integer written with an optional sign and decimal digits. -/
def parseInt64 (s : String) : Option Int :=
  let (neg, digits) := match s.toList with
    | '-' :: rest => (true, rest)
    | '+' :: rest => (false, rest)
    | cs => (false, cs)
  match digitsValue digits with
  | none => none
  | some n =>
    let v : Int := if neg then -(n : Int) else n
    if -9223372036854775808 ≤ v ∧ v < 9223372036854775808 then some v else none

/-- Resolve the actor and accept a registered seller. -/
def init : Act (Except RegistryError Actor) := do
  let a ← Identity.resolve
  if !a.isRegistered then return .error .notAuthorized
  match parseInt64 a.id with
  | none => return .error (.invalidSellerId a.id)
  | some sid =>
    change fun s => { s with sellerId := some sid }
    return .ok a

/-- Replace the snapshot of grouped conversations. -/
def refresh : Act (Except RegistryError Unit) := do
  let some sid := (← state).sellerId | return .error .notAuthorized
  match ← Api.sellerGroups sid with
  | .ok groups =>
    let now ← Proc.time
    change fun s => { s with groups, lastRefresh := some now }
    emit (.groupsUpdated (← state).unreadTotal)
    return .ok ()
  | .error e =>
    emit (.refreshFailed e.message)
    return .error (.http e)

/-- Enough ticks for any run of the poller. -/
def pollFuel : Nat := 100000

/-- Refresh at every tick until the token is cancelled or the inbox is gone. -/
def pollLoop (tok period : Nat) : Nat → Nat → Act Unit
  | 0, _ => pure ()
  | fuel + 1, due => do
    let tick : World → Option (Unit × World) := fun w => if due ≤ w.now then some ((), w) else none
    let some _ ← Proc.guarded tok (Proc.await { ready := tick, deadline := some due }) | return
    if (← state).dropped then return
    let _ ← refresh
    pollLoop tok period fuel (due + period)

/-- Start polling, once. -/
def startPolling : Act Unit := do
  if (← state).poller.isSome then return
  let tok ← Proc.update (·.freshToken)
  change fun s => { s with poller := some tok }
  let period ← Proc.read (·.config.pollIntervalMs)
  let _ ← Proc.fork do
    if period = 0 then return
    let start ← Proc.time
    pollLoop tok period pollFuel (start + period)

/-- Stop polling. -/
def stopPolling : Act Unit := do
  if let some t := (← state).poller then
    Proc.modify (·.cancel t)
    change fun s => { s with poller := none }

/-- Open the panel: refresh a stale snapshot and poll. -/
def openPanel : Act (Except RegistryError Unit) := do
  let s ← state
  if s.sellerId.isNone then return .error .notAuthorized
  let minInterval ← Proc.read (·.config.refreshMinIntervalMs)
  let now ← Proc.time
  let stale : Bool := match s.lastRefresh with
    | some since => decide (now - since > minInterval)
    | none => true
  if stale then
    let _ ← refresh
  startPolling
  return .ok ()

/-- Wait for the lock of the selection, in order of arrival. -/
def lockActive (me : Nat) : Act Unit := do
  let taken ← Proc.update fun w =>
    let (taken, l) := w.inbox.activeLock.arrive me
    (taken, { w with inbox := { w.inbox with activeLock := l } })
  if !taken then
    Proc.await { ready := fun w => if w.inbox.activeLock.heldBy me then some ((), w) else none }

/-- Let go of the lock of the selection: it passes to the next in line. -/
def unlockActive (me : Nat) : Act Unit :=
  change fun s => { s with activeLock := s.activeLock.leave me }

/-- Run an operation on the selection while holding its lock. -/
def holdingActive {α : Type} (body : Act α) : Act α := do
  let me ← Proc.self
  lockActive me
  let r ← body
  unlockActive me
  return r

/-- Deselect the selected conversation and close its session. -/
def deselect : Act Unit := do
  if let some a := (← state).active then
    change fun s => { s with active := none }
    Session.close a.session

/-- Close the panel: stop polling and close the selected conversation. -/
def closePanel : Act Unit := do
  stopPolling
  holdingActive deselect

/-- A listing, looked up once. -/
def listing (listingId : Int) : Act (Option ListingInfo) := do
  if let some info := (← state).listings.lookup listingId then return some info
  match ← Api.listing listingId with
  | .ok info =>
    change fun s => { s with listings := s.listings ++ [(listingId, info)] }
    return some info
  | .error _ => return none

/-- Whether a listing's group is folded. -/
def collapsedIn (w : World) (listingId : Int) : Bool :=
  match w.store.get (collapsedKey listingId) with
  | .ok flag => flag = some "true"
  | .error _ => false

/-- The fuel of the joined listing lookups of `groupViews`. -/
def lookupFuel : Nat := 1000000

/-- The groups as the seller sees them. The listings are looked up side by side. -/
def groupViews : Act (List GroupView) := do
  let groups := (← state).groups
  let listings ← Proc.joinAll lookupFuel (groups.map fun g => listing g.1)
  let w ← Proc.read id
  return (groups.zip listings).map fun ((lid, convs), info) =>
    { listingId := lid
      title := (info.map ListingInfo.title).getD (fallbackTitle lid)
      conversations := convs
      unread := GroupView.unreadOf convs
      collapsed := collapsedIn w lid }

/-- Fold or unfold a listing's group: whether it is folded now. -/
def toggleGroup (listingId : Int) : Act Bool :=
  Proc.update fun w =>
    let key := collapsedKey listingId
    let collapsed := match w.store.get key with
      | .ok flag => flag ≠ some "true"
      | .error _ => true
    let w := match w.store.set key (if collapsed then "true" else "false") with
      | .ok s => { w with store := s }
      | .error _ => w
    (collapsed, w)

/-- Close the selected conversation and open a session on a chat, selected once it is open. -/
def switchTo (chatId : Int) (label : String) : Act (Except RegistryError Unit) := do
  deselect
  let i ← Proc.update (·.addSession)
  change fun s => { s with forwards := s.forwards ++ [(i, chatId)] }
  match ← Session.openExisting i chatId label with
  | .error e =>
    Session.close i
    return .error (.chat e)
  | .ok _ =>
    change fun s => { s with active := some ⟨chatId, i⟩ }
    return .ok ()

/-- Show a conversation: look it up, then, holding the lock of the selection, close the
selected one and open a session on this chat; refresh once it is shown. -/
def select (chatId : Int) : Act (Except RegistryError Unit) := do
  match ← Api.conversationInfo chatId with
  | .error e =>
    emit (.error "Could not open chat")
    return .error (.http e)
  | .ok info =>
    let label := buyerLabel info.buyerId info.buyerIsRegistered
    let r ← holdingActive (switchTo chatId label)
    if r.isOk then
      let _ ← refresh
    return r

/-- Send a message in the selected conversation. -/
def send (text : String) : Act (Except RegistryError Unit) :=
  holdingActive do
    match (← state).active with
    | none => return .error .noActiveConversation
    | some a =>
      match ← Session.send a.session text with
      | .error e => return .error (.chat e)
      | .ok _ => return .ok ()

/-- The message input of the selected conversation changed. -/
def inputChanged : Act Unit :=
  holdingActive do
    if let some a := (← state).active then Session.inputChanged a.session

/-- Delete the selected conversation on the server, then deselect it. -/
def deleteHeld : Act (Except RegistryError Unit) := do
  match (← state).active with
  | none => return .error .noActiveConversation
  | some a =>
    match ← Api.deleteConversation a.chatId with
    | .error e =>
      emit (.error "Could not delete chat")
      return .error (.http e)
    | .ok _ =>
      deselect
      return .ok ()

/-- Delete the selected conversation, holding the lock of the selection; refresh once it is
deleted. -/
def deleteSelected : Act (Except RegistryError Unit) := do
  let r ← holdingActive deleteHeld
  if r.isOk then
    let _ ← refresh
  return r

/-- The chat of the selected conversation. -/
def selected : Act (Option Int) :=
  holdingActive do return (← state).active.map (·.chatId)

/-- Let go of the inbox: polling stops and the selected conversation closes. -/
def drop : Act Unit := do
  stopPolling
  change fun s => { s with dropped := true }
  deselect

end Inbox

end MarketChat
