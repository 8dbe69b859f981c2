import MarketChat.Session.Link
/-!
# Chat sessions

A chat session shows one buyer–seller conversation at a time.

* `openListing` opens the buyer's conversation about a listing with a seller. Both ids must
  be positive. It starts a lifetime, reports the opening and the discovering phase, resolves
  the actor and looks the conversation up. A found conversation is attached: its history is
  loaded and its link started. Otherwise (none found, or the lookup failed) the session
  reports the empty conversation and awaits the first message.
* `openExisting` opens a known chat, as the seller does from the inbox.
* `send` sends a message; blank text is ignored. The first send of a new conversation creates
  it (once, under a lock, for concurrent sends), attaches it, loads its history, starts its
  link and waits for the socket for at most the connection timeout. A message that cannot be
  sent is reported as not connected.
* `inputChanged` sends a typing signal while online and restarts the idle timer, which sends
  the end of typing when it runs out.

Every wait stops when the lifetime ends: an operation then answers that the session is
closed.

Main definitions: `Session.openListing`, `Session.openExisting`, `Session.send`,
`Session.inputChanged`.
-/

namespace MarketChat

namespace Session

/-- Open the buyer's conversation about a listing with a seller. -/
def openListing (i : Nat) (listingId sellerId : Option Int) : Act (Except ChatError Unit) := do
  let ids := match listingId, sellerId with
    | some l, some s => if l > 0 ∧ s > 0 then some (l, s) else none
    | _, _ => none
  let some (l, s) := ids
    | do
      emit i (.error ChatError.missingIdentifiers.message)
      return .error .missingIdentifiers
  let tok ← begin i ⟨some l, some s, none, sellerLabel⟩
  emit i (.opened (some l) none)
  setPhase i .discovering
  let some a ← Proc.guarded tok (actor i) | return .error .sessionClosed
  let some found ← Proc.guarded tok (Api.findConversation l s a.id) | return .error .sessionClosed
  match found with
  | .ok (some conv) =>
    match conv.id with
    | some chatId =>
      attach i chatId
      loadHistory i chatId tok a
      startLink i chatId tok a
    | none => awaitFirstMessage i
  | _ => awaitFirstMessage i
  return .ok ()

/-- Open a known chat with a peer label. -/
def openExisting (i : Nat) (chatId : Int) (peerLabel : String) : Act (Except ChatError Unit) := do
  let tok ← begin i ⟨none, none, some chatId, peerLabel⟩
  emit i (.opened none (some chatId))
  setPhase i .discovering
  let some a ← Proc.guarded tok (actor i) | return .error .sessionClosed
  loadHistory i chatId tok a
  startLink i chatId tok a
  return .ok ()

/-- Wait for the conversation lock; leaving the line when interrupted. -/
def lockCreating (i : Nat) (me : Nat) : Act Unit := do
  let taken ← Proc.update fun w =>
    let (taken, l) := (w.session i).creating.arrive me
    (taken, w.modifySession i fun s => { s with creating := l })
  if !taken then
    Proc.onAbort (change i fun s => { s with creating := s.creating.leave me }) <|
      Proc.await { ready := fun w => if (w.session i).creating.heldBy me then some ((), w) else none }

/-- Release the conversation lock. -/
def unlockCreating (i : Nat) (me : Nat) : Act Unit :=
  change i fun s => { s with creating := s.creating.leave me }

/-- Create the conversation while holding the lock. -/
def createHeld (i : Nat) (tok : Nat) (a : Actor) : Act (Except ChatError Unit) := do
  let some target := (← state i).target | return .error .sessionClosed
  if target.chatId.isSome then return .ok ()
  let (some l, some s) := (target.listingId, target.sellerId) | return .error .missingIdentifiers
  let request : NewConversation := ⟨l, s, a.id, a.isRegistered⟩
  let some created ← Proc.guarded tok (Api.createConversation request) | return .error .sessionClosed
  let chatId := match created with
    | .ok c => c.id
    | .error _ => none
  let some chatId := chatId
    | do
      let err := ChatError.createFailed "the conversation could not be created"
      emit i (.error err.message)
      return .error err
  attach i chatId
  loadHistory i chatId tok a
  startLink i chatId tok a
  let limit ← Proc.read (·.config.connectTimeoutMs)
  let online : World → Option (Unit × World) := fun w =>
    if (w.session i).online then some ((), w) else none
  let some _ ← Proc.guarded tok (Proc.waitUntil online limit) | return .error .sessionClosed
  return .ok ()

/-- Create the conversation of the first send, once. -/
def createConversation (i : Nat) (tok : Nat) (a : Actor) : Act (Except ChatError Unit) := do
  let me ← Proc.self
  let some _ ← Proc.guarded tok (lockCreating i me) | return .error .sessionClosed
  let r ← Proc.onAbort (unlockCreating i me) (createHeld i tok a)
  unlockCreating i me
  return r

/-- Send a message. -/
def send (i : Nat) (text : String) : Act (Except ChatError Unit) := do
  let text := Text.trimSpace text
  if text.isEmpty then return .ok ()
  let some tok ← token i | return .error .sessionClosed
  let some a ← Proc.guarded tok (actor i) | return .error .sessionClosed
  if (← state i).chatId.isNone then
    if let .error e ← createConversation i tok a then return .error e
  if ← sendFrame i (OutboundFrame.message text a.isRegistered).encode then return .ok ()
  emit i (.error ChatError.notConnected.message)
  return .error .notConnected

/-- The message input changed: signal typing and restart the idle timer. -/
def inputChanged (i : Nat) : Act Unit := do
  let some tok ← token i | return
  if !(← state i).online then return
  sendTyping i true
  let idle ← Proc.read (·.config.typingIdleMs)
  let timer ← Proc.fork do
    if (← Proc.guarded tok (Proc.sleep idle)).isSome then sendTyping i false
  let previous ← Proc.update fun w =>
    ((w.session i).typingTimer, w.modifySession i fun s => { s with typingTimer := some timer })
  if let some p := previous then Proc.stop p

end Session

end MarketChat
