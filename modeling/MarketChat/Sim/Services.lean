import MarketChat.Sim.Buyer
/-!
# The client's services in a world

Worlds that exercise one service of the client at a time:

* the cached fetcher: requests with a cache lifetime, a manual cache clock, cache reads;
* the API: every endpoint, answering its value or its error, with the requests it made;
* identity: resolving the actor and the anonymous id under virtual time;
* notifications: notifying, building, clicking and the permission prompt, with the platform
  calls each made.

Main definitions: `FetchCommand`, `ApiCall`, `IdentityCommand`, `NotifyCommand` and their
`Scene` steps.
-/

namespace MarketChat

/-- The JSON of a response. -/
def HttpResponse.toJson (r : HttpResponse) : Json :=
  .obj [("status", Json.ofNat r.status), ("content_type", (r.contentType.map Json.str).getD .null),
    ("body", .str r.body)]

/-- A command to a world with a cached fetcher. -/
inductive FetchCommand where
  | fetch (req : HttpRequest) (ttl : Nat)
  | route (r : Route)
  | clockAdvance (ms : Nat)
  | clockSet (t : Int)
  | cacheGet (key : String)
  | clearUserData
  deriving Repr

/-- A call to the API. -/
inductive ApiCall where
  | currentUser
  | findConversation (listingId sellerId : Int) (buyerId : String)
  | createConversation (n : NewConversation)
  | messages (chatId : Int)
  | markRead (chatId : Int) (userId : String)
  | sellerGroups (sellerId : Int)
  | conversationInfo (chatId : Int)
  | deleteConversation (chatId : Int)
  | listing (listingId : Int)
  | socketUrl (chatId : Int) (userId : String)
  | clockAdvance (ms : Nat)
  | cacheLen
  deriving Repr

/-- A command to a world exercising identity. -/
inductive IdentityCommand where
  | resolve
  | anonymousId
  | forget
  | advance (ms : Nat)
  | route (r : Route)
  | stored
  deriving Repr

/-- A command to a world exercising notifications. -/
inductive NotifyCommand where
  | notify (label text : String) (chatId : Int)
  | build (label text : String) (chatId : Int)
  | click (n : Notification) (action : Option NotificationAction)
  | shouldPrompt
  | markPrompted
  | setFocus (visible focused : Bool)
  | setPermission (p : Permission)
  | setSupported (supported : Bool)
  | shown
  | storeGet (key : String)
  deriving Repr

namespace Scene

/-- The manual cache clock's time. -/
def manualNow (w : World) : Int :=
  match w.cacheClock with
  | .manual t => t
  | .shifted b => b + w.now

/-- Run a fetcher command. -/
def fetchStep (s : Scene) : FetchCommand → Json × Scene
  | .fetch req ttl =>
    let m := Marks.of s.world
    let (r, s) := s.perform (Api.fetch req ttl)
    let w := s.world
    let response := match r with
      | some (.ok resp) => resp.toJson
      | some (.error e) => errorJson e.kind e.message
      | none => .null
    (.obj [("response", response), ("network", Json.ofNat (w.backend.log.length - m.requests)),
      ("cache_len", Json.ofNat w.cache.size)], s)
  | .route r =>
    let (_, s) := s.perform (Proc.modify fun w => { w with backend := w.backend.addRoute r })
    (.obj [("ok", .bool true)], s)
  | .clockAdvance ms =>
    let t := addMillis (manualNow s.world) ms
    let (_, s) := s.perform (Proc.modify fun w => { w with cacheClock := .manual t })
    (.obj [("now", Json.ofInt t)], s)
  | .clockSet t =>
    let (_, s) := s.perform (Proc.modify fun w => { w with cacheClock := .manual t })
    (.obj [("now", Json.ofInt t)], s)
  | .cacheGet key =>
    let (v, s) := s.perform (Api.cacheGet key)
    (.obj [("value", (v.join).getD .null)], s)
  | .clearUserData =>
    let (n, s) := s.perform (Proc.update fun w =>
      let (n, c, st) := w.cache.clearUserData w.store
      (n, { w with cache := c, store := st }))
    (.obj [("removed", Json.ofNat (n.getD 0))], s)

/-- An API answer: `{ok: value}` or the error. -/
def apiAnswer {α : Type} (enc : α → Json) : Except HttpError α → Json
  | .ok a => .obj [("ok", enc a)]
  | .error e => errorJson e.kind e.message

/-- The process of an API call. -/
def apiAct : ApiCall → Act Json
  | .currentUser => apiAnswer id <$> Api.currentUser
  | .findConversation l s b =>
    apiAnswer (fun c => (Option.map Conversation.toJson c).getD .null) <$> Api.findConversation l s b
  | .createConversation n => apiAnswer Conversation.toJson <$> Api.createConversation n
  | .messages c => apiAnswer (fun ms => .arr (ms.map Message.toJson)) <$> Api.messages c
  | .markRead c u => apiAnswer (fun _ => .null) <$> Api.markRead c u
  | .sellerGroups s => apiAnswer Groups.toJson <$> Api.sellerGroups s
  | .conversationInfo c => apiAnswer Conversation.toJson <$> Api.conversationInfo c
  | .deleteConversation c => apiAnswer (fun _ => .null) <$> Api.deleteConversation c
  | .listing l => apiAnswer ListingInfo.toJson <$> Api.listing l
  | .socketUrl c u => Proc.read fun w => apiAnswer Json.str (Api.socketUrl w.config c u)
  | .clockAdvance ms => do
    Proc.modify fun w => { w with cacheClock := .manual (addMillis (manualNow w) ms) }
    return .obj [("ok", .null)]
  | .cacheLen => Proc.read fun w => .obj [("cache_len", Json.ofNat w.cache.size)]

/-- Add members to an object. -/
def withMembers (j : Json) (extra : List (String × Json)) : Json :=
  match j with
  | .obj ms => .obj (ms ++ extra)
  | _ => j

/-- Run an API call, adding the requests it made. -/
def apiStep (s : Scene) (call : ApiCall) : Json × Scene :=
  let m := Marks.of s.world
  let (r, s) := s.perform (apiAct call)
  (withMembers (r.getD .null) [("requests", m.requests? s.world)], s)

/-- The process of an identity command. -/
def identityAct : IdentityCommand → Act Json
  | .resolve => do
    let a ← Identity.resolve
    return .obj [("id", .str a.id), ("is_registered", .bool a.isRegistered),
      ("uuid_v4", .bool (isUuidV4 a.id))]
  | .anonymousId => do
    let id ← Identity.anonymousId
    return .obj [("id", .str id), ("uuid_v4", .bool (isUuidV4 id))]
  | .forget => do Identity.forget; return .obj [("ok", .bool true)]
  | .advance ms => do Proc.sleep ms; return .obj [("ok", .bool true)]
  | .route r => do
    Proc.modify fun w => { w with backend := w.backend.addRoute r }
    return .obj [("ok", .bool true)]
  | .stored => Proc.read fun w =>
    match w.store.get Identity.anonymousKey with
    | .ok v => .obj [("stored", (v.map Json.str).getD .null)]
    | .error e => errorJson e.kind e.message

/-- Run an identity command, adding the requests it made. -/
def identityStep (s : Scene) (cmd : IdentityCommand) : Json × Scene :=
  let m := Marks.of s.world
  let (r, s) := s.perform (identityAct cmd)
  (withMembers (r.getD .null) [("requests", m.requests? s.world)], s)

/-- Run a notification command on a world: its answer. -/
def notifyIn (w : World) : NotifyCommand → Json × World
  | .notify label text chatId =>
    let (o, w) := Bridge.notifyIn w label text chatId
    (.obj [("outcome", o.toJson), ("permission", .str w.platform.permission.name)], w)
  | .build label text chatId =>
    let n := Notification.build w.config label text chatId
    (.obj [("notification", n.toJson), ("body_chars", Json.ofNat n.body.length),
      ("action_titles", .arr (n.actions.map fun a => .str a.title))], w)
  | .click n action =>
    let before := w.windows.calls.length
    let (r, w) := Bridge.click w n action
    let outcome := match r with
      | .ok o => o.toJson
      | .error e => errorJson e.kind e.message
    (.obj [("outcome", outcome),
      ("windows", .arr ((w.windows.calls.drop before).map WindowCall.toJson))], w)
  | .shouldPrompt => (.obj [("should_prompt", .bool (Bridge.shouldPrompt w))], w)
  | .markPrompted => (.obj [("ok", .bool true)], Bridge.markPrompted w)
  | .setFocus v f => (.obj [("ok", .bool true)], { w with focus := ⟨v, f⟩ })
  | .setPermission p =>
    (.obj [("ok", .bool true)], { w with platform := { w.platform with permission := p } })
  | .setSupported b =>
    (.obj [("ok", .bool true)], { w with platform := { w.platform with supported := b } })
  | .shown => (.obj [("shown", .arr (w.platform.shown.map Notification.toJson))], w)
  | .storeGet key =>
    match w.store.get key with
    | .ok v => (.obj [("value", (v.map Json.str).getD .null)], w)
    | .error e => (errorJson e.kind e.message, w)

/-- Run a notification command, adding the platform calls it made. -/
def notifyStep (s : Scene) (cmd : NotifyCommand) : Json × Scene :=
  let m := Marks.of s.world
  let (r, w) := notifyIn s.world cmd
  (withMembers r [("platform", m.calls? w)], { s with pool := { s.pool with state := w } })

end Scene

end MarketChat
