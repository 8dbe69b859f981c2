import MarketChat.Sim.World
/-!
# The backend API

Requests go to the backend through a response cache. A request is cached only when it is a
`GET` with a positive lifetime: a live entry under `METHOD:URL` answers it as a 200 JSON
response with the entry's compact text; otherwise the backend answers, and a successful
answer whose body is JSON is stored for that lifetime. Everything else goes straight to the
backend.

Each endpoint builds its address from the configured origin and prefix, parsed as a URL
(query parameters form-encoded after it), and reads the answer as JSON after refusing a status
outside 200–299. Only the listing lookup goes through the cache, for the configured lifetime.

Main definitions: `Api.execute`, `Api.fetch`, and the endpoints `Api.currentUser`,
`Api.findConversation`, `Api.createConversation`, `Api.messages`, `Api.markRead`,
`Api.sellerGroups`, `Api.conversationInfo`, `Api.deleteConversation`, `Api.listing`,
`Api.socketUrl`.
-/

namespace MarketChat

namespace Api

/-- Send a request to the backend: the request is logged at once, the answer comes after the
route's delay. -/
def execute (req : HttpRequest) : Act (Except HttpError HttpResponse) :=
  Proc.bind (Proc.update fun w =>
    let (b, delay, answer) := w.backend.exchange req
    ((delay, answer), { w with backend := b })) fun (delay, answer) =>
  if delay > 0 then Proc.bind (Proc.sleep delay) fun _ => pure answer
  else pure answer

/-- A live cached value. -/
def cacheGet (key : String) : Act (Option Json) :=
  Proc.update fun w =>
    let (v, c, s) := w.cache.get w.store w.cacheNow key
    (v, { w with cache := c, store := s })

/-- Cache a value for `ttl` milliseconds. -/
def cacheSet (key : String) (data : Json) (ttl : Nat) : Act Unit :=
  Proc.modify fun w =>
    let (c, s) := w.cache.setWithTtl w.store w.cacheNow key data ttl
    { w with cache := c, store := s }

/-- Send a request through the response cache with lifetime `ttl`. -/
def fetch (req : HttpRequest) (ttl : Nat) : Act (Except HttpError HttpResponse) := do
  if req.method ≠ .get ∨ ttl = 0 then return ← execute req
  let key := cacheKey req.method req.url
  match ← cacheGet key with
  | some data => return .ok (HttpResponse.jsonOk data)
  | none =>
    let answer ← execute req
    if let .ok resp := answer then
      if resp.isSuccess then
        if let .ok data := Reader.run Reader.value resp.body then cacheSet key data ttl
    return answer

/-- The address of an API path with query parameters. -/
def address (c : ChatConfig) (path : String) (params : List (String × String)) :
    Except HttpError String :=
  match Url.parse (c.apiUrl path) with
  | .ok u => .ok (if params.isEmpty then u.serialize else (u.appendPairs params).serialize)
  | .error e => .error (.invalidUrl e)

/-- Call an endpoint: build its address, send the request built from it, read the answer. -/
def call {α : Type} (path : String) (params : List (String × String))
    (request : String → HttpRequest) (ttl : Nat)
    (answer : String → HttpResponse → Except HttpError α) : Act (Except HttpError α) := do
  let config ← Proc.read (·.config)
  match address config path params with
  | .error e => return .error e
  | .ok url =>
    match ← fetch (request url) ttl with
    | .error e => return .error e
    | .ok resp => return answer url resp

/-- Read a successful answer by a reader. -/
def expect {α : Type} (reader : Reader α) (url : String) (resp : HttpResponse) :
    Except HttpError α :=
  resp.decodeOnSuccess url reader

/-- Accept any successful answer. -/
def expectSuccess (url : String) (resp : HttpResponse) : Except HttpError Unit :=
  resp.ensureSuccess url

/-- The signed-in user, as the backend describes it. -/
def currentUser : Act (Except HttpError Json) :=
  call "/auth/me" [] (fun url => { method := .get, url, credentials := true }) 0
    (expect Reader.value)

/-- The buyer's conversation about a listing with a seller, if it has an id. -/
def findConversation (listingId sellerId : Int) (buyerId : String) :
    Act (Except HttpError (Option Conversation)) := do
  let found ← call "/chat/chats/find"
    [("iphone_id", toString listingId), ("seller_id", toString sellerId), ("buyer_id", buyerId)]
    (fun url => { method := .get, url }) 0 (expect (Reader.optional Conversation.read))
  return found.map fun c => c.filter (·.id.isSome)

/-- Create a conversation. -/
def createConversation (n : NewConversation) : Act (Except HttpError Conversation) :=
  call "/chat/chats" [] (fun url => { method := .post, url, body := some n.toJson.toValue }) 0
    (expect Conversation.read)

/-- The messages of a chat. -/
def messages (chatId : Int) : Act (Except HttpError (List Message)) :=
  call ("/chat/chats/" ++ toString chatId ++ "/messages") [] (fun url => { method := .get, url }) 0
    (expect (Reader.items Message.read))

/-- Mark a chat read for a user. -/
def markRead (chatId : Int) (userId : String) : Act (Except HttpError Unit) :=
  call ("/chat/chats/" ++ toString chatId ++ "/read") [("user_id", userId)]
    (fun url => { method := .post, url }) 0 expectSuccess

/-- A seller's conversations grouped by listing. -/
def sellerGroups (sellerId : Int) : Act (Except HttpError Groups) :=
  call ("/chat/chats/seller/" ++ toString sellerId ++ "/grouped") []
    (fun url => { method := .get, url }) 0 (expect Groups.read)

/-- A conversation by its chat id. -/
def conversationInfo (chatId : Int) : Act (Except HttpError Conversation) :=
  call ("/chat/chats/" ++ toString chatId ++ "/info") [] (fun url => { method := .get, url }) 0
    (expect Conversation.read)

/-- Delete a conversation. -/
def deleteConversation (chatId : Int) : Act (Except HttpError Unit) :=
  call ("/chat/chats/" ++ toString chatId) [] (fun url => { method := .delete, url }) 0
    expectSuccess

/-- A listing, through the cache. -/
def listing (listingId : Int) : Act (Except HttpError ListingInfo) := do
  let ttl ← Proc.read (·.config.cacheTtlMs)
  call "/posts/iphone" [("id", toString listingId)] (fun url => { method := .get, url }) ttl
    (expect ListingInfo.read)

/-- The socket address of a chat for a user. -/
def socketUrl (c : ChatConfig) (chatId : Int) (userId : String) : Except HttpError String :=
  match c.socketUrl chatId userId with
  | .ok u => .ok u.serialize
  | .error e => .error (.transport e.message)

end Api

end MarketChat
