import MarketChat.Chat.Error
import MarketChat.Json.Read
/-!
# HTTP requests and responses

A request is a method, an address, an optional JSON body and whether the session's
credentials go with it. A response is a status, an optional content type and a body text.

A response succeeds when its status lies in 200–299. Reading its body as JSON reads the whole
text; reading it "on success" refuses any other status first, naming the address.

Main definitions: `HttpRequest`, `HttpResponse.jsonOk`, `HttpResponse.decode`,
`HttpResponse.decodeOnSuccess`, `cacheKey`.
-/

namespace MarketChat

/-- The methods the client uses. -/
inductive HttpMethod where
  | get | post | delete
  deriving DecidableEq, Repr, Inhabited

/-- The method's name on the wire. -/
def HttpMethod.name : HttpMethod → String
  | .get => "GET"
  | .post => "POST"
  | .delete => "DELETE"

/-- An outgoing request. -/
structure HttpRequest where
  method : HttpMethod
  url : String
  body : Option Json := none
  credentials : Bool := false
  deriving Repr

/-- A completed response. -/
structure HttpResponse where
  status : Nat
  contentType : Option String
  body : String
  deriving Repr

/-- The content type of JSON bodies. -/
def jsonContentType : String := "application/json"

/-- The key under which a request's response is cached: `METHOD:URL`. -/
def cacheKey (method : HttpMethod) (url : String) : String := method.name ++ ":" ++ url

namespace HttpResponse

/-- A 200 response carrying a value's compact JSON text. -/
def jsonOk (v : Json) : HttpResponse := ⟨200, some jsonContentType, v.compact⟩

/-- The status lies in 200–299. -/
def isSuccess (r : HttpResponse) : Bool := 200 ≤ r.status && r.status < 300

/-- Refuse a status outside 200–299, naming the address. -/
def ensureSuccess (r : HttpResponse) (url : String) : Except HttpError Unit :=
  if r.isSuccess then .ok () else .error (.status r.status url)

/-- Read the whole body with a reader. -/
def decode {α : Type} (r : HttpResponse) (reader : Reader α) : Except HttpError α :=
  match Reader.run reader r.body with
  | .ok a => .ok a
  | .error e => .error (.decode e)

/-- Refuse an unsuccessful status, then read the body. -/
def decodeOnSuccess {α : Type} (r : HttpResponse) (url : String) (reader : Reader α) :
    Except HttpError α := do
  r.ensureSuccess url
  r.decode reader

end HttpResponse

end MarketChat
