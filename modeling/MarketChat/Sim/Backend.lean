import MarketChat.Http.Exchange
import MarketChat.Text.Search
/-!
# A scripted HTTP backend

The backend answers from a list of routes. A route matches a request of its method whose
address contains its fragment; of the matching routes the one with the longest fragment (in
UTF-8 bytes) answers, and of equally long ones the one added last. A request no route matches
is answered 404 with `{"detail":"Not Found"}`.

A route gives the status, body and content type, a delay before the answer, or a transport
failure instead of an answer. Every request is logged, in order.

A backend the client cannot reach receives nothing: every request fails at once, before
reaching it, and nothing is logged.

Main definitions: `Route`, `Backend`, `Backend.exchange`.
-/

namespace MarketChat

/-- One scripted answer. -/
structure Route where
  method : HttpMethod := .get
  fragment : String
  status : Nat := 200
  body : String := ""
  contentType : Option String := some jsonContentType
  delayMs : Nat := 0
  fail : Option String := none
  deriving Repr

/-- The backend: its routes and the requests it received. -/
structure Backend where
  routes : List Route := []
  log : List HttpRequest := []
  /-- Requests reach the backend. -/
  reachable : Bool := true
  deriving Repr

namespace Backend

/-- The answer to an unmatched request. -/
def notFound : HttpResponse := ⟨404, some jsonContentType, "\x7b\"detail\":\"Not Found\"\x7d"⟩

/-- The route answering a request: the longest matching fragment, the last of equals. -/
def route? (b : Backend) (req : HttpRequest) : Option Route :=
  b.routes.foldl (fun best r =>
    if r.method = req.method && Text.occursIn r.fragment req.url then
      match best with
      | some b' => if r.fragment.utf8ByteSize ≥ b'.fragment.utf8ByteSize then some r else best
      | none => some r
    else best) none

/-- Receive a request: log it, and give the delay and the answer. An unreachable backend
answers a failed request at once and logs nothing. -/
def exchange (b : Backend) (req : HttpRequest) : Backend × Nat × Except HttpError HttpResponse :=
  let b' := { b with log := b.log ++ [req] }
  if !b.reachable then (b, 0, .error (.request ("error sending request for url (" ++ req.url ++ ")")))
  else match b.route? req with
  | none => (b', 0, .ok notFound)
  | some r =>
    match r.fail with
    | some msg => (b', r.delayMs, .error (.transport msg))
    | none => (b', r.delayMs, .ok ⟨r.status, r.contentType, r.body⟩)

/-- Add a route after the others. -/
def addRoute (b : Backend) (r : Route) : Backend := { b with routes := b.routes ++ [r] }

end Backend

/-- The JSON of a logged request. -/
def HttpRequest.toJson (r : HttpRequest) : Json :=
  .obj [("method", .str r.method.name), ("url", .str r.url), ("body", r.body.getD .null),
    ("credentials", .bool r.credentials)]

end MarketChat
