import MarketChat.Json.Fault
import MarketChat.Url.Host
/-!
# Errors of the chat client

Each error type is a closed set of causes. `kind` names the cause, `message` is the sentence a
user reads; an error that wraps another repeats the inner sentence after its own words.

* `HttpError`: a request that failed in transport, a status outside 200–299, a body that is
  not the expected JSON, an address that does not parse.
* `TransportError`: a socket that could not be opened.
* `ChatError`, `RegistryError`: what a chat session or the seller's list of chats refuses.
* `NotifyError`: what the notification platform refuses.
* `ConfigError`: a configuration file that cannot be read, parsed, or whose origin is not
  an address.
-/

namespace MarketChat

/-- Why an HTTP exchange failed. -/
inductive HttpError where
  | request (detail : String)
  | status (code : Nat) (url : String)
  | decode (e : JsonError)
  | invalidUrl (e : UrlError)
  | transport (detail : String)
  deriving Repr

namespace HttpError

/-- The name of the cause, as errors are reported. -/
def kind : HttpError → String
  | .request _ => "Request"
  | .status _ _ => "Status"
  | .decode _ => "Decode"
  | .invalidUrl _ => "InvalidUrl"
  | .transport _ => "Transport"

/-- The sentence a user reads. -/
def message : HttpError → String
  | .request d => "Request error: " ++ d
  | .status code url => "Unexpected status " ++ Nat.repr code ++ " from " ++ url
  | .decode e => "Decode error: " ++ e.message
  | .invalidUrl e => "Invalid URL: " ++ e.message
  | .transport d => "Transport error: " ++ d

end HttpError

/-- Why a socket could not be opened. -/
inductive TransportError where
  | connect (detail : String)
  | refused (url : String)
  deriving Repr

namespace TransportError

/-- The sentence a user reads. -/
def message : TransportError → String
  | .connect d => "WebSocket error: " ++ d
  | .refused url => "Connection refused: " ++ url

end TransportError

/-- What a chat session refuses. -/
inductive ChatError where
  | missingIdentifiers
  | createFailed (detail : String)
  | notConnected
  | sessionClosed
  | http (e : HttpError)
  | serialization (detail : String)
  deriving Repr

namespace ChatError

/-- The name of the cause, as errors are reported. -/
def kind : ChatError → String
  | .missingIdentifiers => "MissingIdentifiers"
  | .createFailed _ => "CreateFailed"
  | .notConnected => "NotConnected"
  | .sessionClosed => "SessionClosed"
  | .http _ => "Http"
  | .serialization _ => "Serialization"

/-- The sentence a user reads. -/
def message : ChatError → String
  | .missingIdentifiers => "Listing and seller identifiers are required"
  | .createFailed d => "Could not start conversation: " ++ d
  | .notConnected => "Not connected to chat"
  | .sessionClosed => "Chat session is closed"
  | .http e => "HTTP error: " ++ e.message
  | .serialization d => "Serialization error: " ++ d

end ChatError

/-- What the seller's list of chats refuses. -/
inductive RegistryError where
  | notAuthorized
  | invalidSellerId (id : String)
  | noActiveConversation
  | http (e : HttpError)
  | chat (e : ChatError)
  deriving Repr

namespace RegistryError

/-- The name of the cause, as errors are reported. -/
def kind : RegistryError → String
  | .notAuthorized => "NotAuthorized"
  | .invalidSellerId _ => "InvalidSellerId"
  | .noActiveConversation => "NoActiveConversation"
  | .http _ => "Http"
  | .chat _ => "Chat"

/-- The sentence a user reads. -/
def message : RegistryError → String
  | .notAuthorized => "Only registered sellers can open the chat panel"
  | .invalidSellerId id => "Invalid seller id: " ++ id
  | .noActiveConversation => "No conversation selected"
  | .http e => "HTTP error: " ++ e.message
  | .chat e => "Chat error: " ++ e.message

end RegistryError

/-- What the notification platform refuses. -/
inductive NotifyError where
  | unsupported
  | platform (detail : String)
  deriving Repr

namespace NotifyError

/-- The name of the cause, as errors are reported. -/
def kind : NotifyError → String
  | .unsupported => "Unsupported"
  | .platform _ => "Platform"

/-- The sentence a user reads. -/
def message : NotifyError → String
  | .unsupported => "Notifications are not supported"
  | .platform d => "Platform error: " ++ d

end NotifyError

/-- Why a configuration could not be loaded. -/
inductive ConfigError where
  | io (detail : String)
  | parse (e : JsonError)
  | invalidOrigin (e : UrlError)
  deriving Repr

namespace ConfigError

/-- The name of the cause, as errors are reported. -/
def kind : ConfigError → String
  | .io _ => "Io"
  | .parse _ => "Parse"
  | .invalidOrigin _ => "InvalidOrigin"

/-- The sentence a user reads. -/
def message : ConfigError → String
  | .io d => "IO error: " ++ d
  | .parse e => "Parse error: " ++ e.message
  | .invalidOrigin e => "Invalid origin: " ++ e.message

end ConfigError

end MarketChat
