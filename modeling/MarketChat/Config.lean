import MarketChat.Url.Parse
import MarketChat.Chat.Error
import MarketChat.Json.Read
/-!
# Client configuration

The client is configured by a JSON object whose every member is optional: the backend origin,
the API prefix, timings in milliseconds (reconnection delay and attempts, typing idle time,
connection timeout, cache lifetimes, refresh and polling intervals), the notification body
limit and path, and the data directory. A configuration file must hold such an object (or an
array of the members in order) and an origin that reads as a URL.

Addresses are built from the origin as written, without its trailing slashes: the API address
of a path is `origin + prefix + path`, the notification address `origin + path`. The socket
address is built on the parsed origin instead: the scheme becomes `wss` for `https` and `ws`
otherwise, the path becomes `prefix/chat/ws/id` and the query holds only the form-encoded
`user_id`.

Main definitions: `ChatConfig`, `ChatConfig.load`, `ChatConfig.apiUrl`,
`ChatConfig.socketUrl`.
-/

namespace MarketChat

/-- The settings of the chat client. -/
structure ChatConfig where
  origin : String := "http://localhost:8000"
  apiPrefix : String := "/api/v1"
  reconnectDelayMs : Nat := 2000
  maxReconnectAttempts : Nat := 5
  typingIdleMs : Nat := 1000
  connectTimeoutMs : Nat := 5000
  cacheTtlMs : Nat := 5 * 60 * 1000
  authCacheTtlMs : Nat := 5 * 60 * 1000
  refreshMinIntervalMs : Nat := 10000
  pollIntervalMs : Nat := 30000
  notificationBodyLimit : Nat := 100
  notificationPath : String := "/profile"
  /-- The data directory; `none` is the platform's data directory. -/
  dataDir : Option String := none
  deriving Repr, Inhabited

namespace ChatConfig

/-- How a configuration is read: every member defaults to the default configuration. -/
def shape : RecordShape :=
  let d : ChatConfig := {}
  { expecting := "struct ChatConfig"
    fields := [
      ("origin", .text, some (.text d.origin)),
      ("api_prefix", .text, some (.text d.apiPrefix)),
      ("reconnect_delay_ms", .uint64, some (.nat d.reconnectDelayMs)),
      ("max_reconnect_attempts", .uint32, some (.nat d.maxReconnectAttempts)),
      ("typing_idle_ms", .uint64, some (.nat d.typingIdleMs)),
      ("connect_timeout_ms", .uint64, some (.nat d.connectTimeoutMs)),
      ("cache_ttl_ms", .uint64, some (.nat d.cacheTtlMs)),
      ("auth_cache_ttl_ms", .uint64, some (.nat d.authCacheTtlMs)),
      ("refresh_min_interval_ms", .uint64, some (.nat d.refreshMinIntervalMs)),
      ("poll_interval_ms", .uint64, some (.nat d.pollIntervalMs)),
      ("notification_body_limit", .size, some (.nat d.notificationBodyLimit)),
      ("notification_path", .text, some (.text d.notificationPath)),
      ("data_dir", .pathText, some .absent)] }

/-- The configuration from its read fields. -/
def ofFields (vs : List FieldValue) : ChatConfig where
  origin := (fieldAt vs 0).textD
  apiPrefix := (fieldAt vs 1).textD
  reconnectDelayMs := (fieldAt vs 2).natD
  maxReconnectAttempts := (fieldAt vs 3).natD
  typingIdleMs := (fieldAt vs 4).natD
  connectTimeoutMs := (fieldAt vs 5).natD
  cacheTtlMs := (fieldAt vs 6).natD
  authCacheTtlMs := (fieldAt vs 7).natD
  refreshMinIntervalMs := (fieldAt vs 8).natD
  pollIntervalMs := (fieldAt vs 9).natD
  notificationBodyLimit := (fieldAt vs 10).natD
  notificationPath := (fieldAt vs 11).textD
  dataDir := (fieldAt vs 12).text?

/-- Read a configuration from JSON text. -/
def read : Reader ChatConfig := ofFields <$> Reader.record shape

/-- Read a configuration file's text: the object, then an origin that reads as a URL. -/
def load (text : String) : Except ConfigError ChatConfig := do
  let config ← match Reader.run read text with
    | .ok c => pure c
    | .error e => throw (.parse e)
  match Url.parse config.origin with
  | .ok _ => pure config
  | .error e => throw (.invalidOrigin e)

/-- The default configuration with another origin, unchecked. -/
def withOrigin (origin : String) : ChatConfig := { origin }

/-- The origin without its trailing slashes. -/
def trimmedOrigin (c : ChatConfig) : String :=
  String.ofList ((c.origin.toList.reverse.dropWhile (· = '/')).reverse)

/-- The address of an API path. -/
def apiUrl (c : ChatConfig) (path : String) : String := c.trimmedOrigin ++ c.apiPrefix ++ path

/-- The address a notification opens. -/
def notificationUrl (c : ChatConfig) : String := c.trimmedOrigin ++ c.notificationPath

/-- The socket address of a chat for a user. -/
def socketUrl (c : ChatConfig) (chatId : Int) (userId : String) : Except ConfigError Url := do
  let u ← match Url.parse c.origin with
    | .ok u => pure u
    | .error e => throw (.invalidOrigin e)
  let u := u.setScheme (if u.scheme = "https" then "wss" else "ws")
  let u := u.setPath (c.apiPrefix ++ "/chat/ws/" ++ toString chatId)
  pure ({ u with query := some "" }.appendPairs [("user_id", userId)])

/-- The database file inside a data directory. -/
def databaseIn (dir : String) : String :=
  if dir.isEmpty then "lais.db"
  else if dir.endsWith "/" then dir ++ "lais.db"
  else dir ++ "/lais.db"

end ChatConfig

end MarketChat
