import MarketChat.Url.Host
/-!
# URLs

A URL is a scheme, optional credentials, an optional host and port, a path, and optional
query and fragment, all kept in the escaped form they are written in. The path is either a
list of segments (written each after a `/`) or, for a URL without a host whose scheme is not
special and whose text does not start the path with `/`, an opaque text.

The special schemes are `http`, `https`, `ws`, `wss`, `ftp` and `file`; each but `file` has
a default port, which is never written.

Serialization writes `scheme:`, then `//`, the credentials, host and port when there is a
host, then the path (after `/.` when there is no host and the path would otherwise start with
`//`), then `?query` and `#fragment`.

Main definitions: `Url`, `Url.serialize`, `Url.isSpecial`, `Url.defaultPort`.
-/

namespace MarketChat

/-- The path of a URL: segments, or an opaque text. -/
inductive UrlPath where
  | segments (parts : List String)
  | plain (text : String)
  deriving Repr, DecidableEq

/-- A parsed URL, every component in its written (escaped) form. -/
structure Url where
  scheme : String
  username : String := ""
  password : String := ""
  host : Option Host := none
  port : Option Nat := none
  path : UrlPath := .segments []
  query : Option String := none
  fragment : Option String := none
  deriving Repr, DecidableEq

namespace Url

/-- The schemes whose URLs always have a host-based path. -/
def isSpecialScheme (scheme : String) : Bool :=
  ["http", "https", "ws", "wss", "ftp", "file"].contains scheme

/-- The default port of a scheme. -/
def defaultPort : String → Option Nat
  | "http" | "ws" => some 80
  | "https" | "wss" => some 443
  | "ftp" => some 21
  | _ => none

/-- The URL's scheme is special. -/
def isSpecial (u : Url) : Bool := isSpecialScheme u.scheme

/-- The path as written. -/
def pathText (u : Url) : String :=
  match u.path with
  | .plain t => t
  | .segments parts => String.join (parts.map ("/" ++ ·))

/-- The URL as text. -/
def serialize (u : Url) : String :=
  let authority := match u.host with
    | some h =>
      let creds :=
        if u.username.isEmpty ∧ u.password.isEmpty then ""
        else u.username ++ (if u.password.isEmpty then "" else ":" ++ u.password) ++ "@"
      "//" ++ creds ++ h.serialize ++ (match u.port with | some p => ":" ++ Nat.repr p | none => "")
    | none => ""
  let dot := match u.host, u.path with
    | none, .segments ("" :: _ :: _) => "/."
    | _, _ => ""
  u.scheme ++ ":" ++ authority ++ dot ++ u.pathText ++
    (match u.query with | some q => "?" ++ q | none => "") ++
    (match u.fragment with | some f => "#" ++ f | none => "")

end Url

end MarketChat
