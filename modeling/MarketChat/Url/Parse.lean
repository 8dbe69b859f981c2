import MarketChat.Url.Basic
/-!
# Reading URLs

`Url.parse` reads an absolute URL the way browsers do. Surrounding controls and spaces are
trimmed and tabs and newlines removed; the scheme runs up to the first `:` (a text without one
is a relative URL, which has no base to resolve against).

* A special scheme skips any slashes or backslashes and reads an authority; `file` reads an
  optional host after two slashes.
* Any other scheme reads an authority after `//`, a path after `/`, and an opaque path
  otherwise.
* The authority's credentials end at its last `@`; the host ends at `:` (outside brackets),
  where a port of at most 65535 follows, dropped when it is the scheme's default.
* A path is cut into segments at `/` (and at `\` in special URLs); `.` segments vanish and `..`
  segments remove the segment before them.
* Query and fragment follow after `?` and `#`.

Each component escapes the bytes of its encode set. The setters `setScheme`, `setPath` and
`appendPairs` edit a parsed URL the same way.

Main definitions: `Url.parse`, `Url.setScheme`, `Url.setPath`, `Url.appendPairs`.
-/

namespace MarketChat

namespace Url

/-- A control or a space. -/
def isControlOrSpace (c : Char) : Bool := c.toNat ≤ 0x20

/-- A tab or a newline: removed wherever it stands. -/
def isTabOrNewline (c : Char) : Bool := c = '\t' || c = '\n' || c = '\r'

/-- The characters read: trimmed of controls and spaces, without tabs and newlines. -/
def prepare (s : String) : List Char :=
  let cs := s.toList.dropWhile isControlOrSpace
  let cs := (cs.reverse.dropWhile isControlOrSpace).reverse
  cs.filter (!isTabOrNewline ·)

/-- A character that may continue a scheme. -/
def isSchemeChar (c : Char) : Bool := c.isAlphanum || c = '+' || c = '-' || c = '.'

/-- The scheme, lowercased, and what follows its `:`. -/
def readScheme : List Char → Option (String × List Char)
  | c :: rest =>
    if c.isAlpha then
      let body := rest.takeWhile isSchemeChar
      match rest.drop body.length with
      | ':' :: after => some (String.ofList ((c :: body).map Char.toLower), after)
      | _ => none
    else none
  | [] => none

/-- A segment meaning "this directory": `.` or `%2e`. -/
def isSingleDot (s : String) : Bool := s == "." || s.toLower == "%2e"

/-- A segment meaning "the parent directory": two dots, either of them as `%2e`. -/
def isDoubleDot (s : String) : Bool :=
  [".." , ".%2e", "%2e.", "%2e%2e"].contains s.toLower

/-- A drive letter: an ASCII letter, then `:` or `|`. -/
def isDriveLetter (s : String) : Bool :=
  match s.toList with
  | [a, b] => a.isAlpha && (b = ':' || b = '|')
  | _ => false

/-- Step back one segment; a `file` path keeps a lone drive letter. -/
def shorten (file : Bool) (parts : List String) : List String :=
  match parts with
  | [d] => if file && isDriveLetter d && d.toList.getLast? = some ':' then parts else []
  | _ => parts.dropLast

/-- Close a segment; `slash` tells whether a slash closed it. -/
def closeSegment (file : Bool) (buffer : String) (slash : Bool) (parts : List String) :
    List String :=
  if isDoubleDot buffer then
    let parts := shorten file parts
    if slash then parts else parts ++ [""]
  else if isSingleDot buffer then
    if slash then parts else parts ++ [""]
  else if file && parts.isEmpty && isDriveLetter buffer then
    parts ++ [String.ofList (buffer.toList.take 1 ++ [':'])]
  else parts ++ [buffer]

/-- Read path segments up to `?` or `#` (in a setter, to the end). -/
def readSegments (special file setter : Bool) :
    List Char → String → List String → List String × List Char
  | [], buffer, parts => (closeSegment file buffer false parts, [])
  | c :: rest, buffer, parts =>
    if c = '/' || (special && c = '\\') then
      readSegments special file setter rest "" (closeSegment file buffer true parts)
    else if !setter && (c = '?' || c = '#') then
      (closeSegment file buffer false parts, c :: rest)
    else readSegments special file setter rest (buffer ++ String.ofList (encodeChar .path c)) parts

/-- Read a path from its start: a special path always has a first segment. -/
def readPath (special file setter : Bool) (cs : List Char) : List String × List Char :=
  if special then
    match cs with
    | c :: rest =>
      if c = '/' || c = '\\' then readSegments special file setter rest "" []
      else readSegments special file setter cs "" []
    | [] => readSegments special file setter [] "" []
  else
    match cs with
    | '?' :: _ | '#' :: _ | [] => ([], cs)
    | '/' :: rest => readSegments special file setter rest "" []
    | _ => readSegments special file setter cs "" []

/-- Read an opaque path up to `?` or `#` (in a setter, to the end). -/
def readPlainPath (setter : Bool) : List Char → String × List Char
  | [] => ("", [])
  | c :: rest =>
    if !setter && (c = '?' || c = '#') then ("", c :: rest)
    else
      let (t, r) := readPlainPath setter rest
      (String.ofList (encodeChar .controls c) ++ t, r)

/-- Read the query and the fragment that may follow a path. -/
def readTail (special : Bool) (u : Url) : List Char → Url
  | '?' :: rest =>
    let q := rest.takeWhile (· ≠ '#')
    let set : EncodeSet := if special then .specialQuery else .query
    let u := { u with query := some (String.ofList (q.flatMap (encodeChar set))) }
    match rest.drop q.length with
    | '#' :: f => { u with fragment := some (String.ofList (f.flatMap (encodeChar .fragment))) }
    | _ => u
  | '#' :: f => { u with fragment := some (String.ofList (f.flatMap (encodeChar .fragment))) }
  | _ => u

/-- The position of the last `@`. -/
def lastAt (cs : List Char) : Option Nat :=
  (cs.zipIdx.filter (·.1 = '@')).getLast?.map (·.2)

/-- The host text: up to `:` outside brackets, or the end of the authority. -/
def hostText (special : Bool) : List Char → Bool → List Char × List Char
  | [], _ => ([], [])
  | c :: rest, inside =>
    if (c = ':' && !inside) || c = '/' || c = '?' || c = '#' || (special && c = '\\') then
      ([], c :: rest)
    else
      let inside := if c = '[' then true else if c = ']' then false else inside
      let (h, r) := hostText special rest inside
      (c :: h, r)

/-- Read a port: digits up to the end of the authority; the scheme's default is dropped. -/
def readPort (scheme : String) (cs : List Char) : Except UrlError (Option Nat × List Char) :=
  let digits := cs.takeWhile Char.isDigit
  let rest := cs.drop digits.length
  let value := digits.foldl (fun acc c => min (acc * 10 + (c.toNat - 48)) 65536) 0
  if value > 65535 then .error .invalidPort
  else
    match rest with
    | c :: _ =>
      if c = '/' || c = '\\' || c = '?' || c = '#' then
        .ok (if digits.isEmpty || defaultPort scheme = some value then none else some value, rest)
      else .error .invalidPort
    | [] => .ok (if digits.isEmpty || defaultPort scheme = some value then none else some value, [])

/-- Read an authority and what follows it. -/
def readAuthority (scheme : String) (cs : List Char) : Except UrlError Url := do
  let special := isSpecialScheme scheme
  let isEnd := fun (c : Char) => c = '/' || c = '?' || c = '#' || (special && c = '\\')
  let auth := cs.takeWhile (!isEnd ·)
  let (username, password, afterInfo) ←
    match lastAt auth with
    | none => pure ("", "", cs)
    | some 0 =>
      match cs.drop 1 with
      | c :: r => if isEnd c then throw .emptyHost else pure ("", "", c :: r)
      | [] => pure ("", "", [])
    | some i =>
      let info := auth.take i
      let user := info.takeWhile (· ≠ ':')
      let pass := (info.drop user.length).drop 1
      pure (String.ofList (user.flatMap (encodeChar .userinfo)),
        String.ofList (pass.flatMap (encodeChar .userinfo)), cs.drop (i + 1))
  let (hostCs, rest) := hostText special afterInfo false
  let text := String.ofList hostCs
  if special && text.isEmpty then throw .emptyHost
  let host ← if special then Host.parse text else Host.parseNonSpecial text
  if host = .domain "" then
    if rest.head? = some ':' then throw .emptyHost
    if special then throw .emptyHost
  let (port, rest) ← match rest with
    | ':' :: more => readPort scheme more
    | _ => pure (none, rest)
  if host = .domain "" && (username ≠ "" || password ≠ "") then throw .emptyHost
  let (parts, rest) := readPath special false false rest
  let u : Url := {
    scheme := scheme
    username := username
    password := password
    host := some host
    port := port
    path := .segments parts }
  pure (readTail special u rest)

/-- Read a `file` URL after its scheme. -/
def readFile (cs : List Char) : Except UrlError Url := do
  let isSlash := fun (c : Char) => c = '/' || c = '\\'
  let base : Url := { scheme := "file", host := some (.domain "") }
  match cs with
  | a :: b :: rest =>
    if isSlash a && isSlash b then
      let hostCs := rest.takeWhile (fun c => !(isSlash c || c = '?' || c = '#'))
      let text := String.ofList hostCs
      let after := rest.drop hostCs.length
      if isDriveLetter text then
        let (parts, r) := readSegments true true false rest "" []
        return readTail true { base with path := .segments parts } r
      let host ← if text.isEmpty then pure (Host.domain "") else Host.parse text
      let host := if host = .domain "localhost" then Host.domain "" else host
      let (parts, r) := readPath true true false after
      return readTail true { base with host := some host, path := .segments parts } r
    else if isSlash a then
      let (parts, r) := readSegments true true false (b :: rest) "" []
      return readTail true { base with path := .segments parts } r
    else
      let (parts, r) := readSegments true true false cs "" []
      return readTail true { base with path := .segments parts } r
  | _ =>
    let rest := match cs with | a :: r => if isSlash a then r else cs | [] => []
    let (parts, r) := readSegments true true false rest "" []
    return readTail true { base with path := .segments parts } r

/-- Read an absolute URL. -/
def parse (s : String) : Except UrlError Url := do
  let some (scheme, rest) := readScheme (prepare s) | throw .relativeWithoutBase
  if scheme = "file" then readFile rest
  else if isSpecialScheme scheme then
    readAuthority scheme (rest.dropWhile (fun c => c = '/' || c = '\\'))
  else
    match rest with
    | '/' :: '/' :: more => readAuthority scheme more
    | '/' :: _ =>
      let (parts, r) := readPath false false false rest
      pure (readTail false { scheme := scheme, path := .segments parts } r)
    | _ =>
      let (text, r) := readPlainPath false rest
      pure (readTail false { scheme := scheme, path := .plain text } r)

/-- Change the scheme, unless it would cross between special and other schemes, give a
`file` URL credentials or a port, or give a special scheme to a URL without a host (the
empty host of a `file` URL counts as none); a port that is the new default is dropped. -/
def setScheme (u : Url) (scheme : String) : Url :=
  if isSpecialScheme scheme != u.isSpecial then u
  else if scheme = "file" && (u.username ≠ "" || u.password ≠ "" || u.port.isSome) then u
  else if (u.host.isNone || u.host = some (.domain "")) && isSpecialScheme scheme then u
  else
    let port := if u.port = defaultPort scheme then none else u.port
    { u with scheme := scheme, port := port }

/-- Replace the path; `?` and `#` are escaped as part of it. An opaque path is replaced by
the text with controls escaped, a leading `/` written as `%2F`. -/
def setPath (u : Url) (path : String) : Url :=
  let cs := path.toList.filter (!isTabOrNewline ·)
  match u.path with
  | .plain _ =>
    let (lead, cs) := match cs with
      | '/' :: rest => ("%2F", rest)
      | _ => ("", cs)
    { u with path := .plain (lead ++ (readPlainPath true cs).1) }
  | .segments _ =>
    { u with path := .segments (readPath u.isSpecial (u.scheme = "file") true cs).1 }

/-- Append `key=value` pairs, form-encoded and joined by `&`, to the query. -/
def appendPairs (u : Url) (pairs : List (String × String)) : Url :=
  let q := pairs.foldl (fun q (k, v) =>
    (if q.isEmpty then q else q ++ "&") ++ formEncode k ++ "=" ++ formEncode v) (u.query.getD "")
  { u with query := some q }

end Url

end MarketChat
