import MarketChat.Chat.Message
/-!
# Socket frames

Every frame is a JSON object whose `type` member names its kind. The client sends three
kinds: a message with its text and the sender's registration, a typing signal, and a read
marker. The server pushes five kinds, and any other `type` is an unknown frame that the
client ignores.

Reading a pushed frame goes in two steps. The text is read once, left to right: the `type`
member is taken aside as it passes and must be a string, every other member is kept as
written. Then the kept members are read as the fields of the named kind, without positions:
a message frame needs a `message` that reads as a message; `typing` and `user_disconnected`
need a `user_id` of any JSON type; `is_typing` defaults to false, `users` to none, `count`
to zero, and a `null` user id of `messages_read` counts as absent. User ids are kept as
their text: a string as it is, anything else as its compact JSON.

Main definitions: `InboundFrame.decode`, `OutboundFrame.encode`.
-/

namespace MarketChat

/-- A frame pushed by the server. -/
inductive InboundFrame where
  | message (m : Message)
  | typing (userId : String) (isTyping : Bool)
  | onlineUsers (users : List Json)
  | messagesRead (count : Nat) (userId : Option String)
  | userDisconnected (userId : String)
  | unknown
  deriving Repr

/-- A frame sent by the client. -/
inductive OutboundFrame where
  | message (text : String) (senderIsRegistered : Bool)
  | typing (isTyping : Bool)
  | read
  deriving Repr

namespace OutboundFrame

/-- The JSON of a client frame: `type` first, then the fields in order. -/
def toJson : OutboundFrame → Json
  | .message text registered =>
    .obj [("type", .str "message"), ("message_text", .str text),
      ("sender_is_registered", .bool registered)]
  | .typing b => .obj [("type", .str "typing"), ("is_typing", .bool b)]
  | .read => .obj [("type", .str "read")]

/-- The text sent on the socket. -/
def encode (f : OutboundFrame) : String := f.toJson.compact

end OutboundFrame

namespace InboundFrame

/-- The words for a frame in fault texts. -/
def expecting : String := "internally tagged enum InboundFrame"

/-- What the `type` member named: a known kind, or anything else. -/
inductive Kind where
  | message | typing | onlineUsers | messagesRead | userDisconnected | other
  deriving DecidableEq, Repr

/-- The kind a `type` string names. -/
def Kind.ofName : String → Kind
  | "message" => .message
  | "typing" => .typing
  | "online_users" => .onlineUsers
  | "messages_read" => .messagesRead
  | "user_disconnected" => .userDisconnected
  | _ => .other

/-- Read the value of the `type` member: a string. -/
def readKind : Reader Kind := Reader.placing do
  match ← Reader.skipBlank with
  | none => Reader.failNext .eofWhileParsingValue
  | some '"' => Reader.bump; return Kind.ofName (← Reader.string)
  | some _ => Reader.mismatch "variant identifier"

/-- Read the members of the frame object: the kind, taken aside, and the others as written. -/
def taggedMembers : Nat → Bool → Option Kind → List (String × Json) →
    Reader (Option Kind × List (String × Json))
  | 0, _, kind, acc => pure (kind, acc.reverse)
  | fuel + 1, first, kind, acc => do
    if ← Reader.nextMember first then
      let k ← Reader.key
      if k = "type" then
        match kind with
        | some _ => Reader.failLoose (.duplicateField "type")
        | none =>
          Reader.colon
          let t ← readKind
          taggedMembers fuel false (some t) acc
      else
        Reader.colon
        let v ← Reader.documentHere
        taggedMembers fuel false kind ((k, v) :: acc)
    else pure (kind, acc.reverse)

/-- Read the items of the frame array: the first is the kind, the rest are kept. -/
def taggedItems : Reader (Kind × List Json) := do
  if ← Reader.nextItem true then
    let t ← readKind
    let n ← Reader.budget
    let rest ← Reader.itemsOf Reader.documentHere n false []
    pure (t, rest)
  else Reader.failLoose (.missingField "type")

/-- The text read once: the kind and the other members, or items, as written. -/
def tagged : Reader (Kind × Json) := Reader.placing do
  match ← Reader.skipBlank with
  | none => Reader.failNext .eofWhileParsingValue
  | some '{' =>
    Reader.enter
    Reader.bump
    let n ← Reader.budget
    Reader.thenClose (do
        let (kind, members) ← taggedMembers n true none []
        Reader.leave
        match kind with
        | some k => pure (k, Json.obj members)
        | none => Reader.failLoose (.missingField "type"))
      Reader.closeObject
  | some '[' =>
    Reader.enter
    Reader.bump
    Reader.thenClose (do
        let (k, items) ← taggedItems
        Reader.leave
        pure (k, Json.arr items))
      Reader.closeArray
  | some _ => Reader.mismatch expecting

/-- The fields of each known kind. -/
def fieldsOf : Kind → String × List (String × FieldRule × Option FieldValue)
  | .message => ("struct variant InboundFrame::Message",
      [("message", .record Message.shape.expecting Message.shape.fields, none)])
  | .typing => ("struct variant InboundFrame::Typing",
      [("user_id", .userId, none), ("is_typing", .flag, some (.flag false))])
  | .onlineUsers => ("struct variant InboundFrame::OnlineUsers",
      [("users", .values, some (.jsons []))])
  | .messagesRead => ("struct variant InboundFrame::MessagesRead",
      [("count", .uint32, some (.nat 0)), ("user_id", .maybeUserId, some .absent)])
  | .userDisconnected => ("struct variant InboundFrame::UserDisconnected",
      [("user_id", .userId, none)])
  | .other => ("", [])

/-- Read the kept members as the fields of the named kind. -/
def ofKind (kind : Kind) (body : Json) : Except Fault InboundFrame :=
  if kind = .other then .ok .unknown
  else
    let (name, fields) := fieldsOf kind
    match (RecordShape.fromTree ⟨name, fields⟩ body) with
    | .error f => .error f
    | .ok vs =>
      match kind with
      | .message =>
        match fieldAt vs 0 with
        | .record ms => .ok (.message (Message.ofFields ms))
        | _ => .ok .unknown
      | .typing => .ok (.typing (fieldAt vs 0).textD (fieldAt vs 1).flagD)
      | .onlineUsers => .ok (.onlineUsers (fieldAt vs 0).jsonsD)
      | .messagesRead => .ok (.messagesRead (fieldAt vs 0).natD (fieldAt vs 1).text?)
      | .userDisconnected => .ok (.userDisconnected (fieldAt vs 0).textD)
      | .other => .ok .unknown

/-- Read a pushed frame from its text. -/
def decode (s : String) : Except JsonError InboundFrame :=
  Reader.run (do
    let (kind, body) ← tagged
    match ofKind kind body with
    | .ok f => pure f
    | .error f => Reader.failLoose f) s

/-- The JSON shape of a frame as reported: its type and its fields. -/
def toJson : InboundFrame → Json
  | .message m => .obj [("type", .str "message"), ("message", m.toJson)]
  | .typing u b => .obj [("type", .str "typing"), ("user_id", .str u), ("is_typing", .bool b)]
  | .onlineUsers us =>
    .obj [("type", .str "online_users"), ("users", .arr us),
      ("user_ids", .arr (us.map fun u => .str u.userIdText))]
  | .messagesRead n u =>
    .obj [("type", .str "messages_read"), ("count", Json.ofNat n),
      ("user_id", (u.map Json.str).getD .null)]
  | .userDisconnected u => .obj [("type", .str "user_disconnected"), ("user_id", .str u)]
  | .unknown => .obj [("type", .str "unknown")]

end InboundFrame

end MarketChat
