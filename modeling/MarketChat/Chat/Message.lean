import MarketChat.Json.Read
/-!
# Actors and messages

An actor is who drives one side of a conversation: a registered user with the backend's id,
or an anonymous visitor with a generated id. A message belongs to a chat, has a sender id,
text, a read mark and a creation instant; it is the actor's own exactly when the sender id
equals the actor's id as text.

The backend sends sender ids as strings or as numbers; a number is kept as its decimal text
(`42`, `1.5`, `100000000000000000000`), so the comparison is between texts.

Main definitions: `Actor`, `Message`, `Message.shape`, `Message.toJson`.
-/

namespace MarketChat

/-- The identity driving one side of a conversation. -/
structure Actor where
  id : String
  isRegistered : Bool
  deriving DecidableEq, Repr, Inhabited

/-- A message of a conversation. -/
structure Message where
  id : Option Int := none
  chatId : Option Int := none
  senderId : String
  senderIsRegistered : Bool := false
  text : String
  isRead : Bool := false
  createdAt : Instant
  deriving Repr

namespace Message

/-- How a message is read: ids and flags default, sender, text and instant are required. -/
def shape : RecordShape where
  expecting := "struct Message"
  fields := [
    ("id", .maybeInt64, some .absent),
    ("chat_id", .maybeInt64, some .absent),
    ("sender_id", .id, none),
    ("sender_is_registered", .flag, some (.flag false)),
    ("message_text", .text, none),
    ("is_read", .flag, some (.flag false)),
    ("created_at", .instant, none)]

/-- The message from its read fields, in the order of `shape`. -/
def ofFields (vs : List FieldValue) : Message where
  id := (fieldAt vs 0).int?
  chatId := (fieldAt vs 1).int?
  senderId := (fieldAt vs 2).textD
  senderIsRegistered := (fieldAt vs 3).flagD
  text := (fieldAt vs 4).textD
  isRead := (fieldAt vs 5).flagD
  createdAt := (fieldAt vs 6).instantD

/-- Read a message from JSON text. -/
def read : Reader Message := ofFields <$> Reader.record shape

/-- Read a message from a document. -/
def fromTree (j : Json) : Except Fault Message := ofFields <$> shape.fromTree j

/-- An optional integer as JSON. -/
def optInt : Option Int → Json
  | some i => Json.ofInt i
  | none => .null

/-- The JSON of a message, fields in declaration order. -/
def toJson (m : Message) : Json :=
  .obj [("id", optInt m.id), ("chat_id", optInt m.chatId), ("sender_id", .str m.senderId),
    ("sender_is_registered", .bool m.senderIsRegistered), ("message_text", .str m.text),
    ("is_read", .bool m.isRead), ("created_at", .str m.createdAt.rfc3339)]

/-- The actor wrote this message. -/
def isFrom (m : Message) (a : Actor) : Bool := m.senderId == a.id

end Message

end MarketChat
