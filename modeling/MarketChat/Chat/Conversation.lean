import MarketChat.Chat.Message
/-!
# Conversations, summaries and listings

A conversation is a thread between a buyer and a seller about one listing; its id is known
once the backend has created or found it. A summary is one row of a seller's list of
conversations: buyer, unread count and the last message. A listing's details title its
group of conversations: `model memoryGB color` when all three are known, else `Listing #id`.

Main definitions: `Conversation`, `NewConversation.toJson`, `Summary`, `ListingInfo.title`,
`buyerLabel`.
-/

namespace MarketChat

/-- A buyer-seller thread about one listing. -/
structure Conversation where
  id : Option Int := none
  listingId : Int
  sellerId : Int
  buyerId : String
  buyerIsRegistered : Bool := false
  deriving Repr

namespace Conversation

/-- How a conversation is read; the listing is sent as `iphone_id`. -/
def shape : RecordShape where
  expecting := "struct Conversation"
  fields := [
    ("id", .maybeInt64, some .absent),
    ("iphone_id", .int64, none),
    ("seller_id", .int64, none),
    ("buyer_id", .id, none),
    ("buyer_is_registered", .flag, some (.flag false))]

/-- The conversation from its read fields. -/
def ofFields (vs : List FieldValue) : Conversation where
  id := (fieldAt vs 0).int?
  listingId := (fieldAt vs 1).intD
  sellerId := (fieldAt vs 2).intD
  buyerId := (fieldAt vs 3).textD
  buyerIsRegistered := (fieldAt vs 4).flagD

/-- Read a conversation from JSON text. -/
def read : Reader Conversation := ofFields <$> Reader.record shape

/-- The JSON of a conversation. -/
def toJson (c : Conversation) : Json :=
  .obj [("id", Message.optInt c.id), ("iphone_id", Json.ofInt c.listingId),
    ("seller_id", Json.ofInt c.sellerId), ("buyer_id", .str c.buyerId),
    ("buyer_is_registered", .bool c.buyerIsRegistered)]

end Conversation

/-- The body of a request that creates a conversation. -/
structure NewConversation where
  listingId : Int
  sellerId : Int
  buyerId : String
  buyerIsRegistered : Bool
  deriving Repr

/-- The JSON of a creation request, in field order. -/
def NewConversation.toJson (n : NewConversation) : Json :=
  .obj [("iphone_id", Json.ofInt n.listingId), ("seller_id", Json.ofInt n.sellerId),
    ("buyer_id", .str n.buyerId), ("buyer_is_registered", .bool n.buyerIsRegistered)]

/-- How the buyer of a conversation is shown: by id when registered. -/
def buyerLabel (buyerId : String) (registered : Bool) : String :=
  if registered then "Buyer #" ++ buyerId else "Anonymous buyer"

/-- One row of a seller's grouped conversation list. -/
structure Summary where
  id : Int
  buyerId : String
  buyerIsRegistered : Bool := false
  unreadCount : Nat := 0
  lastMessage : Option String := none
  lastMessageTime : Option Instant := none
  deriving Repr

namespace Summary

/-- How a summary is read: only the id and the buyer are required. -/
def shape : RecordShape where
  expecting := "struct ConversationSummary"
  fields := [
    ("id", .int64, none),
    ("buyer_id", .id, none),
    ("buyer_is_registered", .flag, some (.flag false)),
    ("unread_count", .uint32, some (.nat 0)),
    ("last_message", .maybeText, some .absent),
    ("last_message_time", .maybeInstant, some .absent)]

/-- The summary from its read fields. -/
def ofFields (vs : List FieldValue) : Summary where
  id := (fieldAt vs 0).intD
  buyerId := (fieldAt vs 1).textD
  buyerIsRegistered := (fieldAt vs 2).flagD
  unreadCount := (fieldAt vs 3).natD
  lastMessage := (fieldAt vs 4).text?
  lastMessageTime := (fieldAt vs 5).instant?

/-- Read a summary from JSON text. -/
def read : Reader Summary := ofFields <$> Reader.record shape

/-- How the summary's buyer is shown. -/
def label (s : Summary) : String := buyerLabel s.buyerId s.buyerIsRegistered

/-- The JSON of a summary, with its buyer label. -/
def toJson (s : Summary) : Json :=
  .obj [("id", Json.ofInt s.id), ("buyer_id", .str s.buyerId),
    ("buyer_is_registered", .bool s.buyerIsRegistered), ("unread_count", Json.ofNat s.unreadCount),
    ("last_message", (s.lastMessage.map Json.str).getD .null),
    ("last_message_time", (s.lastMessageTime.map fun t => Json.str t.rfc3339).getD .null),
    ("buyer_label", .str s.label)]

end Summary

/-- Conversations grouped by listing id, in ascending listing order. -/
abbrev Groups := List (Int × List Summary)

/-- Insert a group by listing id, keeping ascending order; a repeated id replaces the group. -/
def Groups.insert (id : Int) (g : List Summary) : Groups → Groups
  | [] => [(id, g)]
  | (k, h) :: rest =>
    if id < k then (id, g) :: (k, h) :: rest
    else if id = k then (id, g) :: rest
    else (k, h) :: Groups.insert id g rest

/-- Read grouped conversations: an object keyed by listing id. -/
def Groups.read : Reader Groups := do
  let entries ← Reader.intKeyed (Reader.items Summary.read)
  pure (entries.foldl (fun acc (k, g) => Groups.insert k g acc) [])

/-- The JSON of grouped conversations: `[listing id, [summary…]]` pairs. -/
def Groups.toJson (gs : Groups) : Json :=
  .arr (gs.map fun (k, g) => .arr [Json.ofInt k, .arr (g.map Summary.toJson)])

/-- The title of a listing without details. -/
def fallbackTitle (listingId : Int) : String := "Listing #" ++ toString listingId

/-- Listing details used to title a group of conversations. -/
structure ListingInfo where
  id : Int
  model : Option String := none
  memory : Option String := none
  color : Option String := none
  deriving Repr

namespace ListingInfo

/-- How listing details are read: memory may be a number. -/
def shape : RecordShape where
  expecting := "struct ListingInfo"
  fields := [
    ("id", .int64, none),
    ("model", .maybeText, some .absent),
    ("memory", .maybeId, some .absent),
    ("color", .maybeText, some .absent)]

/-- The listing from its read fields. -/
def ofFields (vs : List FieldValue) : ListingInfo where
  id := (fieldAt vs 0).intD
  model := (fieldAt vs 1).text?
  memory := (fieldAt vs 2).text?
  color := (fieldAt vs 3).text?

/-- Read listing details from JSON text. -/
def read : Reader ListingInfo := ofFields <$> Reader.record shape

/-- `model memoryGB color` when all three are known, else the fallback title. -/
def title (l : ListingInfo) : String :=
  match l.model, l.memory, l.color with
  | some model, some memory, some color => model ++ " " ++ memory ++ "GB " ++ color
  | _, _, _ => fallbackTitle l.id

/-- The JSON of listing details, with the title. -/
def toJson (l : ListingInfo) : Json :=
  let opt (o : Option String) : Json := (o.map Json.str).getD .null
  .obj [("id", Json.ofInt l.id), ("model", opt l.model), ("memory", opt l.memory),
    ("color", opt l.color), ("title", .str l.title)]

end ListingInfo

end MarketChat
