/-!
# The seller's inbox: labels and flags

The seller sees conversations grouped by listing. The unread badge shows the unread total,
is hidden at zero and caps at `99+`. Whether a listing's group is folded is remembered in
the store under a key named for the listing.

Main definitions: `badgeLabel`, `collapsedKey`.
-/

namespace MarketChat

/-- The badge text for an unread total: none at zero, the number up to 99, then `99+`. -/
def badgeLabel (unreadTotal : Nat) : Option String :=
  if unreadTotal = 0 then none
  else if unreadTotal > 99 then some "99+"
  else some (Nat.repr unreadTotal)

/-- The store key remembering whether a listing's group is folded. -/
def collapsedKey (listingId : Int) : String :=
  "chat-group-" ++ toString listingId ++ "-collapsed"

end MarketChat
