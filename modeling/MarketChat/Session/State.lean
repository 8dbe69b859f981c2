import MarketChat.Session.Event
/-!
# The state of a chat session

A session is bound to one conversation at a time, its *target*: the listing and seller it was
opened for, the chat once known, and the label of the other side. Each opening starts a new
*lifetime*, named by a cancellation token; closing or reopening cancels it, which stops every
task and wait of the old lifetime.

The session holds the sending half of its socket while connected, whether it is online, the
typing timer task, the actor it resolved once, and a lock that makes concurrent first sends
create the conversation once.

Locks are fair: waiters are served in the order they came, and a released lock passes to the
first waiter at once, before anyone else may take it.

Main definitions: `Target`, `FairLock`, `ActorCell`, `SessionState`.
-/

namespace MarketChat

/-- The label of the other side in a buyer's chat. -/
def sellerLabel : String := "Seller"

/-- The conversation a session is bound to. -/
structure Target where
  listingId : Option Int
  sellerId : Option Int
  chatId : Option Int
  peerLabel : String
  deriving Repr

/-- A fair lock: its holder (a task number) and the waiters in order of arrival. -/
structure FairLock where
  holder : Option Nat := none
  waiters : List Nat := []
  deriving Repr

namespace FairLock

/-- Take the lock if nobody holds or waits for it; else join the waiters. The answer is
whether the lock was taken. -/
def arrive (l : FairLock) (me : Nat) : Bool × FairLock :=
  if l.holder.isNone && l.waiters.isEmpty then (true, { l with holder := some me })
  else (false, { l with waiters := l.waiters ++ [me] })

/-- Release the lock: it passes to the first waiter. -/
def release (l : FairLock) : FairLock :=
  match l.waiters with
  | w :: rest => { holder := some w, waiters := rest }
  | [] => { holder := none, waiters := [] }

/-- Leave the lock, holding or waiting: a holder releases it, a waiter leaves the line. -/
def leave (l : FairLock) (me : Nat) : FairLock :=
  if l.holder = some me then l.release
  else { l with waiters := l.waiters.filter (· ≠ me) }

/-- `me` holds the lock. -/
def heldBy (l : FairLock) (me : Nat) : Bool := l.holder = some me

end FairLock

/-- An actor resolved at most once: the value once set, and the lock of the one resolving. -/
structure ActorCell where
  value : Option Actor := none
  lock : FairLock := {}
  deriving Repr

/-- Everything a session keeps. -/
structure SessionState where
  phase : SessionPhase := .idle
  lifetime : Option Nat := none
  target : Option Target := none
  /-- The connection whose sending half the session holds. -/
  outbound : Option Nat := none
  online : Bool := false
  typingTimer : Option Nat := none
  actor : ActorCell := {}
  creating : FairLock := {}
  deriving Repr

namespace SessionState

/-- The bound chat. -/
def chatId (s : SessionState) : Option Int := s.target.bind (·.chatId)

/-- The label of the other side. -/
def peerLabel (s : SessionState) : String := (s.target.map (·.peerLabel)).getD sellerLabel

end SessionState

end MarketChat
