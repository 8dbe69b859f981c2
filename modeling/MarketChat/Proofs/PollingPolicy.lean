import MarketChat.Proofs.Monitors
import MarketChat.Inbox.Seller
/-!
# The refresh and polling policy of the seller's inbox

Three monitors of the inbox's processes, built on one description of a refresh.

* A refresh (`RefreshStep`) reads the world it starts in and nothing else until it acts: with no
  seller it does nothing; with no address for the seller's grouped conversations it reports
  RefreshFailed; otherwise it sends the GET of that address, from the very world it started in.
  While the answer is awaited it changes nothing. An answer that reads as groups replaces the
  snapshot wholesale, stamped with the time it is taken, and the new snapshot's unread total is
  reported as GroupsUpdated; any other answer is reported as RefreshFailed, and the snapshot and
  its time stay as they are.
* Opening the panel (`OpenPolicy`) refreshes at once when the snapshot is stale (`World.Stale`:
  never taken, or taken strictly longer ago than the minimum interval), and otherwise neither
  sends nor reports anything.
* The poller (`PollPolicy`) of a token and a period `P`, started at `t₀`: with no period it
  ends at once; otherwise its tick `k` comes at `max (t₀ + k * P) c`, where `c` is the time its
  previous refresh completed (`t₀` before the first tick), and starts a refresh then, unless the
  inbox is gone. It waits for a tick only until the tick is due, stops once its token is
  cancelled, and sends only while its token is not cancelled.

Main definitions: `RefreshStep`, `RefreshPolicy.monitor`, `OpenPolicy.monitor`, `PollPolicy`,
`PollPolicy.monitor`. Main statements: `OpenPolicy.backend_of_fresh`,
`OpenPolicy.sends_of_started`, `PollPolicy.Step.live_of_backend`.
-/

namespace MarketChat

namespace Inbox

/-- The path of a seller's conversations, grouped by listing. -/
def groupedPath (sid : Int) : String := "/chat/chats/seller/" ++ toString sid ++ "/grouped"

/-- The GET of the grouped conversations at an address. -/
def groupedRequest (url : String) : HttpRequest := { method := .get, url }

theorem sellerGroups_eq (sid : Int) :
    Api.sellerGroups sid = Api.call (groupedPath sid) [] groupedRequest 0 (Api.expect Groups.read) :=
  rfl

end Inbox

namespace World

/-- The snapshot is stale: never taken, or taken strictly longer ago than the minimum interval
between refreshes. -/
def Stale (w : World) : Bool :=
  w.inbox.lastRefresh.all fun since => decide (w.now - since > w.config.refreshMinIntervalMs)

/-- The world once the snapshot is replaced by `g`, taken now. -/
def storeGroups (w : World) (g : Groups) : World :=
  { w with inbox := { w.inbox with groups := g, lastRefresh := some w.now } }

/-- The world once `e` is reported among the inbox's events. -/
def report (w : World) (e : InboxEvent) : World :=
  { w with inboxEvents := w.inboxEvents ++ [e] }

/-- The world once `req` is sent to the backend. -/
def send (w : World) (req : HttpRequest) : World :=
  { w with backend := (w.backend.exchange req).1 }

@[simp] theorem backend_storeGroups (w : World) (g : Groups) : (w.storeGroups g).backend = w.backend :=
  rfl

@[simp] theorem backend_report (w : World) (e : InboxEvent) : (w.report e).backend = w.backend := rfl

@[simp] theorem cancelled_storeGroups (w : World) (g : Groups) :
    (w.storeGroups g).cancelled = w.cancelled := rfl

@[simp] theorem cancelled_report (w : World) (e : InboxEvent) :
    (w.report e).cancelled = w.cancelled := rfl

@[simp] theorem cancelled_send (w : World) (req : HttpRequest) :
    (w.send req).cancelled = w.cancelled := rfl

end World

/-- Where a refresh stands. -/
inductive RefreshStage where
  /-- The refresh started in the world `w`, and has only read it. -/
  | start (w : World)
  /-- The GET went to `url`, and the backend gives `answer`. -/
  | sent (url : String) (answer : Except HttpError HttpResponse)
  /-- The snapshot was replaced by `g`; its unread total is to be reported. -/
  | stored (g : Groups)
  /-- The refresh is over. -/
  | over

/-- The moves of a refresh that sends only from a world where `live` holds. -/
inductive RefreshStep (live : World → Prop) : RefreshStage → Move World → RefreshStage → Prop
  /-- Reading the world the refresh started in. -/
  | read {w : World} {mv : Move World} :
      mv.woke = false → mv.before = w → mv.after = w → RefreshStep live (.start w) mv (.start w)
  /-- With no seller, nothing is done. -/
  | unauthorized {w : World} {mv : Move World} :
      mv.woke = false → mv.before = w → mv.after = w → w.inbox.sellerId = none →
      RefreshStep live (.start w) mv .over
  /-- With no address for the seller's groups, the failure is reported and nothing sent. -/
  | unaddressed {w : World} {sid : Int} {e : HttpError} {mv : Move World} :
      mv.woke = false → mv.before = w → w.inbox.sellerId = some sid →
      Api.address w.config (Inbox.groupedPath sid) [] = .error e →
      mv.after = w.report (.refreshFailed e.message) → RefreshStep live (.start w) mv .over
  /-- The GET is sent from the world the refresh started in; what the backend answers is kept. -/
  | send {w : World} {sid : Int} {url : String} {mv : Move World} :
      mv.woke = false → mv.before = w → live w → w.inbox.sellerId = some sid →
      Api.address w.config (Inbox.groupedPath sid) [] = .ok url →
      mv.after = w.send (Inbox.groupedRequest url) →
      RefreshStep live (.start w) mv (.sent url (w.backend.exchange (Inbox.groupedRequest url)).2.2)
  /-- While the answer is awaited and taken, nothing changes. -/
  | wait {url : String} {ans : Except HttpError HttpResponse} {mv : Move World} :
      mv.after = mv.before → RefreshStep live (.sent url ans) mv (.sent url ans)
  /-- An answer that reads as groups replaces the snapshot wholesale, stamped now. -/
  | store {url : String} {ans : Except HttpError HttpResponse} {g : Groups} {mv : Move World} :
      mv.woke = false → ans.bind (Api.expect Groups.read url) = .ok g →
      mv.after = mv.before.storeGroups g → RefreshStep live (.sent url ans) mv (.stored g)
  /-- Any other answer is reported as the failure, and the snapshot stays. -/
  | fail {url : String} {ans : Except HttpError HttpResponse} {e : HttpError} {mv : Move World} :
      mv.woke = false → ans.bind (Api.expect Groups.read url) = .error e →
      mv.after = mv.before.report (.refreshFailed e.message) → RefreshStep live (.sent url ans) mv .over
  /-- Reading the new snapshot. -/
  | reread {g : Groups} {mv : Move World} :
      mv.woke = false → mv.after = mv.before → RefreshStep live (.stored g) mv (.stored g)
  /-- The new snapshot's unread total is reported. -/
  | report {g : Groups} {mv : Move World} :
      mv.woke = false → mv.before.inbox.groups = g →
      mv.after = mv.before.report (.groupsUpdated mv.before.inbox.unreadTotal) →
      RefreshStep live (.stored g) mv .over

/-- A refresh waits only for the answer to its GET. -/
def RefreshStage.Rests : RefreshStage → Prop
  | .sent .. => True
  | _ => False

namespace RefreshStep

variable {live : World → Prop} {r r' : RefreshStage} {mv : Move World}

/-- A refresh never cancels nor takes back a cancellation. -/
theorem cancelled_eq (h : RefreshStep live r mv r') : mv.after.cancelled = mv.before.cancelled := by
  cases h <;> simp_all

/-- A refresh changes the backend only by its GET, sent where `live` holds. -/
theorem live_of_backend (h : RefreshStep live r mv r') (hb : mv.after.backend ≠ mv.before.backend) :
    live mv.before := by
  cases h with
  | send _ hw hl => exact hw ▸ hl
  | _ => simp_all

end RefreshStep

/-- A refresh as a monitor: it sends from any world, and assumes nothing of the others. -/
def RefreshPolicy.monitor : Monitor World RefreshStage where
  next := RefreshStep fun _ => True
  rests r _ _ := r.Rests
  others _ _ := True

/-! ## Opening the panel -/

/-- What a move leaves as it was of what a refresh shows: the backend, the inbox's events, and
the snapshot with its time. -/
def Move.Unseen (mv : Move World) : Prop :=
  mv.after.backend = mv.before.backend ∧ mv.after.inboxEvents = mv.before.inboxEvents ∧
    mv.after.inbox.groups = mv.before.inbox.groups ∧
    mv.after.inbox.lastRefresh = mv.before.inbox.lastRefresh

/-- Where the opening of the panel stands. -/
inductive OpenStage where
  /-- Refreshing the stale snapshot. -/
  | refreshing (r : RefreshStage)
  /-- Starting to poll. -/
  | starting

namespace OpenPolicy

/-- The moves of the opening of the panel. -/
inductive Step : OpenStage → Move World → OpenStage → Prop
  | refresh {r r' : RefreshStage} {mv : Move World} :
      RefreshStep (fun _ => True) r mv r' → Step (.refreshing r) mv (.refreshing r')
  /-- After the refresh, polling starts: nothing a refresh shows is touched. -/
  | begin {mv : Move World} : mv.woke = false → mv.Unseen → Step (.refreshing .over) mv .starting
  | start {mv : Move World} : mv.woke = false → mv.Unseen → Step .starting mv .starting

/-- Where the opening starts in the world `w`: with a refresh when the snapshot is stale. -/
def first (w : World) : OpenStage :=
  if w.Stale then .refreshing (.start w) else .starting

/-- The opening waits only for the answer of its refresh. -/
def Rests : OpenStage → Prop
  | .refreshing r => r.Rests
  | .starting => False

/-- Where the opening ends: polling started, or nothing done for want of a seller. -/
def Ends : OpenStage → Prop
  | .starting => True
  | .refreshing (.start w) => w.inbox.sellerId = none
  | .refreshing _ => False

/-- The opening of the panel as a monitor, among any others. -/
def monitor : Monitor World OpenStage where
  next := Step
  rests m _ _ := Rests m
  others _ _ := True

/-- Once polling starts, nothing a refresh shows changes. -/
theorem unseen_of_starting {tr : List (Move World)} {m : OpenStage}
    (h : monitor.Accepts .starting tr m) : ∀ mv ∈ tr, mv.Unseen := by
  induction tr with
  | nil => simp
  | cons mv tr ih =>
    cases h with
    | cons hstep hrest =>
      cases hstep with
      | start _ hu =>
        intro mv' hmv'
        rcases List.mem_cons.1 hmv' with rfl | hmem
        · exact hu
        · exact ih hrest mv' hmem

/-- **A fresh snapshot is not refreshed**: opening the panel on it never touches the backend. -/
theorem backend_of_fresh {w : World} (hw : w.Stale = false) {tr : List (Move World)}
    {m : OpenStage} (h : monitor.Accepts (first w) tr m) :
    ∀ mv ∈ tr, mv.after.backend = mv.before.backend := by
  rw [first, if_neg (by simp [hw])] at h
  exact fun mv hmv => (unseen_of_starting h mv hmv).1

/-- The refresh of a stale snapshot, once past its start, sent its GET from the world it started
in, when that world has a seller with an address. -/
theorem sends_of_started {w : World} {sid : Int} {url : String}
    (hsid : w.inbox.sellerId = some sid)
    (hurl : Api.address w.config (Inbox.groupedPath sid) [] = .ok url) :
    ∀ {tr : List (Move World)} {m : OpenStage}, monitor.Accepts (.refreshing (.start w)) tr m →
      m ≠ .refreshing (.start w) →
      ∃ mv ∈ tr, mv.before = w ∧ mv.after = w.send (Inbox.groupedRequest url) := by
  intro tr
  induction tr with
  | nil => intro m h hm; cases h; exact absurd rfl hm
  | cons mv tr ih =>
    intro m h hm
    cases h with
    | cons hstep hrest =>
      cases hstep with
      | refresh hr =>
        cases hr with
        | read _ _ _ =>
          obtain ⟨mv', hmem, hmv'⟩ := ih hrest hm
          exact ⟨mv', List.mem_cons_of_mem _ hmem, hmv'⟩
        | unauthorized _ _ _ hnone => simp [hsid] at hnone
        | unaddressed _ _ hsid' herr =>
          rw [hsid] at hsid'
          cases hsid'
          simp [hurl] at herr
        | send _ hb _ hsid' hurl' hafter =>
          rw [hsid] at hsid'
          cases hsid'
          rw [hurl] at hurl'
          cases hurl'
          exact ⟨mv, List.mem_cons_self .., hb, hafter⟩

end OpenPolicy

/-! ## The poller -/

/-- What a poller is about: its token, its period, and when it started. -/
structure PollPolicy where
  token : Nat
  period : Nat
  start : Nat

/-- Where a poller stands. -/
inductive PollStage where
  /-- Not started: the time is to be read. -/
  | begin
  /-- Tick `k` is awaited; the previous refresh completed at `prev` (the start, before the first
  tick). -/
  | waiting (k : Nat) (prev : Nat)
  /-- Tick `k` came, in the world `w`; the inbox is looked at. -/
  | ticked (k : Nat) (w : World)
  /-- The refresh of tick `k`. -/
  | refreshing (k : Nat) (r : RefreshStage)

namespace PollPolicy

variable (P : PollPolicy)

/-- When tick `k` is due. -/
def due (k : Nat) : Nat := P.start + k * P.period

/-- The token is not cancelled in the world. -/
def Live (w : World) : Prop := Runtime.cancelled w P.token = false

/-- The moves of the poller. -/
inductive Step : PollStage → Move World → PollStage → Prop
  /-- The poller reads the time it starts at; the first tick is awaited. -/
  | begin {mv : Move World} :
      mv.woke = false → mv.after = mv.before → mv.before.now = P.start →
      Step .begin mv (.waiting 1 P.start)
  /-- Reading the token. -/
  | check {k prev : Nat} {mv : Move World} :
      mv.woke = false → mv.after = mv.before → Step (.waiting k prev) mv (.waiting k prev)
  /-- Tick `k` comes when it is due or, when the previous refresh completed later, at once
  then; the token is not cancelled. -/
  | tick {k prev : Nat} {mv : Move World} :
      mv.woke = true → mv.after = mv.before → mv.before.now = max (P.due k) prev →
      P.Live mv.before → Step (.waiting k prev) mv (.ticked k mv.before)
  /-- The token is cancelled while the tick is awaited. -/
  | cancel {k prev : Nat} {mv : Move World} :
      mv.woke = true → mv.after = mv.before → ¬ P.Live mv.before →
      Step (.waiting k prev) mv (.waiting k prev)
  /-- Looking at the inbox. -/
  | look {k : Nat} {w : World} {mv : Move World} :
      mv.woke = false → mv.before = w → mv.after = w → Step (.ticked k w) mv (.ticked k w)
  /-- The inbox is still there: the tick's refresh starts in the world of the tick. -/
  | proceed {k : Nat} {w : World} {mv : Move World} :
      mv.woke = false → mv.before = w → mv.after = w → w.inbox.dropped = false →
      Step (.ticked k w) mv (.refreshing k (.start w))
  /-- The refresh of a tick, which sends only while the token is not cancelled. -/
  | refresh {k : Nat} {r r' : RefreshStage} {mv : Move World} :
      RefreshStep P.Live r mv r' → Step (.refreshing k r) mv (.refreshing k r')
  /-- The refresh of tick `k` completed: tick `k + 1` is awaited. -/
  | next {k : Nat} {mv : Move World} :
      mv.woke = false → mv.after = mv.before →
      Step (.refreshing k .over) mv (.waiting (k + 1) mv.before.now)

/-- Where the poller waits: for tick `k` before it is due, until it is due; and for the answer
of a refresh. -/
def Rests : PollStage → World → Option Nat → Prop
  | .waiting k _, w, d => w.now < P.due k ∧ d = some (P.due k)
  | .refreshing _ r, _, _ => r.Rests
  | _, _, _ => False

/-- Where the poller's policy ends: at once with no period; when the inbox is gone at a tick;
or once its ticks run out. -/
def Finished : PollStage → World → Prop
  | .begin, _ => P.period = 0
  | .ticked .., w => w.inbox.dropped = true
  | .refreshing k .over, _ => Inbox.pollFuel ≤ k
  | _, _ => False

/-- Where the poller ends: once its token is cancelled, or where its policy ends. -/
def Ends (m : PollStage) (w : World) : Prop := ¬ P.Live w ∨ P.Finished m w

/-- The poller as a monitor, among any others. -/
def monitor : Monitor World PollStage where
  next := P.Step
  rests := P.Rests
  others _ _ := True

variable {P}

/-- **The poller sends only while its token is not cancelled**: every move of the poller that
changes the backend starts in a world where the token is live. -/
theorem Step.live_of_backend {m m' : PollStage} {mv : Move World} (h : P.Step m mv m')
    (hb : mv.after.backend ≠ mv.before.backend) : P.Live mv.before := by
  cases h with
  | refresh hr => exact hr.live_of_backend hb
  | _ => simp_all

/-- The poller never cancels nor takes back a cancellation. -/
theorem Step.cancelled_eq {m m' : PollStage} {mv : Move World} (h : P.Step m mv m') :
    mv.after.cancelled = mv.before.cancelled := by
  cases h with
  | refresh hr => exact hr.cancelled_eq
  | _ => simp_all

end PollPolicy

end MarketChat
