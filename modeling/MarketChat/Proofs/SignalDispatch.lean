import MarketChat.Proofs.ActorMemory
/-!
# Reading a connection

The pump of a chat session reads the signals of its connection in order, while its lifetime
lasts:

* a frame that decodes is dispatched (`Session.dispatch`); one that does not is skipped;
* a transport error takes the session offline;
* reading goes on after each of these, and a closing signal or the end of the stream ends it.

A dispatched frame reports what it says (`Session.reportsOf`): a message with its side for the
actor, the peer's typing (not the actor's own), the users online by their ids, how many
messages were read, a disconnected peer; an unknown frame reports nothing. A message from the
peer also starts tasks (`Session.tasksOf`): the read receipt, and the notification with the
session's peer label when notifications are wired. The receipt, once it runs while the lifetime
lasts, sends one request: `POST` to the chat's read address with the actor's id
(`Session.receiptTask_posts`) — when that address reads as a URL. When it does not, the
receipt sends nothing (`Session.receipt_sends_nothing_without_address`).

A burst (`Proc.Burst`) is a part of a run where time does not move: atomic steps, and waits
that are over at once. It lists the tasks it starts, in order. The pump between two signals is
one burst, so reading a queue of signals is one burst too (`Session.Reads.pump_burst`), and every
queue of frames and errors is read (`Session.Reads.of_inbound`).

Main definitions: `Proc.Burst`, `Session.reportsOf`, `Session.tasksOf`, `Session.Reads`.
Main statement: `Session.pump_reads_signals`.
-/

namespace MarketChat

/-! ## Bursts -/

namespace Proc

variable {σ : Type}

/-- A burst of a process: from `s` it comes to `q` in `s'` by atomic steps and waits that are
over at once, starting the tasks `ts` in order. -/
inductive Burst : {α : Type} → Proc σ α → σ → List (Proc σ Unit) → Proc σ α → σ → Prop
  | refl {α : Type} (p : Proc σ α) (s : σ) : Burst p s [] p s
  | step {α β : Type} {f : σ → β × σ} {k : β → Proc σ α} {s : σ} {ts : List (Proc σ Unit)}
      {q : Proc σ α} {s' : σ} :
      Burst (k (f s).1) (f s).2 ts q s' → Burst (.step f k) s ts q s'
  | ready {α β : Type} {b : Blocker σ β} {k : Wake β → Proc σ α} {s : σ} {v : β} {s₁ : σ}
      {ts : List (Proc σ Unit)} {q : Proc σ α} {s' : σ} :
      b.ready s = some (v, s₁) → Burst (k (.ready v)) s₁ ts q s' → Burst (.block b k) s ts q s'
  | spawn {α : Type} {t : Proc σ Unit} {k : Nat → Proc σ α} {s : σ} (i : Nat)
      {ts : List (Proc σ Unit)} {q : Proc σ α} {s' : σ} :
      Burst (k i) s ts q s' → Burst (.spawn t k) s (t :: ts) q s'
  | kill {α : Type} {i : Nat} {k : Proc σ α} {s : σ} {ts : List (Proc σ Unit)} {q : Proc σ α}
      {s' : σ} : Burst k s ts q s' → Burst (.kill i k) s ts q s'
  | current {α : Type} {k : Nat → Proc σ α} {s : σ} (i : Nat) {ts : List (Proc σ Unit)}
      {q : Proc σ α} {s' : σ} : Burst (k i) s ts q s' → Burst (.current k) s ts q s'

/-- Bursts compose: the second starts where the first stopped. -/
theorem Burst.trans {α : Type} {p q r : Proc σ α} {s s₁ s₂ : σ} {ts ts' : List (Proc σ Unit)}
    (h : Burst p s ts q s₁) (h' : Burst q s₁ ts' r s₂) : Burst p s (ts ++ ts') r s₂ := by
  induction h with
  | refl => exact h'
  | step _ ih => exact .step (ih h')
  | ready hv _ ih => exact .ready hv (ih h')
  | spawn i _ ih => exact .spawn i (ih h')
  | kill _ ih => exact .kill (ih h')
  | current i _ ih => exact .current i (ih h')

/-- A burst of the first part of a sequence is a burst of the sequence. -/
theorem Burst.bind {α β : Type} {p q : Proc σ α} {s s' : σ} {ts : List (Proc σ Unit)}
    (h : Burst p s ts q s') (f : α → Proc σ β) : Burst (p >>= f) s ts (q >>= f) s' := by
  induction h with
  | refl => exact .refl _ _
  | step _ ih => exact .step ih
  | ready hv _ ih => exact .ready hv ih
  | spawn i _ ih => exact .spawn i ih
  | kill _ ih => exact .kill ih
  | current i _ ih => exact .current i ih

/-- A sequence whose first part ends in a burst goes on with the second. -/
theorem Burst.bind_pure {α β : Type} {p : Proc σ α} {a : α} {s s₁ s₂ : σ}
    {ts ts' : List (Proc σ Unit)} {f : α → Proc σ β} {q : Proc σ β}
    (h : Burst p s ts (.pure a) s₁) (hf : Burst (f a) s₁ ts' q s₂) :
    Burst (p >>= f) s (ts ++ ts') q s₂ :=
  (h.bind f).trans hf

theorem Burst.modify {f : σ → σ} (s : σ) : Burst (Proc.modify f) s [] (.pure ()) (f s) :=
  .step (.refl _ _)

/-- Guarding a sequence guards its first part, then the rest unless the guard caught. -/
theorem guardWith_bind {α β : Type} (tok : Nat) (p : Proc σ α) (f : α → Proc σ β) :
    guardWith tok (p >>= f) = guardWith tok p >>= fun
      | some a => guardWith tok (f a)
      | none => .pure none := by
  induction p with
  | pure a => rfl
  | abort t =>
    show (if t = tok then _ else _) = Proc.bind (if t = tok then _ else _) _
    split <;> rfl
  | step g k ih => exact congrArg (Proc.step g) (funext fun x => ih x f)
  | block b k ih => exact congrArg (Proc.block _) (funext fun x => ih x f)
  | spawn t k _ ih => exact congrArg (Proc.spawn t) (funext fun x => ih x f)
  | kill t k ih => exact congrArg (Proc.kill t) (ih f)
  | current k ih => exact congrArg Proc.current (funext fun x => ih x f)

end Proc

/-! ## The queue of a connection -/

/-- The signals waiting on connection `conn`, if it exists. -/
def SocketServer.inboundOf (s : SocketServer) (conn : Nat) : Option (List SocketSignal) :=
  s.conns[conn]?.map (·.inbound)

/-- The signal that ends a connection. -/
def SocketSignal.isClosed : SocketSignal → Bool
  | .closed _ _ => true
  | _ => false

/-- Receiving takes the first signal waiting, and leaves the rest. -/
theorem SocketServer.receive_of_inbound {s : SocketServer} {conn : Nat} {sig : SocketSignal}
    {rest : List SocketSignal} (h : s.inboundOf conn = some (sig :: rest)) :
    ∃ so, s.receive conn = some (some sig, so) ∧ so.inboundOf conn = some rest := by
  obtain ⟨c, hc, hin⟩ := Option.map_eq_some_iff.mp h
  refine ⟨s.modifyConn conn fun c => { c with inbound := rest }, ?_, ?_⟩
  · simp [receive, hc, hin]
  · simp [inboundOf, modifyConn, hc]

/-- Letting go of a sending half leaves every connection's queue. -/
@[simp] theorem SocketServer.inboundOf_release (s : SocketServer) (j conn : Nat) :
    (s.release j).inboundOf conn = s.inboundOf conn := by
  unfold release
  split
  · split
    · by_cases h : j = conn
      · subst h; simp_all [inboundOf, modifyConn]
      · simp [inboundOf, modifyConn, h]
    · rfl
  · rfl

@[simp] theorem World.inboundOf_goOnline (w : World) (i : Nat) (online : Bool) (o : Option Nat)
    (conn : Nat) : (w.goOnline i online o).sockets.inboundOf conn = w.sockets.inboundOf conn := by
  have hrel : (Session.releaseIn w (w.session i).outbound).sockets.inboundOf conn =
      w.sockets.inboundOf conn := by
    cases (w.session i).outbound <;> simp [Session.releaseIn]
  unfold World.goOnline
  split <;> exact hrel

/-! ## What a frame reports and starts -/

/-- The world once session `i` has reported the events `es`, in order. -/
def World.emitAll (w : World) (i : Nat) (es : List SessionEvent) : World :=
  { w with sessionEvents := w.sessionEvents ++ es.map (i, ·) }

@[simp] theorem World.emitAll_nil (w : World) (i : Nat) : w.emitAll i [] = w := by
  simp [World.emitAll]

@[simp] theorem World.emitAll_single (w : World) (i : Nat) (e : SessionEvent) :
    w.emitAll i [e] = w.emit i e := rfl

namespace Session

/-- What a frame from the server reports, for the actor `a`: a message with its side, the
peer's typing, the users online by their ids, how many messages were read, a disconnected
peer; nothing for the actor's own typing or an unknown frame. -/
def reportsOf (a : Actor) : InboundFrame → List SessionEvent
  | .message m => [.messageReceived (DisplayMessage.forActor m a)]
  | .typing u b => if u ≠ a.id then [.peerTyping b] else []
  | .onlineUsers us => [.onlineUsers (us.map Json.userIdText)]
  | .messagesRead n _ => [.messagesRead n]
  | .userDisconnected u => [.peerDisconnected u]
  | .unknown => []

/-- The read receipt of a chat for a user, unless the lifetime `tok` ends first. -/
def receiptTask (chatId : Int) (tok : Nat) (uid : String) : Act Unit := do
  let _ ← Proc.guarded tok (Api.markRead chatId uid)

/-- The notification of a message from the peer `label`, unless the lifetime `tok` ends
first. -/
def notifyTask (label text : String) (chatId : Int) (tok : Nat) : Act Unit := do
  let _ ← Proc.guarded tok (Bridge.notify label text chatId)

/-- The tasks a frame starts in session `i` of `w`: a message from the peer starts the read
receipt for the actor and, when notifications are wired, the notification with the session's
peer label. -/
def tasksOf (i : Nat) (chatId : Int) (tok : Nat) (a : Actor) (w : World) :
    InboundFrame → List (Act Unit)
  | .message m =>
    if (DisplayMessage.forActor m a).own then []
    else receiptTask chatId tok a.id ::
      if w.notifications then [notifyTask (w.session i).peerLabel m.text chatId tok] else []
  | _ => []

/-- **Dispatching a frame** is one burst: it reports what the frame says and starts the tasks
it calls for. -/
theorem dispatch_burst (i : Nat) (chatId : Int) (tok : Nat) (a : Actor) (w : World)
    (f : InboundFrame) :
    Proc.Burst (dispatch i chatId tok a f) w (tasksOf i chatId tok a w f) (.pure ())
      (w.emitAll i (reportsOf a f)) := by
  cases f with
  | message m =>
    unfold dispatch
    refine .step ?_
    by_cases hown : (DisplayMessage.forActor m a).own = true
    · simp only [hown, Bool.not_true, Bool.false_eq_true, if_false, tasksOf, reportsOf,
        if_true, World.emitAll_single]
      exact .refl _ _
    · simp only [hown, Bool.not_false, if_true, tasksOf, reportsOf, World.emitAll_single,
        Bool.false_eq_true, if_false]
      unfold incoming
      refine .spawn 0 (.step ?_)
      -- the notification flag and the peer label are read after the report, which keeps them
      by_cases hn : w.notifications = true
      · have hn' : (w.emit i (.messageReceived (DisplayMessage.forActor m a))).notifications =
            true := hn
        simp only [hn', hn, if_true]
        exact .step (.spawn 0 (.refl _ _))
      · have hn' : (w.emit i (.messageReceived (DisplayMessage.forActor m a))).notifications =
            false := by simpa [World.emit] using hn
        simp only [hn', Bool.false_eq_true, if_false, hn]
        exact .refl _ _
  | typing u b =>
    by_cases hu : u = a.id
    · simp only [dispatch, reportsOf, tasksOf, hu, ne_eq, not_true_eq_false, if_false,
        World.emitAll_nil]
      exact .refl _ _
    · simp only [dispatch, reportsOf, tasksOf, hu, ne_eq, not_false_eq_true, if_true,
        World.emitAll_single]
      exact Proc.Burst.modify w
  | onlineUsers us => exact Proc.Burst.modify w
  | messagesRead n u => exact Proc.Burst.modify w
  | userDisconnected u => exact Proc.Burst.modify w
  | unknown =>
    simp only [dispatch, reportsOf, tasksOf, World.emitAll_nil]
    exact .refl _ _

/-! ## Reading signals -/

/-- While the lifetime lasts, a signal waiting on the connection is taken at once. -/
theorem guarded_receive_burst {w : World} {conn tok : Nat} {sig : Option SocketSignal}
    {so : SocketServer} (hlive : w.isCancelled tok = false)
    (hr : w.sockets.receive conn = some (sig, so)) :
    Proc.Burst (Proc.guarded tok (receive conn)) w [] (.pure (some sig)) { w with sockets := so } := by
  unfold Proc.guarded receive Proc.await
  refine .step ?_
  have hc : Runtime.cancelled w tok = false := hlive
  simp only [hc]
  refine @Proc.Burst.ready _ _ _ _ _ _ sig { w with sockets := so } _ _ _ ?_ (.refl _ _)
  simp [hr]

/-- A frame that decodes is dispatched, and reading goes on. -/
theorem pump_frame {i : Nat} {chatId : Int} {tok : Nat} {a : Actor} {conn fuel : Nat} {w : World}
    {raw : String} {f : InboundFrame} {so : SocketServer} (hlive : w.isCancelled tok = false)
    (hr : w.sockets.receive conn = some (some (.frame raw), so))
    (hf : InboundFrame.decode raw = .ok f) :
    Proc.Burst (pump i chatId tok a conn (fuel + 1)) w
      (tasksOf i chatId tok a { w with sockets := so } f) (pump i chatId tok a conn fuel)
      ({ w with sockets := so }.emitAll i (reportsOf a f)) := by
  rw [pump, ← List.nil_append (tasksOf ..)]
  refine (guarded_receive_burst hlive hr).bind_pure ?_
  simp only [hf]
  rw [← List.append_nil (tasksOf ..)]
  exact (dispatch_burst i chatId tok a _ f).bind_pure (.refl _ _)

/-- A frame that does not decode is skipped, and reading goes on. -/
theorem pump_malformed {i : Nat} {chatId : Int} {tok : Nat} {a : Actor} {conn fuel : Nat}
    {w : World} {raw : String} {e : JsonError} {so : SocketServer}
    (hlive : w.isCancelled tok = false) (hr : w.sockets.receive conn = some (some (.frame raw), so))
    (hf : InboundFrame.decode raw = .error e) :
    Proc.Burst (pump i chatId tok a conn (fuel + 1)) w [] (pump i chatId tok a conn fuel)
      { w with sockets := so } := by
  rw [pump, ← List.nil_append []]
  refine (guarded_receive_burst hlive hr).bind_pure ?_
  simp only [hf]
  exact .refl _ _

/-- A transport error takes the session offline, and reading goes on. -/
theorem pump_error {i : Nat} {chatId : Int} {tok : Nat} {a : Actor} {conn fuel : Nat} {w : World}
    {msg : String} {so : SocketServer} (hlive : w.isCancelled tok = false)
    (hr : w.sockets.receive conn = some (some (.error msg), so)) :
    Proc.Burst (pump i chatId tok a conn (fuel + 1)) w [] (pump i chatId tok a conn fuel)
      ({ w with sockets := so }.goOnline i false none) := by
  rw [pump, ← List.nil_append []]
  refine (guarded_receive_burst hlive hr).bind_pure ?_
  rw [setOnline_eq]
  exact .step (.refl _ _)

/-- A closing signal, or the end of the stream, ends the reading. -/
theorem pump_closes {i : Nat} {chatId : Int} {tok : Nat} {a : Actor} {conn fuel : Nat} {w : World}
    {sig : Option SocketSignal} {so : SocketServer} (hlive : w.isCancelled tok = false)
    (hr : w.sockets.receive conn = some (sig, so))
    (hend : sig = none ∨ ∃ code reason, sig = some (.closed code reason)) :
    Proc.Burst (pump i chatId tok a conn (fuel + 1)) w [] (.pure false) { w with sockets := so } := by
  rw [pump, ← List.nil_append []]
  refine (guarded_receive_burst hlive hr).bind_pure ?_
  rcases hend with rfl | ⟨code, reason, rfl⟩ <;> exact .refl _ _

/-- What reading the signals `sigs` of connection `conn` does from `w`, one by one: each signal
is taken in turn; a frame that decodes reports what it says and starts its tasks, one that does
not is skipped, and an error takes the session offline. -/
inductive Reads (i : Nat) (chatId : Int) (tok : Nat) (a : Actor) (conn : Nat) :
    World → List SocketSignal → World → List (Act Unit) → Prop
  | nil (w : World) : Reads i chatId tok a conn w [] w []
  | frame {w : World} {raw : String} {f : InboundFrame} {so : SocketServer}
      {sigs : List SocketSignal} {w' : World} {ts : List (Act Unit)} :
      w.sockets.receive conn = some (some (.frame raw), so) → InboundFrame.decode raw = .ok f →
      Reads i chatId tok a conn ({ w with sockets := so }.emitAll i (reportsOf a f)) sigs w' ts →
      Reads i chatId tok a conn w (.frame raw :: sigs) w' (tasksOf i chatId tok a { w with sockets := so } f ++ ts)
  | malformed {w : World} {raw : String} {e : JsonError} {so : SocketServer}
      {sigs : List SocketSignal} {w' : World} {ts : List (Act Unit)} :
      w.sockets.receive conn = some (some (.frame raw), so) → InboundFrame.decode raw = .error e →
      Reads i chatId tok a conn { w with sockets := so } sigs w' ts → Reads i chatId tok a conn w (.frame raw :: sigs) w' ts
  | error {w : World} {msg : String} {so : SocketServer} {sigs : List SocketSignal} {w' : World}
      {ts : List (Act Unit)} :
      w.sockets.receive conn = some (some (.error msg), so) →
      Reads i chatId tok a conn ({ w with sockets := so }.goOnline i false none) sigs w' ts →
      Reads i chatId tok a conn w (.error msg :: sigs) w' ts

@[simp] theorem cancelled_goOnline (w : World) (i : Nat) (online : Bool) (o : Option Nat) :
    (w.goOnline i online o).cancelled = w.cancelled := by
  unfold World.goOnline
  cases (w.session i).outbound <;> split <;> rfl

/-- One round of the pump, then the rest of the reading: with one more round of fuel, the
reading from before the round goes as far and ends the same way. -/
theorem pump_burst_step {i : Nat} {chatId : Int} {tok : Nat} {a : Actor} {conn : Nat}
    {w w₁ w' : World} {ts₁ ts : List (Act Unit)} {n fuel : Nat}
    (hstep : ∀ f, Proc.Burst (pump i chatId tok a conn (f + 1)) w ts₁ (pump i chatId tok a conn f) w₁)
    (hrest : ∀ {fuel}, n < fuel →
      Proc.Burst (pump i chatId tok a conn fuel) w₁ ts (pump i chatId tok a conn (fuel - n)) w' ∧
        ∀ sig so, w'.sockets.receive conn = some (sig, so) →
          (sig = none ∨ ∃ code reason, sig = some (.closed code reason)) →
          Proc.Burst (pump i chatId tok a conn fuel) w₁ ts (.pure false) { w' with sockets := so })
    (hfuel : n + 1 < fuel) :
    Proc.Burst (pump i chatId tok a conn fuel) w (ts₁ ++ ts)
        (pump i chatId tok a conn (fuel - (n + 1))) w' ∧
      ∀ sig so, w'.sockets.receive conn = some (sig, so) →
        (sig = none ∨ ∃ code reason, sig = some (.closed code reason)) →
        Proc.Burst (pump i chatId tok a conn fuel) w (ts₁ ++ ts) (.pure false)
          { w' with sockets := so } := by
  obtain ⟨f, rfl⟩ : ∃ f, fuel = f + 1 := ⟨fuel - 1, by omega⟩
  obtain ⟨hrun, hend⟩ := @hrest f (by omega)
  refine ⟨?_, fun sig so hr hcl => (hstep f).trans (hend sig so hr hcl)⟩
  simpa using (hstep f).trans hrun

/-- While the lifetime lasts, reading signals is one burst that does with each what `Reads`
says, and goes on reading; a closing signal or the end of the stream after them ends it. -/
theorem Reads.pump_burst {i : Nat} {chatId : Int} {tok : Nat} {a : Actor} {conn : Nat}
    {w : World} {sigs : List SocketSignal} {w' : World} {ts : List (Act Unit)} {fuel : Nat}
    (h : Reads i chatId tok a conn w sigs w' ts) (hlive : w.isCancelled tok = false)
    (hfuel : sigs.length < fuel) :
    Proc.Burst (pump i chatId tok a conn fuel) w ts (pump i chatId tok a conn (fuel - sigs.length))
        w' ∧
      ∀ sig so, w'.sockets.receive conn = some (sig, so) →
        (sig = none ∨ ∃ code reason, sig = some (.closed code reason)) →
        Proc.Burst (pump i chatId tok a conn fuel) w ts (.pure false) { w' with sockets := so } := by
  -- one signal is one round of the pump: induction on the signals read, the fuel one ahead
  induction h generalizing fuel with
  | nil w =>
    obtain ⟨f, rfl⟩ : ∃ f, fuel = f + 1 := ⟨fuel - 1, by simp at hfuel; omega⟩
    exact ⟨.refl _ _, fun sig so hr hend => pump_closes hlive hr hend⟩
  | frame hr hf _ ih =>
    exact pump_burst_step (fun _ => pump_frame hlive hr hf) (ih hlive) hfuel
  | malformed hr hf _ ih =>
    exact pump_burst_step (fun _ => pump_malformed hlive hr hf) (ih hlive) hfuel
  | @error w msg so sigs w' ts hr _ ih =>
    have hlive' : ({ w with sockets := so }.goOnline i false none).isCancelled tok = false := by
      simpa [World.isCancelled] using hlive
    exact pump_burst_step (fun _ => pump_error hlive hr) (ih hlive') hfuel


/-- Every queue of frames and errors is read, and what follows it is left waiting. -/
theorem Reads.of_inbound (i : Nat) (chatId : Int) (tok : Nat) (a : Actor) {conn : Nat}
    {w : World} {sigs rest : List SocketSignal}
    (hq : w.sockets.inboundOf conn = some (sigs ++ rest))
    (hopen : ∀ sig ∈ sigs, sig.isClosed = false) :
    ∃ w' ts, Reads i chatId tok a conn w sigs w' ts ∧ w'.sockets.inboundOf conn = some rest := by
  -- the queue invariant: what is left to read waits on the connection, in every world on the way
  induction sigs generalizing w with
  | nil => exact ⟨w, [], .nil w, hq⟩
  | cons sig sigs ih =>
    obtain ⟨so, hr, hso⟩ := SocketServer.receive_of_inbound hq
    have hopen' : ∀ sig ∈ sigs, sig.isClosed = false := fun s hs => hopen s (.tail _ hs)
    cases sig with
    | frame raw =>
      cases hf : InboundFrame.decode raw with
      | ok f =>
        obtain ⟨w', ts, hread, hrest⟩ :=
          ih (w := { w with sockets := so }.emitAll i (reportsOf a f)) hso hopen'
        exact ⟨w', _, .frame hr hf hread, hrest⟩
      | error e =>
        obtain ⟨w', ts, hread, hrest⟩ := ih (w := { w with sockets := so }) hso hopen'
        exact ⟨w', ts, .malformed hr hf hread, hrest⟩
    | error msg =>
      obtain ⟨w', ts, hread, hrest⟩ := ih (w := { w with sockets := so }.goOnline i false none)
        (by rw [World.inboundOf_goOnline]; exact hso) hopen'
      exact ⟨w', ts, .error hr hread, hrest⟩
    | closed code reason => simp [SocketSignal.isClosed] at hopen

/-! ## The read receipt -/

/-- A wait under a lifetime that lasts through it. -/
theorem guarded_sleep_alone {w : World} {tok : Nat} (hlive : w.isCancelled tok = false)
    (ms : Nat) :
    Proc.Alone (Proc.guardWith tok (Proc.sleep ms)) w (if 0 < ms then 1 else 0) (some ())
      { w with now := w.now + ms } := by
  cases ms with
  | zero => exact .step (@Proc.Alone.ready _ _ _ _ _ _ _ () w _ _ _ (by simp [Runtime.now]) .pure)
  | succ ms =>
    have hmax : max (w.now + (ms + 1)) w.now = w.now + (ms + 1) := by omega
    refine .step (@Proc.Alone.timed _ _ _ _ _ _ _ (w.now + (ms + 1)) ()
      { w with now := w.now + (ms + 1) } _ _ _ ?_ rfl ?_ ?_ ?_)
    · simp [Runtime.now]
    · simpa [Runtime.cancelled, Proc.atDeadline, Runtime.setNow, World.isCancelled] using hlive
    · simp [Proc.atDeadline, Runtime.now, Runtime.setNow, hmax]
    · exact .pure

/-- A request under a lifetime that lasts through it: sent by one step, answered after the
route's delay. -/
theorem guarded_execute_alone {w : World} {tok : Nat} (hlive : w.isCancelled tok = false)
    (req : HttpRequest) :
    Proc.Alone (Proc.guardWith tok (Api.execute req)) w
      (if 0 < (w.backend.exchange req).2.1 then 1 else 0) (some (w.backend.exchange req).2.2)
      (w.answered req) := by
  rw [Api.execute_eq]
  refine .step ?_
  have hlive' : (w.exchanged req).isCancelled tok = false := hlive
  change Proc.Alone (Proc.guardWith tok (if 0 < (w.backend.exchange req).2.1 then
      Proc.sleep (w.backend.exchange req).2.1 >>= fun _ => pure (w.backend.exchange req).2.2
    else pure (w.backend.exchange req).2.2)) (w.exchanged req) _ _ _
  by_cases hpos : 0 < (w.backend.exchange req).2.1
  · have h := guarded_sleep_alone hlive' (w.backend.exchange req).2.1
    simp only [hpos, if_true] at h ⊢
    rw [Proc.guardWith_bind, ← Nat.add_zero 1]
    exact h.bind (m := 0) .pure
  · have hzero : (w.backend.exchange req).2.1 = 0 := by omega
    simp only [hpos, if_false]
    rw [World.answered, hzero]
    exact .pure

/-- A call under a lifetime that lasts through it, at an address that reads as a URL: its
request sent once, its answer read. -/
theorem guarded_call_alone {α : Type} {w : World} {tok : Nat} {path url : String}
    {params : List (String × String)} {request : String → HttpRequest}
    {answer : String → HttpResponse → Except HttpError α} (hlive : w.isCancelled tok = false)
    (hurl : Api.address w.config path params = .ok url) :
    Proc.Alone (Proc.guardWith tok (Api.call path params request 0 answer)) w
      (if 0 < (w.backend.exchange (request url)).2.1 then 1 else 0)
      (some ((w.backend.exchange (request url)).2.2 >>= answer url))
      (w.answered (request url)) := by
  unfold Api.call
  rw [Proc.guardWith_bind]
  refine .step ?_
  simp only [Proc.guardWith, Proc.bind, hurl]
  rw [Api.fetch_zero, Proc.guardWith_bind]
  show Proc.Alone _ w ((if 0 < (w.backend.exchange (request url)).2.1 then 1 else 0) + 0) _ _
  refine (guarded_execute_alone hlive (request url)).bind ?_
  generalize (w.backend.exchange (request url)).2.2 = ans
  cases ans <;> exact .pure

/-- **The read receipt posts once.** Run while the lifetime lasts, at a chat read address that
reads as a URL, the receipt sends one request, `POST` to that address with the user's id, and
changes nothing else; a reachable backend logs it. -/
theorem receiptTask_posts {w : World} {chatId : Int} {tok : Nat} {uid url : String}
    (hlive : w.isCancelled tok = false)
    (hurl : Api.address w.config ("/chat/chats/" ++ toString chatId ++ "/read") [("user_id", uid)] =
      .ok url) :
    ∃ n, Proc.Alone (receiptTask chatId tok uid) w n () (w.answered { method := .post, url }) ∧
      (w.backend.reachable = true →
        (w.answered { method := .post, url }).backend.log =
          w.backend.log ++ [{ method := .post, url }]) := by
  have hc : Runtime.cancelled w tok = false := hlive
  have hcall := @guarded_call_alone _ _ _ _ _ _ (fun url => { method := .post, url })
    Api.expectSuccess hlive hurl
  refine ⟨(if 0 < (w.backend.exchange { method := .post, url }).2.1 then 1 else 0) + 0, ?_,
    fun hr => Backend.exchange_log_of_reachable hr _⟩
  unfold receiptTask Proc.guarded
  refine .step ?_
  simp only [hc]
  exact hcall.bind .pure

/-- The notification, run while the lifetime lasts, announces the message once. -/
theorem notifyTask_alone {w : World} {label text : String} {chatId : Int} {tok : Nat}
    (hlive : w.isCancelled tok = false) :
    Proc.Alone (notifyTask label text chatId tok) w 0 () (Bridge.notifyIn w label text chatId).2 := by
  have hc : Runtime.cancelled w tok = false := hlive
  unfold notifyTask Proc.guarded
  refine .step ?_
  simp only [hc]
  exact .step .pure

/-- **The pump reads the signals of its connection in order.** From a connection whose queue
holds frames and errors `sigs`, while the lifetime lasts, the pump reads them all in one burst:
each decoded frame reports what it says (`reportsOf`) and starts its tasks (`tasksOf`), an
undecodable one does nothing, an error takes the session offline, and reading goes on; a closing
signal or the end of the stream after them ends the pump. Of the tasks, the read receipt posts
once to the chat's read address with the actor's id, when that address reads as a URL, and the
notification announces the message once. -/
theorem pump_reads_signals {i : Nat} {chatId : Int} {tok : Nat} {a : Actor} {conn fuel : Nat}
    {w : World} {sigs rest : List SocketSignal}
    (hq : w.sockets.inboundOf conn = some (sigs ++ rest))
    (hopen : ∀ sig ∈ sigs, sig.isClosed = false) (hlive : w.isCancelled tok = false)
    (hfuel : sigs.length < fuel) :
    ∃ w' ts, Reads i chatId tok a conn w sigs w' ts ∧ w'.sockets.inboundOf conn = some rest ∧
      Proc.Burst (pump i chatId tok a conn fuel) w ts
        (pump i chatId tok a conn (fuel - sigs.length)) w' ∧
      (∀ sig so, w'.sockets.receive conn = some (sig, so) →
        (sig = none ∨ ∃ code reason, sig = some (.closed code reason)) →
        Proc.Burst (pump i chatId tok a conn fuel) w ts (.pure false) { w' with sockets := so }) ∧
      (∀ (w₀ : World) url, w₀.isCancelled tok = false →
        Api.address w₀.config ("/chat/chats/" ++ toString chatId ++ "/read") [("user_id", a.id)] =
          .ok url →
        ∃ n, Proc.Alone (receiptTask chatId tok a.id) w₀ n () (w₀.answered { method := .post, url }) ∧
          (w₀.backend.reachable = true →
            (w₀.answered { method := .post, url }).backend.log =
              w₀.backend.log ++ [{ method := .post, url }])) ∧
      (∀ (w₀ : World) label text, w₀.isCancelled tok = false →
        Proc.Alone (notifyTask label text chatId tok) w₀ 0 () (Bridge.notifyIn w₀ label text chatId).2) := by
  obtain ⟨w', ts, hread, hrest⟩ := Reads.of_inbound i chatId tok a hq hopen
  obtain ⟨hrun, hend⟩ := hread.pump_burst hlive hfuel
  exact ⟨w', ts, hread, hrest, hrun, hend, fun _ _ h₀ hurl => receiptTask_posts h₀ hurl,
    fun _ _ _ h₀ => notifyTask_alone h₀⟩

/-- A frame and then a transport error, waiting on the only connection, are read in one
burst. -/
theorem pump_reads_frame_then_error :
    let w : World := { sockets := { conns := [{ url := "ws:", inbound := [.frame "x", .error "reset"] }] } }
    ∃ w' ts, Reads 0 5 0 ⟨"7", true⟩ 0 w [.frame "x", .error "reset"] w' ts ∧
      Proc.Burst (pump 0 5 0 ⟨"7", true⟩ 0 3) w ts (pump 0 5 0 ⟨"7", true⟩ 0 1) w' := by
  obtain ⟨w', ts, hread, -, hrun, -⟩ := @pump_reads_signals 0 5 0 ⟨"7", true⟩ 0 3
    { sockets := { conns := [{ url := "ws:", inbound := [.frame "x", .error "reset"] }] } }
    [.frame "x", .error "reset"] [] rfl (by decide) rfl (by decide)
  exact ⟨w', ts, hread, hrun⟩

/-- An API prefix that leaves the chat read address unreadable (a port that is not a number):
the receipt ends at once and sends nothing. -/
theorem receipt_sends_nothing_without_address :
    let s : Scene := { pool := { state := { config := { origin := "http://[::1]", apiPrefix := ":x" } } } }
    (Api.address s.world.config "/chat/chats/5/read" [("user_id", "anon-0001")]).toBool = false ∧
      (s.perform (receiptTask 5 0 "anon-0001")).1 = some () ∧
      (s.perform (receiptTask 5 0 "anon-0001")).2.world.backend.log.length = 0 := by
  decide +kernel

end Session

end MarketChat
