import MarketChat.Proofs.SignalDispatch
import MarketChat.Proofs.ReadOnlyRuns
/-!
# Keystrokes and the typing timer under the scheduler

A keystroke (`Session.inputChanged`) sends the start of typing on the session's connection,
starts a timer task and stops the previous one; the timer sleeps `typingIdleMs` and then sends
the stop, unless its lifetime ends first. This module runs both under the scheduler, in a pool
whose other tasks sleep through them (`Unmoved`: the lifetime is live, the connections and the
clock do not change), and computes the pool each command leaves:

* a keystroke returns in its first poll, and the timer it starts runs in the same round: it
  sends the stop at once when the timeout is zero, and otherwise parks as `timerTask` until
  the stop falls due (`run_keystroke`);
* time passing moves the clock to the end of the wait. A timer that falls due on the way fires
  when the clock reaches it (`drive_waitFire`); one that falls due when the wait ends fires
  just after the wait ends (`drive_waitTie`); either way the stop goes out once
  (`run_waitFires`). Otherwise nothing runs (`run_waitQuiet`, `run_waitZero`).

Each command is taken apart into the scheduler's pieces: one lemma per segment, poll and round,
composed by `Run.drive_of_round`, `Run.drive_moves` and `Run.drive_ends`.

Main statements: `run_keystroke`, `run_waitZero`, `run_waitQuiet`, `run_waitFires`.
-/

namespace MarketChat

theorem Proc.bind_def {σ α β : Type} (p : Proc σ α) (f : α → Proc σ β) : p >>= f = Proc.bind p f :=
  rfl

theorem Act.pure_def {α : Type} (a : α) : (pure a : Act α) = Proc.pure a := rfl

/-! ## Worlds after typing signals -/

@[simp] theorem SocketServer.send_conns (s : SocketServer) (c : Nat) (text : String) :
    (s.send c text).2.conns = s.conns := by
  unfold SocketServer.send
  split
  · split <;> rfl
  · rfl

/-- A connection the client holds takes a frame, and logs it. -/
theorem SocketServer.send_sent {s : SocketServer} {c : Nat} {k : Connection}
    (hk : s.conns[c]? = some k) (hh : k.clientHolds = true) (text : String) :
    (s.send c text).2.sent = s.sent ++ [.frame c text] := by
  simp [SocketServer.send, hk, hh]

/-- The frame that signals typing, or its stop, on connection `c`. -/
def typingFrame (c : Nat) (typing : Bool) : Outgoing := .frame c (OutboundFrame.typing typing).encode

namespace World

@[simp] theorem session_withSockets (w : World) (so : SocketServer) (i : Nat) :
    ({ w with sockets := so } : World).session i = w.session i := rfl

@[simp] theorem isCancelled_withSockets (w : World) (so : SocketServer) (t : Nat) :
    ({ w with sockets := so } : World).isCancelled t = w.isCancelled t := rfl

@[simp] theorem isCancelled_modifySession (w : World) (i : Nat) (f : SessionState → SessionState)
    (t : Nat) : (w.modifySession i f).isCancelled t = w.isCancelled t := rfl

@[simp] theorem sockets_modifySession (w : World) (i : Nat) (f : SessionState → SessionState) :
    (w.modifySession i f).sockets = w.sockets := rfl

/-- Not by `rfl`: the scheduler lemmas discharge this side condition by rewriting. -/
theorem now_modifySession_eq (w : World) (i : Nat) (f : SessionState → SessionState) :
    (w.modifySession i f).now = w.now := by
  cases w
  rfl

/-- The world after a typing signal went out on connection `c`. -/
def signalTyping (w : World) (c : Nat) (typing : Bool) : World :=
  { w with sockets := (w.sockets.send c (OutboundFrame.typing typing).encode).2 }

/-- The world after a keystroke: the start of typing went out on connection `c`, and the timer
task `n` is the session's. -/
def keyed (w : World) (c n : Nat) : World :=
  (w.signalTyping c true).modifySession 0 fun s => { s with typingTimer := some n }

@[simp] theorem isCancelled_signalTyping (w : World) (c : Nat) (b : Bool) (t : Nat) :
    (w.signalTyping c b).isCancelled t = w.isCancelled t := rfl

@[simp] theorem conns_signalTyping (w : World) (c : Nat) (b : Bool) :
    (w.signalTyping c b).sockets.conns = w.sockets.conns :=
  SocketServer.send_conns _ _ _

@[simp] theorem now_signalTyping (w : World) (c : Nat) (b : Bool) :
    (w.signalTyping c b).now = w.now := rfl

@[simp] theorem session_signalTyping (w : World) (c : Nat) (b : Bool) (i : Nat) :
    (w.signalTyping c b).session i = w.session i := rfl

@[simp] theorem config_signalTyping (w : World) (c : Nat) (b : Bool) :
    (w.signalTyping c b).config = w.config := rfl

theorem sent_signalTyping {w : World} {c : Nat} {k : Connection} (hk : w.sockets.conns[c]? = some k)
    (hh : k.clientHolds = true) (b : Bool) :
    (w.signalTyping c b).sockets.sent = w.sockets.sent ++ [typingFrame c b] :=
  SocketServer.send_sent hk hh _

theorem signalTyping_setNow (w : World) (c : Nat) (b : Bool) (t : Nat) :
    ({ w.signalTyping c b with now := t } : World) = ({ w with now := t } : World).signalTyping c b :=
  rfl

@[simp] theorem isCancelled_keyed (w : World) (c n t : Nat) :
    (w.keyed c n).isCancelled t = w.isCancelled t := rfl

@[simp] theorem conns_keyed (w : World) (c n : Nat) : (w.keyed c n).sockets.conns = w.sockets.conns :=
  SocketServer.send_conns _ _ _

@[simp] theorem config_keyed (w : World) (c n : Nat) : (w.keyed c n).config = w.config := rfl

theorem now_keyed (w : World) (c n : Nat) : (w.keyed c n).now = w.now :=
  now_modifySession_eq _ _ _

theorem sent_keyed {w : World} {c n : Nat} {k : Connection} (hk : w.sockets.conns[c]? = some k)
    (hh : k.clientHolds = true) : (w.keyed c n).sockets.sent = w.sockets.sent ++ [typingFrame c true] :=
  sent_signalTyping hk hh true

/-- A world whose session 0 has a lifetime has a session 0 of its own. -/
theorem sessions_ne_nil_of_lifetime {w : World} {tok : Nat} (h : (w.session 0).lifetime = some tok) :
    w.sessions ≠ [] := by
  intro hnil
  simp [World.session, hnil] at h

/-- A keystroke changes only the session's timer. -/
theorem session_keyed {w : World} {tok : Nat} (h : (w.session 0).lifetime = some tok) (c n : Nat) :
    (w.keyed c n).session 0 = { w.session 0 with typingTimer := some n } :=
  session_modifySession_zero (sessions_ne_nil_of_lifetime h) _

end World

/-! ## The typing timer -/

namespace Session

/-- The typing timer a keystroke starts: after `idle` quiet milliseconds it signals the stop,
unless its lifetime ends first. -/
def typingTimer (i tok idle : Nat) : Act Unit := do
  if (← Proc.guarded tok (Proc.sleep idle)).isSome then sendTyping i false

/-- The typing timer once it waits for the stop due at `d`. -/
def timerWaiting (i tok d : Nat) : Act Unit :=
  Proc.guardWith tok (Proc.await
      { ready := fun s => if d ≤ Runtime.now s then some ((), s) else none
        deadline := some d }) >>= fun o =>
    if o.isSome then sendTyping i false else pure ()

theorem inputChanged_eq (i : Nat) : inputChanged i = (do
    let some tok ← token i | return
    if !(← state i).online then return
    sendTyping i true
    let idle ← Proc.read (·.config.typingIdleMs)
    let timer ← Proc.fork (typingTimer i tok idle)
    let previous ← Proc.update fun w =>
      ((w.session i).typingTimer, w.modifySession i fun s => { s with typingTimer := some timer })
    if let some p := previous then Proc.stop p) := rfl

/-- A waiting timer is woken by the end of its lifetime or by its deadline. -/
@[simp] theorem timerWaiting_wakeable (i tok d : Nat) (s : World) :
    (timerWaiting i tok d).wakeable s = (s.isCancelled tok || decide (d ≤ s.now)) := by
  by_cases h : d ≤ s.now <;>
    simp [timerWaiting, Proc.guardWith, Proc.await, Proc.wakeable, Proc.bind_def, Proc.bind,
      Runtime.cancelled, Runtime.now, World.isCancelled, h]

theorem timerWaiting_isBlocked (i tok d : Nat) : (timerWaiting i tok d).isBlocked = true := rfl

theorem timerWaiting_deadline (i tok d : Nat) : (timerWaiting i tok d).deadline? = some d := rfl

/-- A timer whose stop is due, in a live lifetime, goes on to send it. -/
theorem timerWaiting_resume {w : World} {tok d : Nat} (hlive : w.isCancelled tok = false)
    (hd : d ≤ w.now) : (timerWaiting 0 tok d).resume w = some (sendTyping 0 false, w) := by
  have hnot : tok ∉ w.cancelled := by simpa [World.isCancelled] using hlive
  simp [timerWaiting, Proc.guardWith, Proc.await, Proc.bind_def, Proc.bind, Proc.resume,
    Runtime.now, Runtime.cancelled, hd, hnot]

end Session

/-- A freshly started timer task. -/
def timerStarted (n tok idle : Nat) : Task World := { id := n, proc := Session.typingTimer 0 tok idle }

/-- The typing timer task `o` of lifetime `tok`, parked until the stop falls due at `d`. -/
def timerTask (o tok d since : Nat) : Task World :=
  { id := o, proc := Session.timerWaiting 0 tok d, queued := false, since }

/-! ## Tasks that sleep through a typing session -/

/-- The states of an atomic run of a typing session: the lifetime `tok` is live, the
connections are `conns`, and the clock reads `now`. -/
def Unmoved (tok : Nat) (conns : List Connection) (now : Nat) (s : World) : Prop :=
  s.isCancelled tok = false ∧ s.sockets.conns = conns ∧ s.now = now

/-- `Run.setState_asleep` for the states of a typing session, with the conditions on the new
state spelled out so that `simp` discharges them. -/
theorem setState_unmoved {α : Type} (tok : Nat) (conns : List Connection) (now : Nat)
    {r : Run World α} {s : World} (hts : Task.Asleep (Unmoved tok conns now) r.pool.tasks)
    (hc : s.isCancelled tok = false) (hconns : s.sockets.conns = conns) (hnow : s.now = now)
    (hmain : (!r.mainRunning && r.main.wakeable s) = false) :
    r.setState s = { r with pool := { r.pool with state := s } } :=
  Run.setState_asleep hts ⟨hc, hconns, hnow⟩ hmain

/-- A timer sleeps until its stop falls due. -/
theorem timerTask_asleep {o tok d since : Nat} {conns : List Connection} {now : Nat} (hd : now < d) :
    Task.Asleep (Unmoved tok conns now) [timerTask o tok d since] := by
  simp only [Task.asleep_cons, Task.asleep_nil, and_true]
  rintro - s ⟨hc, -, rfl⟩
  simp [timerTask, hc, Nat.not_le.2 hd]

/-- Parked tasks that set no deadline. -/
def Timeless (ts : List (Task World)) : Prop := ∀ t ∈ ts, t.queued = false ∧ t.proc.deadline? = none

theorem Timeless.deadlines {ts : List (Task World)} (h : Timeless ts) :
    (ts.filter (!·.queued)).filterMap (·.proc.deadline?) = [] :=
  List.filterMap_eq_nil_iff.2 fun t ht => (h t (List.mem_filter.1 ht).1).2

theorem Timeless.due {ts : List (Task World)} (h : Timeless ts) (t : Nat) :
    ts.filter (fun k => !k.queued && k.proc.deadline?.any (· ≤ t)) = [] :=
  List.filter_eq_nil_iff.2 fun k hk => by simp [(h k hk).2]

/-- A task numbered above every other goes back last. -/
theorem Run.insertTask_last {σ : Type} {t : Task σ} {ts : List (Task σ)} (h : ∀ u ∈ ts, u.id < t.id) :
    Run.insertTask t ts = ts ++ [t] := by
  induction ts with
  | nil => rfl
  | cons u us ih =>
    have hu : ¬ t.id < u.id := Nat.not_lt.2 (Nat.le_of_lt (h u (.head _)))
    simp only [Run.insertTask, hu, if_false, List.cons_append, ih fun v hv => h v (.tail _ hv)]

theorem Task.find?_last {σ : Type} {t : Task σ} {ts : List (Task σ)} {i : Nat} (hi : t.id = i)
    (h : ∀ u ∈ ts, u.id ≠ i) : (ts ++ [t]).find? (·.id = i) = some t := by
  rw [List.find?_append, List.find?_eq_none.2 (fun u hu => by simpa using h u hu)]
  simp [hi]

theorem Task.filter_last {σ : Type} {t : Task σ} {ts : List (Task σ)} {i : Nat} (hi : t.id = i)
    (h : ∀ u ∈ ts, u.id ≠ i) : (ts ++ [t]).filter (·.id ≠ i) = ts := by
  rw [List.filter_append, List.filter_eq_self.2 (fun u hu => by simpa using h u hu)]
  simp [hi]

/-- Serving a queue of one task polls it, when it joins no task to the queue. -/
theorem Run.serve_single {σ α : Type} [Runtime σ] {r : Run σ α} {id : Nat}
    (hq : r.pool.queue = [id])
    (hnil : (Run.pollTask id { r with pool := { r.pool with queue := [] } }).pool.queue = []) :
    Run.serve Run.eventInterval r = Run.pollTask id { r with pool := { r.pool with queue := [] } } := by
  rw [show Run.eventInterval = 60 + 1 from rfl, Run.serve, hq]
  exact Run.serve_of_queue_nil hnil 60

/-! ## Sending a typing signal -/

/-- A typing signal, sent by a task of a typing session, goes out on the connection. -/
theorem segment_sendTyping {w : World} {tok c : Nat} {ts : List (Task World)} {me n sq si : Nat}
    {m : Act Json} (b : Bool) (hm : ∀ s : World, s.now = w.now → m.wakeable s = false)
    (hts : Task.Asleep (Unmoved tok w.sockets.conns w.now) ts) (hlive : w.isCancelled tok = false)
    (hon : (w.session 0).online = true) (hout : (w.session 0).outbound = some c) :
    Run.segment me (Session.sendTyping 0 b) (⟨⟨w, ts, [], n, sq⟩, m, false, false, si⟩ : Run World Json) =
      (.pure (), ⟨⟨w.signalTyping c b, ts, [], n, sq⟩, m, false, false, si⟩) := by
  simp only [Session.sendTyping, Session.sendFrame, Proc.update, Proc.bind_def, Proc.bind, Act.pure_def,
    Run.segment, hon, hout, Bool.not_true, Bool.false_eq_true, if_false,
    setState_unmoved tok w.sockets.conns w.now, hts, World.isCancelled_withSockets, hlive,
    SocketServer.send_conns, Bool.not_false, Bool.true_and, hm]
  rfl

/-! ## A keystroke -/

/-- The main process of a keystroke. -/
def keyMain : Act Json := Session.inputChanged 0 >>= fun _ => pure Json.null

/-- The atomic run of a keystroke: the start of typing is sent, the timer `n` is started and
made the session's, and the previous timer is stopped. -/
theorem segment_keystroke {w : World} {tok c idle : Nat} {bg armed : List (Task World)}
    {n sq si : Nat} {m : Act Json}
    (hbg : Task.Asleep (Unmoved tok w.sockets.conns w.now) bg)
    (harmed : Task.Asleep (Unmoved tok w.sockets.conns w.now) armed)
    (hlife : (w.session 0).lifetime = some tok) (hlive : w.isCancelled tok = false)
    (hon : (w.session 0).online = true) (hout : (w.session 0).outbound = some c)
    (hidle : w.config.typingIdleMs = idle)
    (hnone : (w.session 0).typingTimer = none → armed = [])
    (hkill : ∀ o, (w.session 0).typingTimer = some o →
      (bg ++ armed ++ [timerStarted n tok idle]).filter (·.id ≠ o) = bg ++ [timerStarted n tok idle] ∧
        o ≠ n) :
    Run.segment 0 keyMain (⟨⟨w, bg ++ armed, [], n, sq⟩, m, true, false, si⟩ : Run World Json) =
      (.pure Json.null,
        ⟨⟨w.keyed c n, bg ++ [timerStarted n tok idle], [n], n + 1, sq⟩, m, true, false, si⟩) := by
  simp only [keyMain, Session.inputChanged_eq, Session.token, Option.filter_some, Act.pure_def,
    Session.state, Session.sendTyping, Session.sendFrame, Proc.bind_def, Proc.read, Proc.update,
    Proc.fork, Proc.bind, Run.segment, setState_unmoved tok w.sockets.conns w.now, hlife, hlive, hon,
    hout, hidle, Bool.not_false, Bool.not_true, if_true, if_false, Bool.false_eq_true, Bool.false_and,
    World.session_withSockets, World.isCancelled_withSockets, SocketServer.send_conns,
    World.isCancelled_modifySession, World.sockets_modifySession, World.now_modifySession_eq,
    Task.asleep_append, Task.asleep_cons, Task.asleep_nil, hbg, harmed, Unmoved, and_self,
    Bool.true_eq_false, false_implies, List.nil_append]
  -- the previous timer, if any, is stopped last
  cases ht : (w.session 0).typingTimer with
  | none =>
    simp only [hnone ht, List.append_nil]
    rfl
  | some o =>
    obtain ⟨hts, hon⟩ := hkill o ht
    simp only [timerStarted] at hts
    simp only [Proc.stop, Proc.bind, Run.segment, hts, List.filter_cons, List.filter_nil, ne_eq,
      hon.symm, not_false_eq_true, decide_true, if_true]
    rfl

/-- The first run of a timer: with no timeout it sends the stop at once; otherwise it waits. -/
theorem segment_timerStarted {w : World} {tok c idle : Nat} {bg : List (Task World)}
    {me n sq si : Nat} {m : Act Json} (hm : m.isBlocked = false)
    (hbg : Task.Asleep (Unmoved tok w.sockets.conns w.now) bg)
    (hlive : w.isCancelled tok = false)
    (hon : (w.session 0).online = true) (hout : (w.session 0).outbound = some c) :
    Run.segment me (Session.typingTimer 0 tok idle) (⟨⟨w, bg, [], n, sq⟩, m, false, false, si⟩ :
      Run World Json) =
      if idle = 0 then (.pure (), ⟨⟨w.signalTyping c false, bg, [], n, sq⟩, m, false, false, si⟩)
      else (Session.timerWaiting 0 tok (w.now + idle), ⟨⟨w, bg, [], n, sq⟩, m, false, false, si⟩) := by
  simp only [Session.typingTimer, Proc.guarded, Proc.sleep, Proc.time, Proc.await, Proc.read,
    Proc.guardWith, Session.sendTyping, Session.sendFrame, Proc.update, Proc.bind_def, Proc.bind,
    Act.pure_def, Run.segment, setState_unmoved tok w.sockets.conns w.now, Runtime.cancelled,
    Runtime.now, show w.cancelled.contains tok = false from hlive, hbg, hlive,
    Bool.not_false, Bool.true_and, Proc.wakeable_of_not_blocked hm]
  by_cases h0 : idle = 0
  · subst h0
    simp only [Nat.add_zero, Nat.le_refl, if_true, Option.isSome_some, Run.segment, hon, hout,
      setState_unmoved tok w.sockets.conns w.now, hbg, hlive, Bool.not_false,
      Bool.not_true, Bool.false_eq_true, if_false, Bool.true_and, Proc.wakeable_of_not_blocked hm,
      World.isCancelled_withSockets, SocketServer.send_conns]
    rfl
  · have hlate : ¬ w.now + idle ≤ w.now := by omega
    simp only [hlate, if_false, h0, Session.timerWaiting, Proc.guardWith, Proc.await, Proc.bind_def,
      Proc.bind, Session.sendTyping, Session.sendFrame, Proc.update, Act.pure_def]
    rfl

/-- The poll of a started timer: it sends the stop, or parks after the background tasks. -/
theorem pollTask_timerStarted {w : World} {tok c idle : Nat} {bg : List (Task World)}
    {n sq si : Nat} {m : Act Json} (hm : m.isBlocked = false)
    (hbg : Task.Asleep (Unmoved tok w.sockets.conns w.now) bg) (hbelow : ∀ b ∈ bg, b.id < n)
    (hlive : w.isCancelled tok = false)
    (hon : (w.session 0).online = true) (hout : (w.session 0).outbound = some c) :
    Run.pollTask n (⟨⟨w, bg ++ [timerStarted n tok idle], [], n + 1, sq⟩, m, false, false, si⟩ :
      Run World Json) =
      if idle = 0 then ⟨⟨w.signalTyping c false, bg, [], n + 1, sq⟩, m, false, false, si⟩
      else ⟨⟨w, bg ++ [timerTask n tok (w.now + idle) sq], [], n + 1, sq + 1⟩, m, false, false, si⟩ := by
  have hne : ∀ b ∈ bg, b.id ≠ n := fun b hb => Nat.ne_of_lt (hbelow b hb)
  simp only [Run.pollTask]
  rw [Task.find?_last (i := n) rfl hne, Task.filter_last (i := n) rfl hne]
  have hres : (Session.typingTimer 0 tok idle).resume w = some (Session.typingTimer 0 tok idle, w) :=
    Proc.resume_of_not_blocked rfl w
  simp only [timerStarted, hres]
  rw [setState_unmoved tok w.sockets.conns w.now hbg hlive rfl rfl
      (by simp [Proc.wakeable_of_not_blocked hm]),
    segment_timerStarted hm hbg hlive hon hout]
  by_cases h0 : idle = 0
  · simp [h0, Proc.isBlocked]
  · have hlast : ∀ b ∈ bg, b.id < (timerTask n tok (w.now + idle) sq).id := hbelow
    simp only [h0, if_false, Session.timerWaiting_isBlocked, if_true, Run.stamp]
    rw [show ({ id := n, proc := Session.timerWaiting 0 tok (w.now + idle), queued := false,
                since := sq } : Task World) = timerTask n tok (w.now + idle) sq from rfl,
      Run.insertTask_last hlast]
    refine Run.wakeScan_calm (Run.Calm.of_asleep (P := Unmoved tok w.sockets.conns w.now) ?_
      ⟨hlive, rfl, rfl⟩ (by simp [Proc.wakeable_of_not_blocked hm]))
    exact Task.asleep_append.2 ⟨hbg, timerTask_asleep (by omega)⟩

/-- **A keystroke under the scheduler.** In a pool whose tasks sleep through it, a keystroke
returns in its first poll; the timer it starts runs in the same round, sends the stop at once
when the timeout is zero, and otherwise parks after the background tasks until the stop falls
due. -/
theorem run_keystroke {w : World} {tok c idle : Nat} {bg armed : List (Task World)} {n sq : Nat}
    (hbg : Task.Asleep (Unmoved tok w.sockets.conns w.now) bg) (hbelow : ∀ b ∈ bg, b.id < n)
    (harmed : Task.Asleep (Unmoved tok w.sockets.conns w.now) armed)
    (hlife : (w.session 0).lifetime = some tok) (hlive : w.isCancelled tok = false)
    (hon : (w.session 0).online = true) (hout : (w.session 0).outbound = some c)
    (hidle : w.config.typingIdleMs = idle)
    (hnone : (w.session 0).typingTimer = none → armed = [])
    (hkill : ∀ o, (w.session 0).typingTimer = some o →
      (bg ++ armed ++ [timerStarted n tok idle]).filter (·.id ≠ o) = bg ++ [timerStarted n tok idle] ∧
        o ≠ n) :
    Pool.run ⟨w, bg ++ armed, [], n, sq⟩ keyMain = (some .null,
      if idle = 0 then ⟨(w.keyed c n).signalTyping c false, bg, [], n + 1, sq + 1⟩
      else ⟨w.keyed c n, bg ++ [timerTask n tok (w.now + idle) (sq + 1)], [], n + 1, sq + 2⟩) := by
  have hsession := World.session_keyed hlife c n
  have hon' : ((w.keyed c n).session 0).online = true := by rw [hsession]; exact hon
  have hout' : ((w.keyed c n).session 0).outbound = some c := by rw [hsession]; exact hout
  obtain ⟨k, hk⟩ : ∃ k, Pool.roundFuel = k + 1 := ⟨_, rfl⟩
  simp only [Pool.run, hk]
  -- the first poll: the keystroke runs to its end
  rw [Run.drive, if_pos rfl, Run.pollMain_of_resume (Proc.resume_of_not_blocked rfl w)]
  simp only
  rw [setState_unmoved tok w.sockets.conns w.now (Task.asleep_append.2 ⟨hbg, harmed⟩) hlive rfl rfl rfl,
    segment_keystroke hbg harmed hlife hlive hon hout hidle hnone hkill]
  simp only [Run.stamp]
  have hbg' : Task.Asleep (Unmoved tok (w.keyed c n).sockets.conns (w.keyed c n).now) bg := by
    rwa [World.conns_keyed, World.now_keyed]
  have hlive' : (w.keyed c n).isCancelled tok = false := hlive
  have hcalm : Run.Calm (⟨⟨w.keyed c n, bg ++ [timerStarted n tok idle], [n], n + 1, sq + 1⟩,
      .pure .null, false, false, sq⟩ : Run World Json) :=
    Run.Calm.of_asleep (P := Unmoved tok (w.keyed c n).sockets.conns (w.keyed c n).now)
      (Task.asleep_append.2 ⟨hbg', by simp [timerStarted]⟩) ⟨hlive', rfl, rfl⟩ rfl
  -- then the queue: the new timer
  have hpoll : Run.pollTask n (⟨⟨w.keyed c n, bg ++ [timerStarted n tok idle], [], n + 1, sq + 1⟩,
      .pure Json.null, false, false, sq⟩ : Run World Json) = _ :=
    pollTask_timerStarted rfl hbg' hbelow hlive' hon' hout'
  have hserve := Run.serve_single (r := ⟨⟨w.keyed c n, bg ++ [timerStarted n tok idle], [n], n + 1,
      sq + 1⟩, .pure Json.null, false, false, sq⟩) rfl (by rw [hpoll]; split <;> rfl)
  simp only [Run.wakeScan_calm hcalm, hserve, hpoll]
  by_cases h0 : idle = 0
  · simp [h0, Proc.isBlocked, Proc.result?]
  · simp [h0, Proc.isBlocked, Proc.result?, World.now_keyed]

/-! ## Time passing -/

/-- The main process of time passing. -/
def waitMain (ms : Nat) : Act Json := Proc.sleep ms >>= fun _ => pure Json.null

/-- The main process waiting for the clock to reach `D`. -/
def waitingMain (D : Nat) : Act Json :=
  Proc.await { ready := fun s => if D ≤ Runtime.now s then some ((), s) else none
               deadline := some D } >>= fun _ => pure Json.null

theorem waitingMain_isBlocked (D : Nat) : (waitingMain D).isBlocked = true := rfl

/-- A wait of no time only reads the clock. -/
theorem waitMain_zero_readOnly (w : World) : (waitMain 0).ReadOnly w .null := by
  have hsleep : (Proc.sleep 0 : Act Unit).ReadOnly w () :=
    Proc.ReadOnly.read_bind (.ready (by simp [Runtime.now]) .pure)
  exact hsleep.bind .pure

/-- The first poll of a wait: it reads the clock and waits for its deadline. -/
theorem pollMain_waitStart {w : World} {tok : Nat} {ts : List (Task World)} {g n sq si : Nat}
    (hts : Task.Asleep (Unmoved tok w.sockets.conns w.now) ts) (hlive : w.isCancelled tok = false)
    (hg : 0 < g) :
    Run.pollMain (⟨⟨w, ts, [], n, sq⟩, waitMain g, false, true, si⟩ : Run World Json) =
      ⟨⟨w, ts, [], n, sq + 1⟩, waitingMain (w.now + g), false, false, sq⟩ := by
  have hlate : ¬ w.now + g ≤ w.now := by omega
  rw [Run.pollMain_of_resume (Proc.resume_of_not_blocked rfl w)]
  simp only [waitMain, Proc.sleep, Proc.time, Proc.read, Proc.await, Proc.bind_def, Proc.bind,
    Run.segment, setState_unmoved tok w.sockets.conns w.now, hts, hlive,
    Bool.not_true, Bool.false_and, Runtime.now, hlate, if_false, Run.stamp]
  rw [Run.wakeScan_calm (Run.Calm.of_asleep (P := Unmoved tok w.sockets.conns w.now) hts
    ⟨hlive, rfl, rfl⟩ (by simp [Proc.wakeable, hlate]))]
  rfl

/-- The poll that ends a wait whose deadline the clock has reached. -/
theorem pollMain_waitEnd {w : World} {tok : Nat} {ts : List (Task World)} {q : List Nat}
    {D n sq si : Nat} (hts : Task.Asleep (Unmoved tok w.sockets.conns w.now) ts)
    (hlive : w.isCancelled tok = false) (hD : D ≤ w.now) :
    Run.pollMain (⟨⟨w, ts, q, n, sq⟩, waitingMain D, false, true, si⟩ : Run World Json) =
      ⟨⟨w, ts, q, n, sq + 1⟩, .pure .null, false, false, sq⟩ := by
  have hres : (waitingMain D).resume w = some (.pure .null, w) := by
    simp [waitingMain, Proc.await, Proc.bind_def, Proc.bind, Proc.resume, Runtime.now, hD, Act.pure_def]
  rw [Run.pollMain_of_resume hres]
  simp only [setState_unmoved tok w.sockets.conns w.now, hts, hlive, Bool.not_true,
    Bool.false_and, Run.segment, Run.stamp]
  exact Run.wakeScan_calm (Run.Calm.of_asleep (P := Unmoved tok w.sockets.conns w.now) hts
    ⟨hlive, rfl, rfl⟩ rfl)

/-- The poll of a timer whose stop is due: it sends the stop and ends. -/
theorem pollTask_timerDue {w : World} {tok c o d σ : Nat} {bg : List (Task World)} {n sq si : Nat}
    {m : Act Json} (hm : ∀ s : World, s.now = w.now → m.wakeable s = false)
    (hbg : Task.Asleep (Unmoved tok w.sockets.conns w.now) bg) (hne : ∀ b ∈ bg, b.id ≠ o)
    (hlive : w.isCancelled tok = false) (hd : d ≤ w.now)
    (hon : (w.session 0).online = true) (hout : (w.session 0).outbound = some c) :
    Run.pollTask o (⟨⟨w, bg ++ [{ timerTask o tok d σ with queued := true }], [], n, sq⟩, m, false,
      false, si⟩ : Run World Json) = ⟨⟨w.signalTyping c false, bg, [], n, sq⟩, m, false, false, si⟩ := by
  simp only [Run.pollTask]
  rw [Task.find?_last (i := o) rfl hne, Task.filter_last (i := o) rfl hne]
  have hcalm : Run.setState (⟨⟨w, bg, [], n, sq⟩, m, false, false, si⟩ : Run World Json) w =
      ⟨⟨w, bg, [], n, sq⟩, m, false, false, si⟩ :=
    setState_unmoved tok w.sockets.conns w.now hbg hlive rfl rfl (by simp [hm w rfl])
  simp only [timerTask, Session.timerWaiting_resume hlive hd, hcalm,
    segment_sendTyping false hm hbg hlive hon hout, Proc.isBlocked, Bool.false_eq_true, if_false]

theorem nextDeadline_waiting {w : World} {bg armed : List (Task World)} {D n sq si : Nat}
    (hbg : Timeless bg) :
    Run.nextDeadline (⟨⟨w, bg ++ armed, [], n, sq⟩, waitingMain D, false, false, si⟩ : Run World Json) =
      (D :: (armed.filter (!·.queued)).filterMap (·.proc.deadline?)).foldl
        (fun acc d => some (match acc with | some a => min a d | none => d)) none := by
  simp only [Run.nextDeadline, List.filter_append, List.filterMap_append, hbg.deadlines, List.nil_append]
  rfl

/-- Moving time to a wait's deadline, when no task falls due by then, wakes the wait only. -/
theorem advanceTo_quiet {w : World} {ts : List (Task World)} {D n sq si : Nat}
    (hts : ts.filter (fun k => !k.queued && k.proc.deadline?.any (· ≤ D)) = []) :
    Run.advanceTo D (⟨⟨w, ts, [], n, sq⟩, waitingMain D, false, false, si⟩ : Run World Json) =
      ⟨⟨{ w with now := D }, ts, [], n, sq⟩, waitingMain D, false, true, si⟩ := by
  simp only [Run.advanceTo, hts, List.mergeSort_nil, List.map_nil, List.contains_nil,
    Bool.false_eq_true, if_false, List.map_id', List.append_nil]
  simp [waitingMain, Proc.await, Proc.bind_def, Proc.bind, Proc.deadline?]
  rfl

/-- Moving time to `t`, when the timer falls due by then, queues the timer. -/
theorem advanceTo_fire {w : World} {bg : List (Task World)} {o tok d σ t D n sq si : Nat}
    (hbg : Timeless bg) (hne : ∀ b ∈ bg, b.id ≠ o) (hd : d ≤ t) :
    Run.advanceTo t (⟨⟨w, bg ++ [timerTask o tok d σ], [], n, sq⟩, waitingMain D, false, false, si⟩ :
      Run World Json) =
      ⟨⟨{ w with now := t }, bg ++ [{ timerTask o tok d σ with queued := true }], [o], n, sq⟩,
        waitingMain D, false, decide (D ≤ t), si⟩ := by
  have hdue : (bg ++ [timerTask o tok d σ]).filter
      (fun k => !k.queued && k.proc.deadline?.any (· ≤ t)) = [timerTask o tok d σ] := by
    rw [List.filter_append, hbg.due]
    simp [timerTask, Session.timerWaiting_deadline, hd]
  have hbgKeep : bg.map (fun k => if k.id = o then { k with queued := true } else k) = bg :=
    (List.map_congr_left fun k hk => by simp [hne k hk]).trans (List.map_id bg)
  simp only [Run.advanceTo, hdue, List.mergeSort_singleton, List.map_cons, List.map_nil,
    List.map_append, List.nil_append]
  simp [timerTask, waitingMain, Proc.await, Proc.bind_def, Proc.bind, Proc.deadline?, hbgKeep]
  rfl

/-- The end of a wait that no task interrupts: time moves to its deadline, and it ends. -/
theorem drive_waitQuiet {w : World} {tok : Nat} {ts : List (Task World)} {D n sq si : Nat} (k : Nat)
    (hnext : Run.nextDeadline (⟨⟨w, ts, [], n, sq⟩, waitingMain D, false, false, si⟩ :
      Run World Json) = some D)
    (hquiet : ts.filter (fun k => !k.queued && k.proc.deadline?.any (· ≤ D)) = [])
    (hts : Task.Asleep (Unmoved tok w.sockets.conns D) ts) (hlive : w.isCancelled tok = false)
    (hD : w.now ≤ D) :
    Run.drive (k + 2) (⟨⟨w, ts, [], n, sq⟩, waitingMain D, false, false, si⟩ : Run World Json) =
      ⟨⟨{ w with now := D }, ts, [], n, sq + 1⟩, .pure .null, false, false, sq⟩ := by
  have hmax : max D (Runtime.now w) = D := Nat.max_eq_left hD
  have hr₀ := Run.round_idle
    (r := (⟨⟨w, ts, [], n, sq⟩, waitingMain D, false, false, si⟩ : Run World Json)) rfl rfl
  have hpoll : Run.pollMain (⟨⟨{ w with now := D }, ts, [], n, sq⟩, waitingMain D, false, true, si⟩ :
      Run World Json) = ⟨⟨{ w with now := D }, ts, [], n, sq + 1⟩, .pure .null, false, false, sq⟩ :=
    pollMain_waitEnd hts hlive (Nat.le_refl _)
  have hr₁ := Run.round_woken (r := (⟨⟨{ w with now := D }, ts, [], n, sq⟩, waitingMain D, false, true,
    si⟩ : Run World Json)) rfl (by rw [hpoll])
  rw [Run.drive_moves (k + 1) (by rw [hr₀]) (by rw [hr₀]) (by rw [hr₀]; rfl) (by rw [hr₀]; exact hnext),
    hr₀]
  rw [hmax, advanceTo_quiet hquiet, Run.drive_ends k (by rw [hr₁, hpoll]) (by rw [hr₁, hpoll])
    (by rw [hr₁, hpoll]; rfl), hr₁, hpoll]

/-- A wait that outlasts the typing timer: the timer fires when time reaches its deadline, and
the wait goes on from there. -/
theorem drive_waitFire {w : World} {tok c o d σ D : Nat} {bg : List (Task World)} {n sq si : Nat}
    (k : Nat) (hbg : Timeless bg) (hasleep : Task.Asleep (Unmoved tok w.sockets.conns d) bg)
    (hne : ∀ b ∈ bg, b.id ≠ o) (hlive : w.isCancelled tok = false)
    (hon : (w.session 0).online = true) (hout : (w.session 0).outbound = some c)
    (hnow : w.now ≤ d) (hdD : d < D) :
    Run.drive (k + 2) (⟨⟨w, bg ++ [timerTask o tok d σ], [], n, sq⟩, waitingMain D, false, false, si⟩ :
      Run World Json) =
      Run.drive (k + 1) ⟨⟨{ w with now := d }.signalTyping c false, bg, [], n, sq⟩, waitingMain D, false,
        false, si⟩ := by
  have hr₀ := Run.round_idle (r := (⟨⟨w, bg ++ [timerTask o tok d σ], [], n, sq⟩, waitingMain D, false,
    false, si⟩ : Run World Json)) rfl rfl
  have hnext : Run.nextDeadline (⟨⟨w, bg ++ [timerTask o tok d σ], [], n, sq⟩, waitingMain D, false,
      false, si⟩ : Run World Json) = some d := by
    rw [nextDeadline_waiting hbg]
    simp [timerTask, Session.timerWaiting_deadline, Nat.min_eq_right (Nat.le_of_lt hdD)]
  have hmax : max d (Runtime.now w) = d := Nat.max_eq_left hnow
  have hwait : ∀ s : World, s.now = d → (waitingMain D).wakeable s = false := by
    intro s hs
    simp [waitingMain, Proc.await, Proc.bind_def, Proc.bind, Proc.wakeable, Runtime.now, hs,
      Nat.not_le.2 hdD]
  have hfire : Run.pollTask o (⟨⟨{ w with now := d }, bg ++ [{ timerTask o tok d σ with queued := true }],
      [], n, sq⟩, waitingMain D, false, false, si⟩ : Run World Json) =
      ⟨⟨{ w with now := d }.signalTyping c false, bg, [], n, sq⟩, waitingMain D, false, false, si⟩ :=
    pollTask_timerDue hwait hasleep hne hlive (Nat.le_refl d) hon hout
  have hr₁ := Run.round_idle (r := (⟨⟨{ w with now := d }.signalTyping c false, bg, [], n, sq⟩,
    waitingMain D, false, false, si⟩ : Run World Json)) rfl rfl
  rw [Run.drive_moves (k + 1) (by rw [hr₀]) (by rw [hr₀]) (by rw [hr₀]; rfl) (by rw [hr₀]; exact hnext),
    hr₀, hmax, advanceTo_fire hbg hne (Nat.le_refl d)]
  -- the round at the timer's deadline fires it; from there on, the wait goes on alone
  apply Run.drive_of_round
  rw [hr₁]
  simp only [decide_eq_false (Nat.not_le.2 hdD)]
  rw [Run.round, if_neg Bool.false_ne_true, Run.serve_single rfl (by rw [hfire])]
  exact hfire

/-- A wait that ends when the typing timer falls due: the wait ends first, then the timer
fires. -/
theorem drive_waitTie {w : World} {tok c o σ D : Nat} {bg : List (Task World)} {n sq si : Nat}
    (k : Nat) (hbg : Timeless bg) (hasleep : Task.Asleep (Unmoved tok w.sockets.conns D) bg)
    (hne : ∀ b ∈ bg, b.id ≠ o) (hlive : w.isCancelled tok = false)
    (hon : (w.session 0).online = true) (hout : (w.session 0).outbound = some c) (hnow : w.now ≤ D) :
    Run.drive (k + 2) (⟨⟨w, bg ++ [timerTask o tok D σ], [], n, sq⟩, waitingMain D, false, false, si⟩ :
      Run World Json) =
      ⟨⟨{ w with now := D }.signalTyping c false, bg, [], n, sq + 1⟩, .pure .null, false, false, sq⟩ := by
  have hr₀ := Run.round_idle (r := (⟨⟨w, bg ++ [timerTask o tok D σ], [], n, sq⟩, waitingMain D, false,
    false, si⟩ : Run World Json)) rfl rfl
  have hnext : Run.nextDeadline (⟨⟨w, bg ++ [timerTask o tok D σ], [], n, sq⟩, waitingMain D, false,
      false, si⟩ : Run World Json) = some D := by
    rw [nextDeadline_waiting hbg]
    simp [timerTask, Session.timerWaiting_deadline]
  have hmax : max D (Runtime.now w) = D := Nat.max_eq_left hnow
  have hpoll : Run.pollMain (⟨⟨{ w with now := D }, bg ++ [{ timerTask o tok D σ with queued := true }],
      [o], n, sq⟩, waitingMain D, false, true, si⟩ : Run World Json) =
      ⟨⟨{ w with now := D }, bg ++ [{ timerTask o tok D σ with queued := true }], [o], n, sq + 1⟩,
        .pure .null, false, false, sq⟩ :=
    pollMain_waitEnd (Task.asleep_append.2 ⟨hasleep, by simp⟩) hlive (Nat.le_refl _)
  have hfire : Run.pollTask o (⟨⟨{ w with now := D }, bg ++ [{ timerTask o tok D σ with queued := true }],
      [], n, sq + 1⟩, .pure .null, false, false, sq⟩ : Run World Json) =
      ⟨⟨{ w with now := D }.signalTyping c false, bg, [], n, sq + 1⟩, .pure .null, false, false, sq⟩ :=
    pollTask_timerDue (fun _ _ => rfl) hasleep hne hlive (Nat.le_refl D) hon hout
  have hr₁ : Run.round (⟨⟨{ w with now := D }, bg ++ [{ timerTask o tok D σ with queued := true }], [o],
      n, sq⟩, waitingMain D, false, true, si⟩ : Run World Json) =
      ⟨⟨{ w with now := D }.signalTyping c false, bg, [], n, sq + 1⟩, .pure .null, false, false, sq⟩ := by
    rw [Run.round, if_pos rfl, hpoll, Run.serve_single rfl (by rw [hfire])]
    exact hfire
  rw [Run.drive_moves (k + 1) (by rw [hr₀]) (by rw [hr₀]) (by rw [hr₀]; rfl) (by rw [hr₀]; exact hnext),
    hr₀, hmax, advanceTo_fire hbg hne (Nat.le_refl D), decide_eq_true (Nat.le_refl D),
    Run.drive_ends k (by rw [hr₁]) (by rw [hr₁]) (by rw [hr₁]; rfl), hr₁]

/-! ## Waits under the scheduler -/

/-- The earliest of deadlines that start with the earliest. -/
theorem deadlineFold_head {D : Nat} {l : List Nat} (h : ∀ x ∈ l, D ≤ x) :
    (D :: l).foldl (fun acc d => some (match acc with | some a => min a d | none => d)) none =
      some D := by
  simp only [List.foldl_cons]
  induction l with
  | nil => rfl
  | cons x l ih =>
    simp only [List.foldl_cons, Nat.min_eq_left (h x (.head _))]
    exact ih fun y hy => h y (.tail _ hy)

/-- Parked tasks whose deadlines all lie after `D`. -/
def DueAfter (D : Nat) (ts : List (Task World)) : Prop :=
  ∀ t ∈ ts, t.queued = false ∧ ∀ e, t.proc.deadline? = some e → D < e

theorem dueAfter_nil (D : Nat) : DueAfter D [] := fun _ h => nomatch h

theorem dueAfter_timerTask {o tok e σ D : Nat} (h : D < e) : DueAfter D [timerTask o tok e σ] := by
  intro t ht
  simp only [List.mem_singleton] at ht
  subst ht
  exact ⟨rfl, fun e' he' => by simp [timerTask, Session.timerWaiting_deadline] at he'; omega⟩

/-- Waiting when no task falls due by the end of the wait: the wait's own deadline comes first. -/
theorem nextDeadline_dueAfter {w : World} {bg armed : List (Task World)} {D n sq si : Nat}
    (hbg : Timeless bg) (harmed : DueAfter D armed) :
    Run.nextDeadline (⟨⟨w, bg ++ armed, [], n, sq⟩, waitingMain D, false, false, si⟩ : Run World Json) =
      some D := by
  rw [nextDeadline_waiting hbg]
  refine deadlineFold_head fun x hx => ?_
  obtain ⟨t, ht, hx⟩ := List.mem_filterMap.1 hx
  exact Nat.le_of_lt ((harmed t (List.mem_filter.1 ht).1).2 x hx)

theorem DueAfter.quiet {bg armed : List (Task World)} {D : Nat} (hbg : Timeless bg)
    (harmed : DueAfter D armed) :
    (bg ++ armed).filter (fun k => !k.queued && k.proc.deadline?.any (· ≤ D)) = [] := by
  rw [List.filter_append, hbg.due, List.nil_append, List.filter_eq_nil_iff]
  intro t ht
  obtain ⟨hq, hd⟩ := harmed t ht
  cases he : t.proc.deadline? with
  | none => simp
  | some e => simp [Nat.not_le.2 (hd e he)]

/-- A wait that does not end at once: its first poll, then the rounds that follow. -/
theorem run_waitMain {w : World} {tok : Nat} {ts : List (Task World)} {n sq g : Nat}
    (hts : Task.Asleep (Unmoved tok w.sockets.conns w.now) ts) (hlive : w.isCancelled tok = false)
    (hg : 0 < g) (k : Nat) (hk : Pool.roundFuel = k + 1) :
    Pool.run ⟨w, ts, [], n, sq⟩ (waitMain g) =
      ((Run.drive (k + 1) (⟨⟨w, ts, [], n, sq + 1⟩, waitingMain (w.now + g), false, false, sq⟩ :
        Run World Json)).main.result?,
        (Run.drive (k + 1) (⟨⟨w, ts, [], n, sq + 1⟩, waitingMain (w.now + g), false, false, sq⟩ :
          Run World Json)).pool) := by
  have hstart : Run.pollMain (⟨⟨w, ts, [], n, sq⟩, waitMain g, false, true, 0⟩ : Run World Json) =
      ⟨⟨w, ts, [], n, sq + 1⟩, waitingMain (w.now + g), false, false, sq⟩ :=
    pollMain_waitStart hts hlive hg
  have hround : Run.round (⟨⟨w, ts, [], n, sq⟩, waitMain g, false, true, 0⟩ : Run World Json) =
      Run.round (⟨⟨w, ts, [], n, sq + 1⟩, waitingMain (w.now + g), false, false, sq⟩ : Run World Json) := by
    rw [Run.round_woken rfl (by rw [hstart]), hstart, Run.round_idle rfl rfl]
  simp only [Pool.run, hk]
  rw [Run.drive_of_round k hround]

/-- **A wait that nothing interrupts.** When no task falls due before the wait ends, time moves
to its end and nothing else changes. -/
theorem run_waitQuiet {w : World} {tok : Nat} {bg armed : List (Task World)} {n sq g : Nat}
    (hbg : Timeless bg) (harmed : DueAfter (w.now + g) armed)
    (hstart : Task.Asleep (Unmoved tok w.sockets.conns w.now) (bg ++ armed))
    (hend : Task.Asleep (Unmoved tok w.sockets.conns (w.now + g)) (bg ++ armed))
    (hlive : w.isCancelled tok = false) (hg : 0 < g) :
    Pool.run ⟨w, bg ++ armed, [], n, sq⟩ (waitMain g) =
      (some .null, ⟨{ w with now := w.now + g }, bg ++ armed, [], n, sq + 2⟩) := by
  obtain ⟨k, hk⟩ : ∃ k, Pool.roundFuel = k + 2 := ⟨_, rfl⟩
  rw [run_waitMain hstart hlive hg (k + 1) hk, drive_waitQuiet k (nextDeadline_dueAfter hbg harmed)
    (harmed.quiet hbg) hend hlive (Nat.le_add_right _ _)]
  rfl

/-- **A wait through the typing timer's deadline.** The timer fires on the way, or just after
the wait ends when it falls due then; either way the stop goes out once and the timer is gone. -/
theorem run_waitFires {w : World} {tok c o e σ : Nat} {bg : List (Task World)} {n sq g : Nat}
    (hbg : Timeless bg) (hasleep : ∀ t, Task.Asleep (Unmoved tok w.sockets.conns t) bg)
    (hne : ∀ b ∈ bg, b.id ≠ o) (hlive : w.isCancelled tok = false)
    (hon : (w.session 0).online = true) (hout : (w.session 0).outbound = some c)
    (he : w.now < e) (heD : e ≤ w.now + g) :
    Pool.run ⟨w, bg ++ [timerTask o tok e σ], [], n, sq⟩ (waitMain g) =
      (some .null, ⟨{ w with now := w.now + g }.signalTyping c false, bg, [], n, sq + 2⟩) := by
  have hg : 0 < g := by omega
  have hstart : Task.Asleep (Unmoved tok w.sockets.conns w.now) (bg ++ [timerTask o tok e σ]) :=
    Task.asleep_append.2 ⟨hasleep _, timerTask_asleep he⟩
  obtain ⟨k, hk⟩ : ∃ k, Pool.roundFuel = k + 3 := ⟨_, rfl⟩
  rw [run_waitMain hstart hlive hg (k + 2) hk]
  rcases Nat.lt_or_eq_of_le heD with hlt | heq
  · -- the timer fires at its deadline; the rest of the wait is quiet
    have hlive' : ({ w with now := e }.signalTyping c false).isCancelled tok = false := hlive
    have hend : Task.Asleep (Unmoved tok ({ w with now := e }.signalTyping c false).sockets.conns
        (w.now + g)) (bg ++ []) := by
      rw [World.conns_signalTyping, List.append_nil]
      exact hasleep _
    have hquiet : Run.drive (k + 2) (⟨⟨{ w with now := e }.signalTyping c false, bg ++ [], [], n,
        sq + 1⟩, waitingMain (w.now + g), false, false, sq⟩ : Run World Json) =
        ⟨⟨{ { w with now := e }.signalTyping c false with now := w.now + g }, bg ++ [], [], n,
          sq + 1 + 1⟩, .pure .null, false, false, sq + 1⟩ :=
      drive_waitQuiet k (nextDeadline_dueAfter hbg (dueAfter_nil _)) ((dueAfter_nil _).quiet hbg)
        hend hlive' (Nat.le_of_lt hlt)
    rw [List.append_nil] at hquiet
    rw [drive_waitFire (k + 1) hbg (hasleep e) hne hlive hon hout (Nat.le_of_lt he) hlt, hquiet]
    rfl
  · -- the wait ends when the timer falls due: the wait first, then the timer
    subst heq
    rw [drive_waitTie (k + 1) hbg (hasleep _) hne hlive hon hout (Nat.le_of_lt he)]
    rfl

/-- A wait of no time changes nothing but the sequence number. -/
theorem run_waitZero {pool : Pool World} (hq : pool.queue = [])
    (ht : ∀ t ∈ pool.tasks, t.queued = false ∧ t.proc.wakeable pool.state = false) :
    pool.run (waitMain 0) = (some .null, { pool with nextSeq := pool.nextSeq + 1 }) :=
  Pool.run_readOnly hq ht rfl (waitMain_zero_readOnly _)

end MarketChat
