import MarketChat.Proofs.TypingDebounce
/-!
# The typing signal ends with the lifetime

A lifetime ends by `Session.teardown`, run by a close and by the next open's
`Session.begin`. Under the scheduler its first step cancels the lifetime's token, which wakes
every task of the session at once; it then stops the typing timer and lets go of the
connection, whose close is the only thing it sends (`segment_teardown`, with what it leaves
summed up by `Torn`). The background tasks, all guarded by the token, wind down in the rounds
that follow (`Fades`), so no task of the lifetime is left (`Typing.run_close`,
`Typing.run_begin`). After a close the pool stays empty and the session without a lifetime
(`Silenced`), so no keystroke or wait sends anything again (`Silenced.run`).

The last section puts the two modules together: the debounce of a session between typing
commands, its end at a close or at the next open, and keystrokes out of a live, online
lifetime (`Scene.typing_frames_debounced`).

Main statements: `Typing.run_close`, `Typing.run_begin`, `Silenced.run`,
`Scene.typing_frames_debounced`.
-/

namespace MarketChat

/-! ## Ending the lifetime -/

/-- A parked typing timer winds down once its lifetime ends: it sends nothing. -/
theorem timerTask_fades {o tok e σ : Nat} : Fades tok [timerTask o tok e σ] := by
  intro t ht s hc
  simp only [List.mem_singleton] at ht
  subst ht
  have hin : tok ∈ s.cancelled := by simpa [World.isCancelled] using hc
  refine ⟨by simp [timerTask, hc], _, ?_, .pure⟩
  simp [timerTask, Session.timerWaiting, Proc.guardWith, Proc.await, Proc.bind_def, Proc.bind,
    Proc.resume, Runtime.cancelled, hin, Act.pure_def]

/-- What ending the lifetime `tok` on connection `c` leaves: the socket's close the only thing
sent, the token cancelled, and no lifetime. -/
structure Torn (c tok : Nat) (w wt : World) : Prop where
  sent : wt.sockets.sent = w.sockets.sent ++ [.closed c]
  cancelled : wt.isCancelled tok = true
  lifetime : (wt.session 0).lifetime = none

/-- Letting go of a connection the client holds logs its close. -/
theorem SocketServer.release_sent {s : SocketServer} {c : Nat} {k : Connection}
    (hk : s.conns[c]? = some k) (hh : k.clientHolds = true) :
    (s.release c).sent = s.sent ++ [.closed c] := by
  simp [SocketServer.release, hk, hh]

@[simp] theorem World.session_cancel (w : World) (t i : Nat) : (w.cancel t).session i = w.session i := by
  rw [World.cancel_eq]
  rfl

@[simp] theorem World.sockets_cancel (w : World) (t : Nat) : (w.cancel t).sockets = w.sockets := by
  rw [World.cancel_eq]

@[simp] theorem World.sessions_cancel (w : World) (t : Nat) : (w.cancel t).sessions = w.sessions := by
  rw [World.cancel_eq]

/-- The last step of ending the lifetime, from a world where the token is cancelled and the
lifetime dropped: letting go of the session's connection. -/
theorem Torn.releaseSocket {c tok : Nat} {w W : World} {k : Connection} (hsock : W.sockets = w.sockets)
    (hk : w.sockets.conns[c]? = some k) (hh : k.clientHolds = true) (hc : W.isCancelled tok = true)
    (hl : (W.session 0).lifetime = none) (ho : (W.session 0).outbound = some c)
    (hne : W.sessions ≠ []) : Torn c tok w (World.releaseSocket W) where
  sent := by
    rw [World.releaseSocket_eq]
    show (Session.releaseIn W (W.session 0).outbound).sockets.sent = _
    rw [ho]
    show (W.sockets.release c).sent = _
    rw [hsock]
    exact SocketServer.release_sent hk hh
  cancelled := by
    rw [World.releaseSocket_eq]
    exact hc
  lifetime := by
    rw [World.releaseSocket_session hne]
    exact hl

/-- Steps that change neither the sockets, the cancelled tokens nor the lifetime keep what
ending the lifetime left. -/
theorem Torn.keep {c tok : Nat} {w wt wt' : World} (h : Torn c tok w wt)
    (hsock : wt'.sockets = wt.sockets) (hc : wt'.cancelled = wt.cancelled)
    (hl : (wt'.session 0).lifetime = (wt.session 0).lifetime) : Torn c tok w wt' :=
  ⟨hsock ▸ h.sent, by simpa [World.isCancelled, hc] using h.cancelled, hl.trans h.lifetime⟩

/-- The step that cancels the lifetime wakes every task of the pool. -/
theorem setState_cancelled {α : Type} {w s : World} {ts : List (Task World)} {q : List Nat}
    {n sq si : Nat} {m : Act α} (hts : ∀ t ∈ ts, t.queued = false ∧ t.proc.wakeable s = true) :
    (⟨⟨w, ts, q, n, sq⟩, m, true, false, si⟩ : Run World α).setState s =
      ⟨⟨s, ts.map Task.wake, q ++ ts.map (·.id), n, sq⟩, m, true, false, si⟩ :=
  Run.wakeScan_woken hts rfl

/-- Once every task is queued, the steps of the running main process only set the state. -/
theorem setState_allQueued {α : Type} {w s : World} {ts : List (Task World)} {q : List Nat}
    {n sq si : Nat} {m : Act α} (hts : ∀ t ∈ ts, t.queued = true) :
    (⟨⟨w, ts, q, n, sq⟩, m, true, false, si⟩ : Run World α).setState s =
      ⟨⟨s, ts, q, n, sq⟩, m, true, false, si⟩ :=
  Run.setState_queued hts rfl

/-- The main process of a close. -/
def closeMain : Act Json := Session.close 0 >>= fun _ => pure Json.null

theorem sessionAct_close (sc : Scene) : (sc.sessionAct .close).1 = closeMain := rfl

namespace Typing

variable {c tok idle : Nat} {bg : List (Task World)}

/-- Every task of the pool winds down once the lifetime ends. -/
theorem tasks_fade {pool : Pool World} {d : Debounce} (h : Typing c tok idle bg pool d) :
    Fades tok pool.tasks := by
  rcases h.tasks_cases with hts | ⟨o, e, σ, -, -, hts⟩
  · rw [hts]
    exact h.fades
  · rw [hts]
    intro t ht
    rcases List.mem_append.1 ht with ht | ht
    · exact h.fades t ht
    · exact timerTask_fades t ht

/-- The parked tasks sleep through every step of the running session that keeps the lifetime,
the connections and the clock. -/
theorem tasks_asleep {pool : Pool World} {d : Debounce} (h : Typing c tok idle bg pool d) :
    Task.Asleep (Unmoved tok pool.state.sockets.conns pool.state.now) pool.tasks := by
  rcases h.tasks_cases with hts | ⟨o, e, σ, -, hlt, hts⟩
  · rw [hts]
    exact h.asleep _
  · rw [hts]
    exact Task.asleep_append.2 ⟨h.asleep _, timerTask_asleep hlt⟩

/-- Without a typing timer of the session, the tasks are the background ones. -/
theorem tasks_unarmed {pool : Pool World} {d : Debounce} (h : Typing c tok idle bg pool d)
    (ho : (pool.state.session 0).typingTimer = none) : pool.tasks = bg := by
  rcases h.tasks_cases with hts | ⟨o, e, σ, ho', -, -⟩
  · exact hts
  · simp [ho] at ho'

/-- Stopping the session's typing timer leaves the background tasks. -/
theorem tasks_stopped {pool : Pool World} {d : Debounce} (h : Typing c tok idle bg pool d) {o : Nat}
    (ho : (pool.state.session 0).typingTimer = some o) : pool.tasks.filter (·.id ≠ o) = bg := by
  have hbg : bg.filter (·.id ≠ o) = bg :=
    List.filter_eq_self.2 fun b hb => by simpa using h.apart_ne ho b hb
  rcases h.tasks_cases with hts | ⟨o', e, σ, ho', -, hts⟩
  · rw [hts, hbg]
  · obtain rfl : o' = o := Option.some.inj (ho'.symm.trans ho)
    rw [hts, List.filter_append, hbg]
    simp [timerTask]

/-- **Ending the lifetime under the scheduler.** Run by the main process, the teardown cancels
the lifetime, which wakes every task; it stops the typing timer and lets go of the connection.
What follows runs with the background tasks queued, and the typing timer gone. -/
theorem segment_teardown {w : World} {ts : List (Task World)} {n sq : Nat} {d : Debounce}
    (h : Typing c tok idle bg ⟨w, ts, [], n, sq⟩ d) :
    ∃ wt, Torn c tok w wt ∧ ∀ {α β : Type} (k : Unit → Act β) (m : Act α) (si : Nat),
      Run.segment 0 ((Session.teardown 0).bind k) (⟨⟨w, ts, [], n, sq⟩, m, true, false, si⟩ : Run World α) =
        Run.segment 0 (k ()) ⟨⟨wt, bg.map Task.wake, bg.map (·.id), n, sq⟩, m, true, false, si⟩ := by
  have hl := h.link
  have hts : Task.Asleep (Unmoved tok w.sockets.conns w.now) ts := h.tasks_asleep
  have hcancel : (w.cancel tok).isCancelled tok = true := (World.isCancelled_cancel w tok tok).2 (.inr rfl)
  have hwake : ∀ t ∈ ts, t.queued = false ∧ t.proc.wakeable (w.cancel tok) = true := fun t ht =>
    ⟨(h.parked t ht).1, (h.tasks_fade t ht _ hcancel).1⟩
  have hq₁ : ∀ t ∈ ts.map Task.wake, t.queued = true := by simp
  have hq₂ : ∀ t ∈ bg.map Task.wake, t.queued = true := by simp
  have hne : (w.cancel tok).sessions ≠ [] := by
    rw [World.sessions_cancel]
    exact World.sessions_ne_nil_of_lifetime hl.lifetime
  obtain ⟨conn, hk, hh⟩ := hl.holds
  -- the world once the token is cancelled and the lifetime dropped
  have hdrop : (((w.cancel tok).modifySession 0 fun s => { s with lifetime := none }).session 0) =
      { w.session 0 with lifetime := none } := by
    rw [World.session_modifySession_zero hne, World.session_cancel]
  have hne₁ : ((w.cancel tok).modifySession 0 fun s => { s with lifetime := none }).sessions ≠ [] :=
    World.sessions_ne_nil (by simp [World.modifySession]) hne
  cases htimer : (w.session 0).typingTimer with
  | none =>
    have hts' : ts = bg := h.tasks_unarmed htimer
    subst hts'
    refine ⟨?wt, ?torn, fun k m si => ?run⟩
    case run =>
      simp only [Session.teardown, Session.state, Session.change, Proc.read, Proc.modify, Proc.bind_def,
        Proc.bind, Run.segment, hl.lifetime, htimer, setState_unmoved tok w.sockets.conns w.now,
        hts, hl.live, Bool.not_true, Bool.false_and, setState_cancelled hwake, setState_allQueued hq₁,
        List.nil_append]
      rfl
    case torn =>
      refine Torn.releaseSocket (W := (w.cancel tok).modifySession 0 fun s => { s with lifetime := none })
        (World.sockets_cancel w tok) hk hh hcancel (by rw [hdrop]) (by rw [hdrop]; exact hl.outbound) hne₁
  | some o =>
    have hstop : ts.filter (·.id ≠ o) = bg := h.tasks_stopped htimer
    have hkill : (ts.map Task.wake).filter (fun x => decide (x.id ≠ o)) = bg.map Task.wake := by
      rw [List.filter_map]
      exact congrArg (List.map Task.wake) hstop
    have hkq : (ts.map (·.id)).filter (fun x => decide (x ≠ o)) = bg.map (·.id) := by
      rw [List.filter_map]
      exact congrArg (List.map (·.id)) hstop
    refine ⟨?stopped, ?tornStopped, fun k m si => ?runStopped⟩
    case runStopped =>
      simp only [Session.teardown, Session.state, Session.change, Proc.read, Proc.modify, Proc.bind_def,
        Proc.bind, Proc.stop, Run.segment, hl.lifetime, htimer, setState_unmoved tok w.sockets.conns w.now,
        hts, hl.live, Bool.not_true, Bool.false_and, setState_cancelled hwake, setState_allQueued hq₁,
        List.nil_append, hkill, hkq, setState_allQueued hq₂]
      rfl
    case tornStopped =>
      have hkeep : ∀ {β : Type} (g : SessionState → β), (∀ s, g { s with typingTimer := none } = g s) →
          g ((((w.cancel tok).modifySession 0 fun s => { s with lifetime := none }).modifySession 0
            fun s => { s with typingTimer := none }).session 0) = g { w.session 0 with lifetime := none } :=
        fun g hg => by rw [World.session_modifySession_field _ _ g hg, hdrop]
      refine Torn.releaseSocket (World.sockets_cancel w tok) hk hh hcancel
        (hkeep SessionState.lifetime fun _ => rfl)
        ((hkeep SessionState.outbound fun _ => rfl).trans hl.outbound)
        (World.sessions_ne_nil (by simp [World.modifySession]) hne₁)

/-- Closing from a pool between typing commands: the lifetime ends, and the close is reported.
The background tasks are left queued; the typing timer is gone. -/
theorem segment_close {w : World} {ts : List (Task World)} {n sq : Nat} {d : Debounce}
    (h : Typing c tok idle bg ⟨w, ts, [], n, sq⟩ d) {α : Type} (m : Act α) (si : Nat) :
    ∃ wc, Torn c tok w wc ∧
      Run.segment 0 closeMain (⟨⟨w, ts, [], n, sq⟩, m, true, false, si⟩ : Run World α) =
        (.pure .null, ⟨⟨wc, bg.map Task.wake, bg.map (·.id), n, sq⟩, m, true, false, si⟩) := by
  obtain ⟨wt, htorn, hseg⟩ := h.segment_teardown
  have hts : Task.Asleep (Unmoved tok w.sockets.conns w.now) ts := h.tasks_asleep
  have hlive : w.isCancelled tok = false := h.link.live
  have hopen : (w.session 0).phase ≠ .closed := h.link.notClosed
  have hq : ∀ t ∈ bg.map Task.wake, t.queued = true := by simp
  refine ⟨?wc, ?torn, ?run⟩
  case run =>
    simp only [closeMain, Session.close, Session.state, Proc.read, Proc.bind_def, Proc.bind,
      Run.segment, setState_unmoved tok w.sockets.conns w.now, hts, hlive, Bool.not_true,
      Bool.false_and, hopen, if_false, Proc.bind_assoc]
    rw [hseg]
    simp only [Session.setPhase, Session.emit, Proc.modify, Proc.bind, Run.segment,
      setState_allQueued hq, Act.pure_def]
    rfl
  case torn =>
    -- the report of the closed phase touches only the phase and the reports
    refine htorn.keep ?_ ?_ ?_
    · show (if (wt.session 0).phase = .closed then wt else _).sockets = wt.sockets
      split <;> rfl
    · show (if (wt.session 0).phase = .closed then wt else _).cancelled = wt.cancelled
      split <;> rfl
    · show ((if (wt.session 0).phase = .closed then wt else _).session 0).lifetime = _
      split
      · rfl
      · exact World.session_modifySession_field _ _ SessionState.lifetime fun _ => rfl

/-- A main process that never waits and, in its one segment, ends the lifetime: every task left
is queued and winds down in the rounds that follow, and none is left. -/
theorem run_ending {α : Type} {main : Act α} {a : α} {w wc : World} {ts : List (Task World)}
    {n sq : Nat} {d : Debounce} (h : Typing c tok idle bg ⟨w, ts, [], n, sq⟩ d)
    (hnb : main.isBlocked = false) (hc : wc.isCancelled tok = true)
    (hseg : Run.segment 0 main (⟨⟨w, ts, [], n, sq⟩, main, true, false, 0⟩ : Run World α) =
      (.pure a, ⟨⟨wc, bg.map Task.wake, bg.map (·.id), n, sq⟩, main, true, false, 0⟩)) :
    Pool.run ⟨w, ts, [], n, sq⟩ main = (some a, ⟨wc, [], [], n, sq + 1⟩) := by
  have hts : Task.Asleep (Unmoved tok w.sockets.conns w.now) ts := h.tasks_asleep
  have hlive : w.isCancelled tok = false := h.link.live
  -- the first poll runs the main process to its end
  have hpoll : Run.pollMain (⟨⟨w, ts, [], n, sq⟩, main, false, true, 0⟩ : Run World α) =
      ⟨⟨wc, bg.map Task.wake, bg.map (·.id), n, sq + 1⟩, .pure a, false, false, sq⟩ := by
    rw [Run.pollMain_of_resume (Proc.resume_of_not_blocked hnb w)]
    simp only
    rw [setState_unmoved tok w.sockets.conns w.now hts hlive rfl rfl rfl, hseg]
    simp only [Run.stamp]
    refine Run.wakeScan_calm ⟨fun t ht hq => ?_, fun _ _ => rfl⟩
    obtain ⟨b, -, rfl⟩ := List.mem_map.1 ht
    simp at hq
  -- the rounds after it serve the woken tasks, which wind down
  have hfading : ∀ t ∈ bg.map Task.wake, t.Fading wc ∧ t.id ∈ bg.map (·.id) := by
    intro t ht
    obtain ⟨b, hb, rfl⟩ := List.mem_map.1 ht
    obtain ⟨-, p, hp, hro⟩ := h.fades b hb wc hc
    exact ⟨⟨rfl, p, hp, hro⟩, List.mem_map.2 ⟨b, hb, rfl⟩⟩
  obtain ⟨k, hk⟩ : ∃ k, Pool.roundFuel = k + 1 := ⟨_, rfl⟩
  have hlen : (bg.map (·.id)).length ≤ Run.eventInterval * k := by
    have hfew := h.few
    rw [hk] at hfew
    rw [List.length_map, show Run.eventInterval = 61 from rfl]
    have : k = 999999 := by simpa [Pool.roundFuel] using hk.symm
    omega
  have hround : Run.round (⟨⟨w, ts, [], n, sq⟩, main, false, true, 0⟩ : Run World α) =
      Run.round (⟨⟨wc, bg.map Task.wake, bg.map (·.id), n, sq + 1⟩, .pure a, false, false, sq⟩ :
        Run World α) := by
    simp only [Run.round, hpoll, if_true, Bool.false_eq_true, if_false]
  simp only [Pool.run, hk]
  rw [Run.drive_of_round k hround, Run.drive_fading k hfading rfl rfl hlen]
  rfl

/-- **A close ends everything of the lifetime.** From a pool between typing commands, the
close sends only the connection's close, and no task is left: the typing timer is stopped,
and the background tasks wind down. -/
theorem run_close {pool : Pool World} {d : Debounce} (h : Typing c tok idle bg pool d) :
    ∃ wc, Torn c tok pool.state wc ∧
      pool.run closeMain = (some .null, ⟨wc, [], [], pool.nextTask, pool.nextSeq + 1⟩) := by
  rcases pool with ⟨w, ts, q, n, sq⟩
  obtain rfl : q = [] := h.queue
  obtain ⟨wc, htorn, hseg⟩ := h.segment_close closeMain 0
  exact ⟨wc, htorn, h.run_ending rfl htorn.cancelled hseg⟩

/-- **Opening again ends everything of the lifetime.** From a pool between typing commands,
beginning a new lifetime ends the old one as a close does, sending only the connection's close,
and draws the new token; no task of the old lifetime is left. -/
theorem run_begin {pool : Pool World} {d : Debounce} (h : Typing c tok idle bg pool d)
    (target : Target) :
    ∃ wt, Torn c tok pool.state wt ∧
      pool.run (Session.begin 0 target) = (some wt.nextToken,
        ⟨wt.freshToken.2.modifySession 0 fun s =>
            { s with lifetime := some wt.nextToken, target := some target },
          [], [], pool.nextTask, pool.nextSeq + 1⟩) := by
  rcases pool with ⟨w, ts, q, n, sq⟩
  obtain rfl : q = [] := h.queue
  obtain ⟨wt, htorn, hseg⟩ := h.segment_teardown
  have hq : ∀ t ∈ bg.map Task.wake, t.queued = true := by simp
  refine ⟨wt, htorn, h.run_ending rfl htorn.cancelled ?_⟩
  have hbegin : Session.begin 0 target = (Session.teardown 0).bind fun _ =>
      Proc.update (·.freshToken) >>= fun t =>
        Session.change 0 (fun s => { s with lifetime := some t, target := some target }) >>= fun _ =>
          pure t := rfl
  rw [hbegin, hseg]
  simp only [Session.change, Proc.update, Proc.modify, Proc.bind_def, Proc.bind, Run.segment,
    setState_allQueued hq, Act.pure_def]
  rfl

end Typing

/-! ## After the close -/

/-- The pool once the session is closed: no task, nothing queued, and no lifetime. -/
structure Silenced (pool : Pool World) : Prop where
  tasks : pool.tasks = []
  queue : pool.queue = []
  lifetime : (pool.state.session 0).lifetime = none

namespace Silenced

/-- A typing command on a closed session sends nothing, and it stays closed. -/
theorem step {pool : Pool World} (h : Silenced pool) (k : Keying) :
    Silenced (pool.run k.main).2 ∧ (pool.run k.main).2.state.sockets.sent = pool.state.sockets.sent := by
  cases k with
  | key =>
    have hkey : keyMain.ReadOnly pool.state .null :=
      keyMain_readOnly (.inl fun tok ht => by simp [h.lifetime] at ht)
    rw [Keying.main, Pool.run_readOnly h.queue (by simp [h.tasks]) rfl hkey]
    exact ⟨⟨h.tasks, h.queue, h.lifetime⟩, rfl⟩
  | wait g =>
    have halone : Proc.Alone (waitMain g) pool.state ((if 0 < g then 1 else 0) + 0) Json.null
        { pool.state with now := pool.state.now + g } :=
      (Proc.sleep_alone pool.state g).bind .pure
    obtain ⟨-, hstate, htasks, hqueue⟩ := Pool.run_alone h.tasks h.queue rfl halone
      (by split <;> simp [Pool.roundFuel])
    rw [Keying.main]
    exact ⟨⟨htasks, hqueue, by rw [hstate]; exact h.lifetime⟩, by rw [hstate]⟩

/-- **A closed session stays silent to typing.** After the close, no list of keystrokes and
waits sends anything. -/
theorem run (ks : List Keying) : ∀ {sc : Scene}, Silenced sc.pool →
    Silenced (sc.sessionRun (ks.map Keying.command)).pool ∧
      (sc.sessionRun (ks.map Keying.command)).world.sockets.sent = sc.world.sockets.sent := by
  induction ks with
  | nil => exact fun h => ⟨h, rfl⟩
  | cons k ks ih =>
    intro sc h
    obtain ⟨h₁, hsent₁⟩ := h.step k
    rw [← Keying.sessionAct_command sc k, ← Scene.sessionStep_pool] at h₁ hsent₁
    obtain ⟨h₂, hsent₂⟩ := ih h₁
    exact ⟨h₂, hsent₂.trans hsent₁⟩

end Silenced

/-! ## The typing signal of a session -/

/-- A world whose session 0 is connected on its first connection in the lifetime 0, with the
default typing timeout. -/
def World.typingReady : World :=
  { sessions := [{ phase := .connected, lifetime := some 0, online := true, outbound := some 0 }]
    sockets := { conns := [{ url := "ws:" }] }
    nextToken := 1 }

/-- The session of `World.typingReady` is between typing commands, with nothing else running. -/
theorem Typing.typingReady :
    Typing 0 0 1000 [] (Scene.start World.typingReady).pool ⟨World.typingReady.now, none⟩ where
  link := ⟨rfl, rfl, by decide, rfl, rfl, ⟨_, rfl, rfl⟩, rfl⟩
  queue := rfl
  clock := rfl
  timeless := fun _ h => nomatch h
  asleep := fun _ => Task.asleep_nil
  fades := fun _ h => nomatch h
  few := Nat.zero_le _
  below := fun _ h => nomatch h
  apart := fun _ h => nomatch h
  timerBelow := fun _ h => nomatch h
  armed := rfl

/-- **The typing signal is debounced, and ends with the lifetime.** From a session between
typing commands with no stop pending, online on connection `c` in a live lifetime:

* keystrokes at times `t₁ ≤ … ≤ tₙ`, with time passing up to `T`, send exactly the frames of
  `debounced`: the start at each keystroke, and the stop `idle` after it when the next keystroke
  is not sooner (a keystroke at the instant a stop falls due comes after it), up to `T`;
* a close, after any typing, sends only the connection's close, and no keystroke or wait after
  it sends anything;
* beginning the next lifetime, after any typing, sends only the connection's close and leaves
  no task of this lifetime;
* in any settled pool, a keystroke without a live lifetime, or while offline, sends nothing and
  starts no timer. -/
theorem Scene.typing_frames_debounced {sc : Scene} {c tok idle : Nat} {bg : List (Task World)}
    (h : Typing c tok idle bg sc.pool ⟨sc.world.now, none⟩) :
    (∀ (ts : List Nat) (T : Nat), List.IsChain (· ≤ ·) (sc.world.now :: ts ++ [T]) →
      (sc.sessionRun ((typingScript sc.world.now ts T).map Keying.command)).world.sockets.sent =
        sc.world.sockets.sent ++ ((debounced idle ts).filter (·.1 ≤ T)).map fun f => typingFrame c f.2) ∧
    (∀ ks after : List Keying,
      (sc.sessionRun (ks.map Keying.command ++ .close :: after.map Keying.command)).world.sockets.sent =
        (sc.sessionRun (ks.map Keying.command)).world.sockets.sent ++ [.closed c]) ∧
    (∀ (ks : List Keying) (target : Target),
      ((sc.sessionRun (ks.map Keying.command)).pool.run (Session.begin 0 target)).2.tasks = [] ∧
        ((sc.sessionRun (ks.map Keying.command)).pool.run (Session.begin 0 target)).2.state.sockets.sent =
          (sc.sessionRun (ks.map Keying.command)).world.sockets.sent ++ [.closed c]) ∧
    (∀ sc' : Scene, sc'.pool.queue = [] →
      (∀ t ∈ sc'.pool.tasks, t.queued = false ∧ t.proc.wakeable sc'.world = false) →
      ((∀ tok', (sc'.world.session 0).lifetime = some tok' → sc'.world.isCancelled tok' = true) ∨
        (sc'.world.session 0).online = false) →
      (sc'.sessionStep .inputChanged).2.pool = { sc'.pool with nextSeq := sc'.pool.nextSeq + 1 }) := by
  refine ⟨fun ts T hts => ?_, fun ks after => ?_, fun ks target => ?_,
    fun sc' hq ht hoff => Scene.inputChanged_idle hq ht hoff⟩
  · -- the keystrokes are a run of the machine, whose frames are read off in closed form
    obtain ⟨-, hsent⟩ := Typing.run (typingScript sc.world.now ts T) h
    rw [hsent, frames_typingScript idle T ts ⟨sc.world.now, none⟩ hts]
    simp [stopBy]
  · -- the close ends the lifetime; after it the session is silent
    obtain ⟨hk, -⟩ := Typing.run ks h
    obtain ⟨wc, htorn, hrun⟩ := hk.run_close
    set sk := sc.sessionRun (ks.map Keying.command)
    have hpool : (sk.sessionStep .close).2.pool =
        ⟨wc, [], [], sk.pool.nextTask, sk.pool.nextSeq + 1⟩ := by
      rw [Scene.sessionStep_pool, sessionAct_close, hrun]
    have hsil : Silenced (sk.sessionStep .close).2.pool :=
      ⟨by rw [hpool], by rw [hpool], by rw [hpool]; exact htorn.lifetime⟩
    obtain ⟨-, hsent⟩ := Silenced.run after hsil
    rw [Scene.sessionRun_append]
    show ((sk.sessionStep .close).2.sessionRun (after.map Keying.command)).world.sockets.sent = _
    rw [hsent]
    unfold Scene.world
    rw [hpool]
    exact htorn.sent
  · -- beginning a lifetime ends this one as a close does
    obtain ⟨hk, -⟩ := Typing.run ks h
    obtain ⟨wt, htorn, hrun⟩ := hk.run_begin target
    rw [hrun]
    exact ⟨rfl, htorn.sent⟩

/-- The connected session of `World.typingReady` debounces its typing signal. -/
theorem Scene.typing_frames_debounced_when_ready :
    Typing 0 0 1000 [] (Scene.start World.typingReady).pool ⟨(Scene.start World.typingReady).world.now, none⟩ ∧
    let sc := Scene.start World.typingReady
    (∀ (ts : List Nat) (T : Nat), List.IsChain (· ≤ ·) (sc.world.now :: ts ++ [T]) →
      (sc.sessionRun ((typingScript sc.world.now ts T).map Keying.command)).world.sockets.sent =
        sc.world.sockets.sent ++ ((debounced 1000 ts).filter (·.1 ≤ T)).map fun f => typingFrame 0 f.2) ∧
    (∀ ks after : List Keying,
      (sc.sessionRun (ks.map Keying.command ++ .close :: after.map Keying.command)).world.sockets.sent =
        (sc.sessionRun (ks.map Keying.command)).world.sockets.sent ++ [.closed 0]) ∧
    (∀ (ks : List Keying) (target : Target),
      ((sc.sessionRun (ks.map Keying.command)).pool.run (Session.begin 0 target)).2.tasks = [] ∧
        ((sc.sessionRun (ks.map Keying.command)).pool.run (Session.begin 0 target)).2.state.sockets.sent =
          (sc.sessionRun (ks.map Keying.command)).world.sockets.sent ++ [.closed 0]) ∧
    (∀ sc' : Scene, sc'.pool.queue = [] →
      (∀ t ∈ sc'.pool.tasks, t.queued = false ∧ t.proc.wakeable sc'.world = false) →
      ((∀ tok', (sc'.world.session 0).lifetime = some tok' → sc'.world.isCancelled tok' = true) ∨
        (sc'.world.session 0).online = false) →
      (sc'.sessionStep .inputChanged).2.pool = { sc'.pool with nextSeq := sc'.pool.nextSeq + 1 }) :=
  ⟨Typing.typingReady, Scene.typing_frames_debounced Typing.typingReady⟩

end MarketChat
