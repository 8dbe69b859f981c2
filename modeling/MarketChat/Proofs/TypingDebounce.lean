import Mathlib.Data.List.Chain
import MarketChat.Proofs.TypingTimer
import MarketChat.Proofs.SessionRuns
/-!
# The typing signal is debounced

While a lifetime is live and its connection online, every keystroke sends the start of typing
and restarts the typing timer; the stop goes out `typingIdleMs` after the last keystroke of a
burst. A stop that falls due at the instant of the next keystroke goes out before it.

The session's pool between typing commands is described by `Typing`: the session holds its
connection in the live lifetime (`LiveLink`), the background tasks sleep through everything
the session does, and the typing timer is parked exactly as a small machine, `Debounce`, says.
One command of the scene is one step of the machine (`Typing.key`, `Typing.wait`), and by
induction a run of commands is a run of the machine (`Typing.run`). The machine's frames on a
script of keystrokes at given times are read off in closed form (`frames_typingScript`).

Out of a live, online lifetime a keystroke only reads the session (`keyMain_readOnly`), and in a
settled pool it changes nothing (`Scene.inputChanged_idle`).

Main statements: `Typing.run`, `frames_typingScript`, `Scene.inputChanged_idle`.
-/

namespace MarketChat

/-! ## Typing commands and their machine -/

/-- A command of a typing session: a keystroke, or time passing. -/
inductive Keying where
  | key
  | wait (ms : Nat)
  deriving Repr, DecidableEq

namespace Keying

/-- The session command of a typing command. -/
def command : Keying → SessionCommand
  | .key => .inputChanged
  | .wait ms => .world (.advance ms)

/-- The main process of a typing command. -/
def main : Keying → Act Json
  | .key => keyMain
  | .wait ms => waitMain ms

theorem sessionAct_command (sc : Scene) (k : Keying) : (sc.sessionAct k.command).1 = k.main := by
  cases k <;> rfl

end Keying

/-- The typing timer as the frames see it: the clock, and when the pending stop falls due. -/
structure Debounce where
  now : Nat
  due : Option Nat
  deriving Repr, DecidableEq

/-- The stop a pending timer sends by time `t`. -/
def stopBy : Option Nat → Nat → List (Nat × Bool)
  | some e, t => if e ≤ t then [(e, false)] else []
  | none, _ => []

namespace Debounce

/-- One command: the machine after it, and the frames it sends with their times. A keystroke
sends the start and restarts the timer (with no timeout the stop follows at once); time
passing sends the pending stop once it falls due. -/
def step (idle : Nat) (d : Debounce) : Keying → Debounce × List (Nat × Bool)
  | .key =>
    if idle = 0 then (⟨d.now, none⟩, [(d.now, true), (d.now, false)])
    else (⟨d.now, some (d.now + idle)⟩, [(d.now, true)])
  | .wait g =>
    match d.due with
    | some e => if e ≤ d.now + g then (⟨d.now + g, none⟩, [(e, false)]) else (⟨d.now + g, some e⟩, [])
    | none => (⟨d.now + g, none⟩, [])

/-- The machine after a list of commands. -/
def after (idle : Nat) : Debounce → List Keying → Debounce
  | d, [] => d
  | d, k :: ks => after idle (d.step idle k).1 ks

/-- The frames a list of commands sends, in order. -/
def frames (idle : Nat) : Debounce → List Keying → List (Nat × Bool)
  | _, [] => []
  | d, k :: ks => (d.step idle k).2 ++ frames idle (d.step idle k).1 ks

theorem step_key (idle : Nat) (d : Debounce) :
    d.step idle .key = (⟨d.now, if idle = 0 then none else some (d.now + idle)⟩,
      (d.now, true) :: if idle = 0 then [(d.now, false)] else []) := by
  by_cases h0 : idle = 0 <;> simp [step, h0]

theorem step_wait_now (idle g : Nat) (d : Debounce) : (d.step idle (.wait g)).1.now = d.now + g := by
  unfold step
  cases d.due with
  | none => rfl
  | some e => by_cases h : e ≤ d.now + g <;> simp [h]

theorem step_wait_frames (idle g : Nat) (d : Debounce) :
    (d.step idle (.wait g)).2 = stopBy d.due (d.now + g) := by
  unfold step
  cases d.due with
  | none => rfl
  | some e => by_cases h : e ≤ d.now + g <;> simp [stopBy, h]

/-- Time passing with the pending stop still ahead only moves the clock. -/
theorem step_wait_ahead {idle g : Nat} {d : Debounce} (h : ∀ e, d.due = some e → d.now + g < e) :
    d.step idle (.wait g) = (⟨d.now + g, d.due⟩, []) := by
  unfold step
  cases hd : d.due with
  | none => rfl
  | some e => simp [Nat.not_le.2 (h e hd)]

/-- Time passing through the pending stop sends it. -/
theorem step_wait_due {idle g e : Nat} {d : Debounce} (hd : d.due = some e) (he : e ≤ d.now + g) :
    d.step idle (.wait g) = (⟨d.now + g, none⟩, [(e, false)]) := by
  simp [step, hd, he]

end Debounce

/-! ## Keystrokes at given times -/

/-- The typing frames of keystrokes at times `ts`, with their times: the start at each
keystroke, and the stop `idle` after it when no keystroke follows sooner. -/
def debounced (idle : Nat) : List Nat → List (Nat × Bool)
  | [] => []
  | t :: ts =>
    (t, true) :: ((if ts.head?.all (t + idle ≤ ·) then [(t + idle, false)] else []) ++ debounced idle ts)

example : debounced 3000 [0, 1000, 5000] =
    [(0, true), (1000, true), (4000, false), (5000, true), (8000, false)] := by decide

/-- Keystrokes at times `ts` from the clock `now`, and time passing up to `T`. -/
def typingScript : Nat → List Nat → Nat → List Keying
  | now, [], T => [.wait (T - now)]
  | now, t :: ts, T => .wait (t - now) :: .key :: typingScript t ts T

/-- The first time a script of keystrokes reaches: its first keystroke, or its end. -/
def firstTime (ts : List Nat) (T : Nat) : Nat := ts.head?.getD T

/-- A script's first time lies between its start and its end. -/
theorem firstTime_bounds {t T : Nat} {ts : List Nat} (h : List.IsChain (· ≤ ·) (t :: ts ++ [T])) :
    t ≤ firstTime ts T ∧ firstTime ts T ≤ T := by
  have hp := h.pairwise
  cases ts with
  | nil => simpa [firstTime] using hp
  | cons u us =>
    simp only [List.cons_append, List.pairwise_cons, List.mem_cons, List.mem_append] at hp
    exact ⟨hp.1 u (.inl rfl), hp.2.1 T (.inr (by simp))⟩

/-- The frames of a keystroke at `t` after its start, up to the next time the script reaches:
the stop it arms when it falls due by then. -/
theorem stopBy_key (idle t T : Nat) (ts : List Nat) (ht : t ≤ firstTime ts T)
    (hT : firstTime ts T ≤ T) :
    (if idle = 0 then [(t, false)] else []) ++
        stopBy (if idle = 0 then none else some (t + idle)) (firstTime ts T) =
      (if ts.head?.all (t + idle ≤ ·) then [(t + idle, false)] else []).filter (·.1 ≤ T) := by
  have hfilter : ∀ e, e ≤ T → [(e, false)].filter (·.1 ≤ T) = [(e, false)] := fun e he => by
    simp [he]
  cases ts with
  | nil =>
    simp only [firstTime, List.head?_nil, Option.getD_none, Option.all_none, if_true] at ht ⊢
    by_cases h0 : idle = 0
    · simp [h0, stopBy, hfilter t ht]
    · by_cases hd : t + idle ≤ T <;> simp [h0, stopBy, hd]
  | cons u us =>
    simp only [firstTime, List.head?_cons, Option.getD_some, Option.all_some] at ht hT ⊢
    by_cases h0 : idle = 0
    · simp [h0, stopBy, ht, hfilter t (Nat.le_trans ht hT)]
    · by_cases hd : t + idle ≤ u
      · simp [h0, stopBy, hd, hfilter (t + idle) (Nat.le_trans hd hT)]
      · simp [h0, stopBy, hd]

/-- **The machine on keystrokes at given times.** On keystrokes at times `ts` in order, with
time passing up to `T`, the machine sends its pending stop if due before the first keystroke,
then the frames of `debounced` up to `T`. -/
theorem frames_typingScript (idle T : Nat) : ∀ (ts : List Nat) (d : Debounce),
    List.IsChain (· ≤ ·) (d.now :: ts ++ [T]) →
      Debounce.frames idle d (typingScript d.now ts T) =
        stopBy d.due (firstTime ts T) ++ (debounced idle ts).filter (·.1 ≤ T) := by
  intro ts
  induction ts with
  | nil =>
    intro d h
    have hT : d.now ≤ T := (firstTime_bounds h).1
    simp [typingScript, Debounce.frames, Debounce.step_wait_frames, Nat.add_sub_cancel' hT,
      firstTime, debounced]
  | cons t ts ih =>
    intro d h
    obtain ⟨hnow, htail⟩ := List.isChain_cons_cons.1 h
    obtain ⟨ht, hT⟩ := firstTime_bounds htail
    -- the wait brings the clock to the keystroke, which restarts the timer
    have hd₁ : (d.step idle (.wait (t - d.now))).1.now = t := by
      rw [Debounce.step_wait_now]
      omega
    set d₂ := ((d.step idle (.wait (t - d.now))).1.step idle .key).1 with hd₂
    have hnow₂ : d₂.now = t := by rw [hd₂, Debounce.step_key, hd₁]
    have hrest := ih d₂ (by rw [hnow₂]; exact htail)
    rw [hnow₂] at hrest
    have hdue₂ : d₂.due = if idle = 0 then none else some (t + idle) := by
      rw [hd₂, Debounce.step_key, hd₁]
    simp only [typingScript, Debounce.frames, Debounce.step_wait_frames, Nat.add_sub_cancel' hnow]
    rw [← hd₂, hrest, hdue₂, Debounce.step_key, hd₁]
    simp only [firstTime, List.head?_cons, Option.getD_some, debounced, List.filter_cons,
      Nat.le_trans ht hT, decide_true, if_true, List.filter_append, List.cons_append,
      List.append_assoc, ← stopBy_key idle t T ts ht hT]

/-! ## The pool between typing commands -/

/-- Session 0 is online on connection `c`, which the client holds, in the live lifetime `tok`,
with typing timeout `idle`. -/
structure LiveLink (c tok idle : Nat) (w : World) : Prop where
  lifetime : (w.session 0).lifetime = some tok
  live : w.isCancelled tok = false
  notClosed : (w.session 0).phase ≠ .closed
  online : (w.session 0).online = true
  outbound : (w.session 0).outbound = some c
  holds : ∃ k, w.sockets.conns[c]? = some k ∧ k.clientHolds = true
  idle : w.config.typingIdleMs = idle

namespace LiveLink

variable {c tok idle : Nat} {w : World}

theorem signalTyping (h : LiveLink c tok idle w) (c' : Nat) (b : Bool) :
    LiveLink c tok idle (w.signalTyping c' b) where
  lifetime := h.lifetime
  live := h.live
  notClosed := h.notClosed
  online := h.online
  outbound := h.outbound
  holds := by rw [World.conns_signalTyping]; exact h.holds
  idle := h.idle

theorem keyed (h : LiveLink c tok idle w) (n : Nat) : LiveLink c tok idle (w.keyed c n) := by
  have hs := World.session_keyed h.lifetime c n
  exact ⟨by rw [hs]; exact h.lifetime, h.live, by rw [hs]; exact h.notClosed,
    by rw [hs]; exact h.online, by rw [hs]; exact h.outbound,
    by rw [World.conns_keyed]; exact h.holds, h.idle⟩

theorem setNow (h : LiveLink c tok idle w) (t : Nat) : LiveLink c tok idle { w with now := t } :=
  ⟨h.lifetime, h.live, h.notClosed, h.online, h.outbound, h.holds, h.idle⟩

/-- A typing signal goes out on the session's connection. -/
theorem sent_signalTyping (h : LiveLink c tok idle w) (b : Bool) :
    (w.signalTyping c b).sockets.sent = w.sockets.sent ++ [typingFrame c b] := by
  obtain ⟨k, hk, hh⟩ := h.holds
  exact World.sent_signalTyping hk hh b

theorem sent_keyed (h : LiveLink c tok idle w) (n : Nat) :
    (w.keyed c n).sockets.sent = w.sockets.sent ++ [typingFrame c true] := by
  obtain ⟨k, hk, hh⟩ := h.holds
  exact World.sent_keyed hk hh

end LiveLink

/-- The background tasks of lifetime `tok` wind down once it ends: in every world where `tok`
is cancelled, each is woken and, resumed, finishes without changing anything. -/
def Fades (tok : Nat) (bg : List (Task World)) : Prop :=
  ∀ t ∈ bg, ∀ s : World, s.isCancelled tok = true →
    t.proc.wakeable s = true ∧ ∃ p, t.proc.resume s = some (p, s) ∧ p.ReadOnly s ()

/-- The typing timer among the tasks, as the machine's pending stop says: no timer task, or
the session's timer parked after the background tasks until `e`, which is still ahead. -/
def Armed (tok : Nat) (bg : List (Task World)) (pool : Pool World) : Option Nat → Prop
  | none => pool.tasks = bg
  | some e => pool.state.now < e ∧ ∃ o σ, (pool.state.session 0).typingTimer = some o ∧
      pool.tasks = bg ++ [timerTask o tok e σ]

/-- **The pool between typing commands.** The session is online on `c` in the live lifetime
`tok`; nothing is queued; the background tasks `bg` are parked with no deadline and sleep as
long as the lifetime and the connections last, and are numbered apart from the typing timer;
the clock and the typing timer are as the machine `d` has them. -/
structure Typing (c tok idle : Nat) (bg : List (Task World)) (pool : Pool World) (d : Debounce) :
    Prop where
  link : LiveLink c tok idle pool.state
  queue : pool.queue = []
  clock : pool.state.now = d.now
  timeless : Timeless bg
  asleep : ∀ t, Task.Asleep (Unmoved tok pool.state.sockets.conns t) bg
  fades : Fades tok bg
  few : bg.length ≤ Pool.roundFuel
  below : ∀ b ∈ bg, b.id < pool.nextTask
  apart : ∀ b ∈ bg, (pool.state.session 0).typingTimer ≠ some b.id
  timerBelow : ∀ o, (pool.state.session 0).typingTimer = some o → o < pool.nextTask
  armed : Armed tok bg pool d.due

/-- Stopping the typing timer `o` of a keystroke: the tasks left are the background ones and
the timer just started. -/
theorem filter_stopped {bg armed : List (Task World)} {o n tok idle : Nat} (hne : ∀ b ∈ bg, b.id ≠ o)
    (harmed : ∀ t ∈ armed, t.id = o) (hon : o ≠ n) :
    (bg ++ armed ++ [timerStarted n tok idle]).filter (·.id ≠ o) = bg ++ [timerStarted n tok idle] := by
  rw [List.filter_append, List.filter_append, List.filter_eq_self.2 fun b hb => by simpa using hne b hb,
    List.filter_eq_nil_iff.2 fun t ht => by simp [harmed t ht]]
  simp [timerStarted, Ne.symm hon]

namespace Typing

variable {c tok idle : Nat} {bg : List (Task World)}

/-- The tasks of the pool: the background ones, then the session's timer if one is parked. -/
theorem tasks_cases {pool : Pool World} {d : Debounce} (h : Typing c tok idle bg pool d) :
    pool.tasks = bg ∨ ∃ o e σ, (pool.state.session 0).typingTimer = some o ∧ pool.state.now < e ∧
      pool.tasks = bg ++ [timerTask o tok e σ] := by
  have harmed := h.armed
  cases hd : d.due with
  | none =>
    rw [hd, Armed] at harmed
    exact .inl harmed
  | some e =>
    rw [hd, Armed] at harmed
    obtain ⟨hlt, o, σ, ho, hts⟩ := harmed
    exact .inr ⟨o, e, σ, ho, hlt, hts⟩

/-- Every task is parked, and nothing wakes it in the current state. -/
theorem parked {pool : Pool World} {d : Debounce} (h : Typing c tok idle bg pool d) :
    ∀ t ∈ pool.tasks, t.queued = false ∧ t.proc.wakeable pool.state = false := by
  have hbg : ∀ t ∈ bg, t.queued = false ∧ t.proc.wakeable pool.state = false := fun t ht =>
    ⟨(h.timeless t ht).1, h.asleep pool.state.now t ht (h.timeless t ht).1 pool.state
      ⟨h.link.live, rfl, rfl⟩⟩
  rcases h.tasks_cases with hts | ⟨o, e, σ, -, hlt, hts⟩
  · rw [hts]
    exact hbg
  · rw [hts]
    intro t ht
    rcases List.mem_append.1 ht with ht | ht
    · exact hbg t ht
    · simp only [List.mem_singleton] at ht
      subst ht
      simp [timerTask, h.link.live, Nat.not_le.2 hlt]

/-- The pool a keystroke leaves: the start of typing sent, the new timer `n` the session's,
and either the stop sent at once or the timer parked. -/
theorem keyed {w : World} {ts : List (Task World)} {n sq : Nat} {d : Debounce}
    (h : Typing c tok idle bg ⟨w, ts, [], n, sq⟩ d) :
    Typing c tok idle bg (if idle = 0 then ⟨(w.keyed c n).signalTyping c false, bg, [], n + 1, sq + 1⟩
      else ⟨w.keyed c n, bg ++ [timerTask n tok (w.now + idle) (sq + 1)], [], n + 1, sq + 2⟩)
        (d.step idle .key).1 ∧
    (if idle = 0 then (⟨(w.keyed c n).signalTyping c false, bg, [], n + 1, sq + 1⟩ : Pool World)
      else ⟨w.keyed c n, bg ++ [timerTask n tok (w.now + idle) (sq + 1)], [], n + 1, sq + 2⟩).state.sockets.sent =
      w.sockets.sent ++ (d.step idle .key).2.map fun f => typingFrame c f.2 := by
  have hs := World.session_keyed h.link.lifetime c n
  have hasleep : ∀ t, Task.Asleep (Unmoved tok (w.keyed c n).sockets.conns t) bg := by
    rw [World.conns_keyed]
    exact h.asleep
  have hbelow : ∀ b ∈ bg, b.id < n + 1 := fun b hb => Nat.lt_succ_of_lt (h.below b hb)
  have hapart : ∀ b ∈ bg, ((w.keyed c n).session 0).typingTimer ≠ some b.id := by
    intro b hb
    rw [hs]
    simpa using Nat.ne_of_gt (h.below b hb)
  have htimer : ∀ o, ((w.keyed c n).session 0).typingTimer = some o → o < n + 1 := by
    intro o ho
    rw [hs] at ho
    cases ho
    exact Nat.lt_succ_self n
  rw [Debounce.step_key]
  by_cases h0 : idle = 0
  · simp only [if_pos h0]
    refine ⟨⟨h.link.keyed n |>.signalTyping c false, rfl, ?_, h.timeless,
      by rw [World.conns_signalTyping]; exact hasleep, h.fades, h.few, hbelow, hapart, htimer, rfl⟩, ?_⟩
    · rw [World.now_signalTyping, World.now_keyed]
      exact h.clock
    · rw [(h.link.keyed n).sent_signalTyping, h.link.sent_keyed]
      simp
  · simp only [if_neg h0]
    refine ⟨⟨h.link.keyed n, rfl, ?_, h.timeless, hasleep, h.fades, h.few, hbelow, hapart, htimer, ?_⟩, ?_⟩
    · rw [World.now_keyed]
      exact h.clock
    · refine ⟨?_, n, sq + 1, by rw [hs], ?_⟩
      · show (w.keyed c n).now < d.now + idle
        rw [World.now_keyed, h.clock]
        omega
      · show bg ++ [timerTask n tok (w.now + idle) (sq + 1)] = bg ++ [timerTask n tok (d.now + idle) (sq + 1)]
        rw [h.clock]
    · rw [h.link.sent_keyed]
      simp


theorem apart_ne {pool : Pool World} {d : Debounce} (h : Typing c tok idle bg pool d) {o : Nat}
    (ho : (pool.state.session 0).typingTimer = some o) : ∀ b ∈ bg, b.id ≠ o :=
  fun b hb heq => h.apart b hb (heq ▸ ho)

/-- **A keystroke is a step of the machine.** It sends the machine's frames and leaves a pool
between typing commands. -/
theorem key {pool : Pool World} {d : Debounce} (h : Typing c tok idle bg pool d) :
    Typing c tok idle bg (pool.run keyMain).2 (d.step idle .key).1 ∧
      (pool.run keyMain).2.state.sockets.sent =
        pool.state.sockets.sent ++ (d.step idle .key).2.map fun f => typingFrame c f.2 := by
  rcases pool with ⟨w, ts, q, n, sq⟩
  obtain rfl : q = [] := h.queue
  have hl := h.link
  have harmed := h.armed
  -- the timer to stop is the parked one, if any
  have hrun : Pool.run ⟨w, ts, [], n, sq⟩ keyMain = (some .null,
      if idle = 0 then ⟨(w.keyed c n).signalTyping c false, bg, [], n + 1, sq + 1⟩
      else ⟨w.keyed c n, bg ++ [timerTask n tok (w.now + idle) (sq + 1)], [], n + 1, sq + 2⟩) := by
    cases hd : d.due with
    | none =>
      rw [hd] at harmed
      obtain rfl : bg = ts := harmed.symm
      have hkill : ∀ o, (w.session 0).typingTimer = some o →
          (bg ++ [] ++ [timerStarted n tok idle]).filter (·.id ≠ o) =
            bg ++ [timerStarted n tok idle] ∧ o ≠ n := fun o ho =>
        ⟨filter_stopped (h.apart_ne ho) (fun _ ht => by cases ht) (Nat.ne_of_lt (h.timerBelow o ho)),
          Nat.ne_of_lt (h.timerBelow o ho)⟩
      have hkey : Pool.run ⟨w, bg ++ [], [], n, sq⟩ keyMain = _ := run_keystroke (h.asleep w.now) h.below (by simp) hl.lifetime hl.live hl.online
        hl.outbound hl.idle (fun _ => rfl) hkill
      rwa [List.append_nil] at hkey
    | some e =>
      rw [hd] at harmed
      obtain ⟨hlt, o, σ, ho, rfl⟩ := harmed
      have hkill : ∀ o', (w.session 0).typingTimer = some o' →
          (bg ++ [timerTask o tok e σ] ++ [timerStarted n tok idle]).filter (·.id ≠ o') =
            bg ++ [timerStarted n tok idle] ∧ o' ≠ n := by
        intro o' ho'
        obtain rfl : o' = o := Option.some.inj (ho'.symm.trans ho)
        have hon : o' ≠ n := Nat.ne_of_lt (h.timerBelow o' ho')
        exact ⟨filter_stopped (h.apart_ne ho') (by simp [timerTask]) hon, hon⟩
      exact run_keystroke (h.asleep w.now) h.below (timerTask_asleep hlt) hl.lifetime hl.live
        hl.online hl.outbound hl.idle (fun hn => by cases hn.symm.trans ho) hkill
  rw [hrun]
  exact h.keyed

/-- The pool after time passed with no stop falling due. -/
theorem quiet {w : World} {ts : List (Task World)} {n sq : Nat} {d : Debounce}
    (h : Typing c tok idle bg ⟨w, ts, [], n, sq⟩ d) (t sq' : Nat) (due : Option Nat)
    (harmed : Armed tok bg ⟨{ w with now := t }, ts, [], n, sq'⟩ due) :
    Typing c tok idle bg ⟨{ w with now := t }, ts, [], n, sq'⟩ ⟨t, due⟩ :=
  ⟨h.link.setNow t, rfl, rfl, h.timeless, h.asleep, h.fades, h.few, h.below, h.apart, h.timerBelow, harmed⟩

/-- The pool after time passed and the timer fired. -/
theorem fired {w : World} {ts : List (Task World)} {n sq : Nat} {d : Debounce}
    (h : Typing c tok idle bg ⟨w, ts, [], n, sq⟩ d) (t sq' : Nat) :
    Typing c tok idle bg ⟨{ w with now := t }.signalTyping c false, bg, [], n, sq'⟩ ⟨t, none⟩ :=
  ⟨(h.link.setNow t).signalTyping c false, rfl, rfl, h.timeless,
    by rw [World.conns_signalTyping]; exact h.asleep, h.fades, h.few, h.below, h.apart, h.timerBelow, rfl⟩

/-- **Time passing is a step of the machine.** It sends the machine's frames and leaves a pool
between typing commands. -/
theorem wait {pool : Pool World} {d : Debounce} (h : Typing c tok idle bg pool d) (g : Nat) :
    Typing c tok idle bg (pool.run (waitMain g)).2 (d.step idle (.wait g)).1 ∧
      (pool.run (waitMain g)).2.state.sockets.sent =
        pool.state.sockets.sent ++ (d.step idle (.wait g)).2.map fun f => typingFrame c f.2 := by
  rcases pool with ⟨w, ts, q, n, sq⟩
  obtain rfl : q = [] := h.queue
  have hl := h.link
  have harmed := h.armed
  have hclock : w.now = d.now := h.clock
  rcases Nat.eq_zero_or_pos g with rfl | hg
  · -- a wait of no time: the pending stop is still ahead
    have hahead : ∀ e, d.due = some e → d.now + 0 < e := by
      intro e hd
      rw [hd] at harmed
      rw [← hclock]
      exact harmed.1
    rw [run_waitZero rfl h.parked, Debounce.step_wait_ahead hahead]
    exact ⟨⟨hl, rfl, h.clock, h.timeless, h.asleep, h.fades, h.few, h.below, h.apart, h.timerBelow, h.armed⟩,
      by simp⟩
  cases hd : d.due with
  | none =>
    rw [hd] at harmed
    obtain rfl : bg = ts := harmed.symm
    have hrun : Pool.run ⟨w, bg ++ [], [], n, sq⟩ (waitMain g) = _ := run_waitQuiet h.timeless
      (dueAfter_nil (w.now + g))
      (by rw [List.append_nil]; exact h.asleep _) (by rw [List.append_nil]; exact h.asleep _) hl.live hg
    rw [List.append_nil] at hrun
    rw [hrun, Debounce.step_wait_ahead (by simp [hd]), hd, ← hclock]
    exact ⟨h.quiet _ _ none rfl, by simp⟩
  | some e =>
    rw [hd] at harmed
    obtain ⟨hlt, o, σ, ho, rfl⟩ := harmed
    by_cases he : e ≤ w.now + g
    · -- the stop falls due during the wait
      rw [run_waitFires h.timeless h.asleep (h.apart_ne ho) hl.live hl.online hl.outbound hlt he,
        Debounce.step_wait_due hd (by rwa [← hclock]), ← hclock]
      exact ⟨h.fired _ _, (hl.setNow _).sent_signalTyping false⟩
    · have hafter : w.now + g < e := Nat.lt_of_not_le he
      rw [run_waitQuiet h.timeless (dueAfter_timerTask hafter)
          (Task.asleep_append.2 ⟨h.asleep _, timerTask_asleep hlt⟩)
          (Task.asleep_append.2 ⟨h.asleep _, timerTask_asleep hafter⟩) hl.live hg,
        Debounce.step_wait_ahead (by rw [hd, ← hclock]; rintro _ ⟨⟩; exact hafter), hd, ← hclock]
      exact ⟨h.quiet _ _ (some e) ⟨hafter, o, σ, ho, rfl⟩, by simp⟩

/-- One typing command is one step of the machine. -/
theorem step {pool : Pool World} {d : Debounce} (h : Typing c tok idle bg pool d) (k : Keying) :
    Typing c tok idle bg (pool.run k.main).2 (d.step idle k).1 ∧
      (pool.run k.main).2.state.sockets.sent =
        pool.state.sockets.sent ++ (d.step idle k).2.map fun f => typingFrame c f.2 := by
  cases k with
  | key => exact h.key
  | wait g => exact h.wait g

/-- **A run of typing commands is a run of the machine.** From a pool between typing commands,
the scene after any list of keystrokes and waits is again one, as the machine has it, and the
frames sent on the way are exactly the machine's, in order. -/
theorem run (ks : List Keying) : ∀ {sc : Scene} {d : Debounce}, Typing c tok idle bg sc.pool d →
    Typing c tok idle bg (sc.sessionRun (ks.map Keying.command)).pool (d.after idle ks) ∧
      (sc.sessionRun (ks.map Keying.command)).world.sockets.sent =
        sc.world.sockets.sent ++ (d.frames idle ks).map fun f => typingFrame c f.2 := by
  induction ks with
  | nil => exact fun h => ⟨h, by simp [Scene.sessionRun, Debounce.frames]⟩
  | cons k ks ih =>
    intro sc d h
    -- the first command is a step of the machine, the rest a run from there
    obtain ⟨h₁, hsent₁⟩ := h.step k
    rw [← Keying.sessionAct_command sc k, ← Scene.sessionStep_pool] at h₁ hsent₁
    obtain ⟨h₂, hsent₂⟩ := ih h₁
    refine ⟨h₂, ?_⟩
    simp only [List.map_cons, Scene.sessionRun, Debounce.frames, List.map_append, ← List.append_assoc]
    rw [hsent₂]
    unfold Scene.world
    rw [hsent₁]

end Typing

/-! ## Keystrokes out of a live, online lifetime -/

/-- A keystroke without a live lifetime, or while offline, only reads the session. -/
theorem keyMain_readOnly {w : World}
    (h : (∀ tok, (w.session 0).lifetime = some tok → w.isCancelled tok = true) ∨
      (w.session 0).online = false) :
    keyMain.ReadOnly w .null := by
  simp only [keyMain, Session.inputChanged_eq, Session.token, Proc.bind_def, Proc.read, Proc.bind]
  refine .step rfl ?_
  cases hl : (w.session 0).lifetime with
  | none =>
    simp only [Option.filter_none]
    exact .pure
  | some tok =>
    simp only [Option.filter_some]
    by_cases hc : w.isCancelled tok = true
    · simp only [hc, Bool.not_true, Bool.false_eq_true, if_false]
      exact .pure
    · have hon : (w.session 0).online = false := h.resolve_left fun h' => hc (h' tok hl)
      simp only [Bool.not_eq_true] at hc
      simp only [hc, Bool.not_false, if_true, Session.state, Proc.read, Proc.bind]
      refine .step rfl ?_
      simp only [hon, Bool.not_false, if_true]
      exact .pure

/-- **A keystroke out of a live, online lifetime does nothing.** In a settled pool, a keystroke
without a live lifetime, or while offline, sends nothing and starts no timer: the pool is as it
was. -/
theorem Scene.inputChanged_idle {sc : Scene} (hq : sc.pool.queue = [])
    (ht : ∀ t ∈ sc.pool.tasks, t.queued = false ∧ t.proc.wakeable sc.world = false)
    (h : (∀ tok, (sc.world.session 0).lifetime = some tok → sc.world.isCancelled tok = true) ∨
      (sc.world.session 0).online = false) :
    (sc.sessionStep .inputChanged).2.pool = { sc.pool with nextSeq := sc.pool.nextSeq + 1 } := by
  rw [Scene.sessionStep_pool]
  exact congrArg Prod.snd (Pool.run_readOnly hq ht rfl (keyMain_readOnly h))

end MarketChat
