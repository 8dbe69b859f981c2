import MarketChat.Runtime.Scheduler
/-!
# A process run on its own

A pool with no tasks runs its main process alone, which is what a caller that makes one call at
a time sees: every atomic step in turn, a wait whose condition holds is over at once, and at a
wait whose condition does not hold time jumps to the wait's deadline, where the condition is
asked again.

`Proc.Alone p s n a s'`: the process `p`, run on its own from `s`, ends with `a` in `s'`, and
time had to move for `n` of its waits. Every wait of such a run is over at once, or is over at
its deadline without being interrupted. Processes that start tasks (which would join the pool)
and waits that are interrupted or outlast their deadline are outside it.

The scheduler spends one round on each wait that time ends, so the rounds of `Pool.run` bound
the waits a call may make.

Main statement: `Pool.run_alone`: a pool with no tasks runs such a process to its end, in the
state the run names, and is left with no task.
-/

namespace MarketChat

namespace Proc

variable {σ : Type} [Runtime σ]

/-- The state a wait is asked again in once time moves: the clock at its deadline, or where it
is when the deadline has passed. -/
def atDeadline (s : σ) (d : Nat) : σ := Runtime.setNow s (max d (Runtime.now s))

/-- The run of a process on its own: from `s` it ends with `a` in `s'`, and `n` of its waits
needed time to move. -/
inductive Alone : {α : Type} → Proc σ α → σ → Nat → α → σ → Prop
  | pure {α : Type} {a : α} {s : σ} : Alone (.pure a) s 0 a s
  | step {α β : Type} {f : σ → β × σ} {k : β → Proc σ α} {s : σ} {n : Nat} {a : α} {s' : σ} :
      Alone (k (f s).1) (f s).2 n a s' → Alone (.step f k) s n a s'
  /-- A wait whose condition holds is over at once. -/
  | ready {α β : Type} {b : Blocker σ β} {k : Wake β → Proc σ α} {s : σ} {v : β} {s₁ : σ}
      {n : Nat} {a : α} {s' : σ} :
      b.ready s = some (v, s₁) → Alone (k (.ready v)) s₁ n a s' → Alone (.block b k) s n a s'
  /-- Otherwise nothing interrupts it, and it is over when time reaches its deadline. -/
  | timed {α β : Type} {b : Blocker σ β} {k : Wake β → Proc σ α} {s : σ} {d : Nat} {v : β}
      {s₁ : σ} {n : Nat} {a : α} {s' : σ} :
      b.ready s = none → b.deadline = some d →
      (∀ t ∈ b.aborts,
        Runtime.cancelled s t = false ∧ Runtime.cancelled (atDeadline s d) t = false) →
      b.ready (atDeadline s d) = some (v, s₁) → Alone (k (.ready v)) s₁ n a s' →
      Alone (.block b k) s (n + 1) a s'
  | kill {α : Type} {i : Nat} {k : Proc σ α} {s : σ} {n : Nat} {a : α} {s' : σ} :
      Alone k s n a s' → Alone (.kill i k) s n a s'
  /-- The main process is task number 0. -/
  | current {α : Type} {k : Nat → Proc σ α} {s : σ} {n : Nat} {a : α} {s' : σ} :
      Alone (k 0) s n a s' → Alone (.current k) s n a s'

/-- Sequencing: the waits of the two runs add up. -/
theorem Alone.bind {α β : Type} {p : Proc σ α} {s : σ} {n : Nat} {a : α} {s₁ : σ}
    {f : α → Proc σ β} {m : Nat} {b : β} {s₂ : σ} (h : Alone p s n a s₁)
    (hf : Alone (f a) s₁ m b s₂) : Alone (p >>= f) s (n + m) b s₂ := by
  induction h with
  | pure =>
    rw [Nat.zero_add]
    exact hf
  | step _ ih => exact .step (ih hf)
  | ready hv _ ih => exact .ready hv (ih hf)
  | timed hw hd hab hv _ ih =>
    rw [Nat.add_right_comm]
    exact .timed hw hd hab hv (ih hf)
  | kill _ ih => exact .kill (ih hf)
  | current _ ih => exact .current (ih hf)

theorem Alone.update_bind {α β : Type} {f : σ → β × σ} {k : β → Proc σ α} {s : σ} {n : Nat}
    {a : α} {s' : σ} (h : Alone (k (f s).1) (f s).2 n a s') :
    Alone (Proc.update f >>= k) s n a s' :=
  .step h

theorem Alone.read_bind {α β : Type} {f : σ → β} {k : β → Proc σ α} {s : σ} {n : Nat} {a : α}
    {s' : σ} (h : Alone (k (f s)) s n a s') : Alone (Proc.read f >>= k) s n a s' :=
  .step h

theorem Alone.modify_bind {α : Type} {f : σ → σ} {k : Unit → Proc σ α} {s : σ} {n : Nat}
    {a : α} {s' : σ} (h : Alone (k ()) (f s) n a s') : Alone (Proc.modify f >>= k) s n a s' :=
  .step h

/-- A process that ends where it is in no wait. -/
def Halted {β : Type} : Proc σ β → σ → Prop
  | .pure _, _ => True
  | .block b _, s => b.ready s = none
  | _, _ => False

/-- A process that does not wait at once is resumed as it is. -/
theorem resume_of_not_blocked {β : Type} {p : Proc σ β} (hp : p.isBlocked = false) (s : σ) :
    p.resume s = some (p, s) := by
  cases p <;> first | rfl | simp [Proc.isBlocked] at hp

/-- A finished run waits no more. -/
theorem Alone.of_pure {α : Type} {b a : α} {s : σ} {n : Nat} {s' : σ} (h : Alone (.pure b) s n a s') :
    n = 0 ∧ b = a ∧ s = s' := by
  cases h
  exact ⟨rfl, rfl, rfl⟩

/-- A run at a wait whose condition does not hold goes on once time reaches the deadline. -/
theorem Alone.of_waits {α β : Type} {b : Blocker σ β} {k : Wake β → Proc σ α} {s : σ} {n : Nat}
    {a : α} {s' : σ} (h : Alone (.block b k) s n a s') (hw : b.ready s = none) :
    ∃ d v s₁ m, n = m + 1 ∧ b.deadline = some d ∧
      (∀ t ∈ b.aborts,
        Runtime.cancelled s t = false ∧ Runtime.cancelled (atDeadline s d) t = false) ∧
      b.ready (atDeadline s d) = some (v, s₁) ∧ Alone (k (.ready v)) s₁ m a s' := by
  cases h with
  | ready hv _ => simp [hw] at hv
  | timed _ hd hab hv hk => exact ⟨_, _, _, _, rfl, hd, hab, hv, hk⟩

/-- Where a run on its own stops, nothing wakes it: it has ended, or it waits for a condition
that does not hold and for tokens that are not cancelled. -/
theorem Alone.wakeable_of_halted {α : Type} {p : Proc σ α} {s : σ} {n : Nat} {a : α} {s' : σ}
    (h : Alone p s n a s') (hp : p.Halted s) : p.wakeable s = false := by
  cases p with
  | pure => rfl
  | block b k =>
    obtain ⟨d, v, s₁, m, -, -, hab, -⟩ := h.of_waits hp
    have hnone : (b.aborts.any (Runtime.cancelled s)) = false := by
      simpa using fun t ht => (hab t ht).1
    simp [Proc.wakeable, hnone, show b.ready s = none from hp]
  | _ => exact absurd hp id

end Proc

namespace Run

variable {σ α : Type} [Runtime σ]

open Proc

/-- With no task in the pool, waking looks at the main process only. -/
theorem wakeScan_of_nil {r : Run σ α} (ht : r.pool.tasks = []) :
    (wakeScan r).pool = r.pool ∧ (wakeScan r).main = r.main ∧
      (wakeScan r).mainRunning = r.mainRunning ∧
      (wakeScan r).mainWoken = (r.mainWoken || (!r.mainRunning && r.main.wakeable r.pool.state)) := by
  rcases r with ⟨⟨state, tasks, queue, nextTask, nextSeq⟩, main, running, woken, since⟩
  simp only at ht
  subst ht
  simp [wakeScan]

theorem segment_step {β γ : Type} (me : Nat) (f : σ → γ × σ) (k : γ → Proc σ β) (r : Run σ α) :
    segment me (.step f k) r = segment me (k (f r.pool.state).1) (r.setState (f r.pool.state).2) :=
  rfl

theorem segment_ready {β γ : Type} (me : Nat) {b : Blocker σ γ} {k : Wake γ → Proc σ β}
    {r : Run σ α} {v : γ} {s : σ} (hv : b.ready r.pool.state = some (v, s)) :
    segment me (.block b k) r = segment me (k (.ready v)) (r.setState s) := by
  simp [segment, hv]

theorem segment_waits {β γ : Type} (me : Nat) {b : Blocker σ γ} {k : Wake γ → Proc σ β}
    {r : Run σ α} (hw : b.ready r.pool.state = none) :
    segment me (.block b k) r = (.block b k, r) := by
  simp [segment, hw]

/-- The main process is running, alone in its pool, and nothing is woken. -/
structure Running (r : Run σ α) : Prop where
  tasks : r.pool.tasks = []
  queue : r.pool.queue = []
  running : r.mainRunning = true
  woken : r.mainWoken = false

/-- A step of the running main process wakes nothing. -/
theorem Running.setState {r : Run σ α} (h : Running r) (s : σ) :
    Running (r.setState s) ∧ (r.setState s).main = r.main := by
  rcases r with ⟨⟨state, tasks, queue, nextTask, nextSeq⟩, main, running, woken, since⟩
  obtain ⟨ht, hq, hr, hw⟩ := h
  simp only at ht hq hr hw
  subst ht hq hr hw
  exact ⟨⟨rfl, rfl, rfl, by simp [Run.setState, wakeScan]⟩, rfl⟩

/-- The segment of a process run on its own, as the main process of a pool with no task: the
pool keeps no task, and the segment stops at the end of the run or at a wait that time must
end, from where the rest of the run goes on. -/
theorem segment_alone {β : Type} {p : Proc σ β} {s : σ} {n : Nat} {b : β} {s' : σ}
    (h : Alone p s n b s') : ∀ {r : Run σ α}, Running r → r.pool.state = s →
      Running (segment 0 p r).2 ∧ (segment 0 p r).2.main = r.main ∧
        Alone (segment 0 p r).1 (segment 0 p r).2.pool.state n b s' ∧
        (segment 0 p r).1.Halted (segment 0 p r).2.pool.state := by
  induction h with
  | pure => exact fun hr hs => ⟨hr, rfl, hs ▸ .pure, trivial⟩
  | step _ ih =>
    intro r hr hs
    subst hs
    obtain ⟨hr', hmain⟩ := hr.setState _
    obtain ⟨h1, h2, h3, h4⟩ := ih hr' rfl
    exact ⟨h1, h2.trans hmain, h3, h4⟩
  | ready hv _ ih =>
    intro r hr hs
    subst hs
    rw [segment_ready 0 hv]
    obtain ⟨hr', hmain⟩ := hr.setState _
    obtain ⟨h1, h2, h3, h4⟩ := ih hr' rfl
    exact ⟨h1, h2.trans hmain, h3, h4⟩
  | timed hw hd hab hv hk =>
    intro r hr hs
    subst hs
    rw [segment_waits 0 hw]
    exact ⟨hr, rfl, .timed hw hd hab hv hk, hw⟩
  | kill _ ih =>
    intro r hr hs
    exact ih ⟨by simp [hr.tasks], by simp [hr.queue], hr.running, hr.woken⟩ hs
  | current _ ih => exact fun hr hs => ih hr hs

/-- The main process waits, alone in its pool. -/
structure Idle (r : Run σ α) : Prop where
  tasks : r.pool.tasks = []
  queue : r.pool.queue = []
  running : r.mainRunning = false

theorem wakeScan_idle {r : Run σ α} (h : Idle r) :
    (wakeScan r).pool = r.pool ∧ (wakeScan r).main = r.main ∧
      (wakeScan r).mainRunning = false ∧
      (wakeScan r).mainWoken = (r.mainWoken || r.main.wakeable r.pool.state) := by
  rcases r with ⟨⟨state, tasks, queue, nextTask, nextSeq⟩, main, running, woken, since⟩
  obtain ⟨ht, hq, hr⟩ := h
  simp only at ht hq hr
  subst ht hq hr
  simp [wakeScan]

theorem pollMain_of_resume {r : Run σ α} {p : Proc σ α} {s : σ}
    (hres : r.main.resume r.pool.state = some (p, s)) :
    pollMain r =
      let q := segment 0 p ({ r with mainWoken := false, mainRunning := true }.setState s)
      wakeScan { q.2.stamp.2 with main := q.1, mainRunning := false, mainSince := q.2.stamp.1 } := by
  simp only [pollMain, hres]

/-- Polling the main process when it can go on runs it until it ends or waits, and it is left
idle and not woken. -/
theorem pollMain_alone {p : Proc σ α} {s : σ} {n : Nat} {a : α} {s' : σ} {r : Run σ α}
    (hr : Idle r) (hres : r.main.resume r.pool.state = some (p, s)) (h : Alone p s n a s') :
    Idle (pollMain r) ∧ (pollMain r).mainWoken = false ∧
      Alone (pollMain r).main (pollMain r).pool.state n a s' ∧
      (pollMain r).main.Halted (pollMain r).pool.state := by
  -- the main process steps as a running process, then goes back to waiting
  have hrun : Running ({ r with mainWoken := false, mainRunning := true }.setState s) :=
    (Running.setState (r := { r with mainWoken := false, mainRunning := true })
      ⟨hr.tasks, hr.queue, rfl, rfl⟩ s).1
  obtain ⟨h1, -, h3, h4⟩ := segment_alone h hrun rfl
  rw [pollMain_of_resume hres]
  generalize segment 0 p ({ r with mainWoken := false, mainRunning := true }.setState s) = q at *
  obtain ⟨p', r'⟩ := q
  have hidle : Idle { r'.stamp.2 with main := p', mainRunning := false, mainSince := r'.stamp.1 } :=
    ⟨h1.tasks, h1.queue, rfl⟩
  obtain ⟨e1, e2, e3, e4⟩ := wakeScan_idle hidle
  refine ⟨⟨?_, ?_, e3⟩, ?_, ?_, ?_⟩
  · rw [e1]; exact h1.tasks
  · rw [e1]; exact h1.queue
  · have hw : r'.mainWoken = false := h1.woken
    rw [e4]
    simpa [stamp, hw] using h3.wakeable_of_halted h4
  · rw [e1, e2]; exact h3
  · rw [e1, e2]; exact h4

theorem serve_of_queue_nil {r : Run σ α} (hq : r.pool.queue = []) (budget : Nat) :
    serve budget r = r := by
  cases budget with
  | zero => rfl
  | succ budget => simp [serve, hq]

omit [Runtime σ] in
/-- With no task and the main process not woken, the next deadline is the main process's. -/
theorem nextDeadline_idle {r : Run σ α} (hr : Idle r) (hw : r.mainWoken = false) :
    nextDeadline r = r.main.deadline? := by
  cases hd : r.main.deadline? <;> simp [nextDeadline, hr.tasks, hw, hd]

/-- Moving time in an idle pool sets the clock and wakes the main process at its deadline. -/
theorem advanceTo_idle {r : Run σ α} (hr : Idle r) (t : Nat) :
    Idle (advanceTo t r) ∧ (advanceTo t r).pool.state = Runtime.setNow r.pool.state t ∧
      (advanceTo t r).main = r.main ∧
      (advanceTo t r).mainWoken = (r.mainWoken || r.main.deadline?.any (· ≤ t)) := by
  rcases r with ⟨⟨state, tasks, queue, nextTask, nextSeq⟩, main, running, woken, since⟩
  obtain ⟨ht, hq, hr⟩ := hr
  simp only at ht hq hr
  subst ht hq hr
  exact ⟨⟨rfl, by simp [advanceTo], rfl⟩, rfl, rfl, rfl⟩

/-- **Driving a process run on its own.** An idle pool whose woken main process can go on runs
it to the end of its run, one round for each wait that time ends, and is left with no task. -/
theorem drive_alone (rounds : Nat) : ∀ {r : Run σ α} {p : Proc σ α} {s : σ} {n : Nat} {a : α}
    {s' : σ}, Idle r → r.mainWoken = true → r.main.resume r.pool.state = some (p, s) →
    Alone p s n a s' → n < rounds →
    (drive rounds r).main = .pure a ∧ (drive rounds r).pool.state = s' ∧
      (drive rounds r).pool.tasks = [] ∧ (drive rounds r).pool.queue = [] := by
  induction rounds with
  | zero => intro _ _ _ _ _ _ _ _ _ _ hn; omega
  | succ rounds ih =>
    intro r p s n a s' hr hw hres h hn
    obtain ⟨h1, h2, h3, h4⟩ := pollMain_alone hr hres h
    have hserve := serve_of_queue_nil h1.queue eventInterval
    simp only [drive, hw, if_true, hserve, h1.queue, List.isEmpty_nil, h2]
    generalize pollMain r = r₁ at *
    -- the round ends where the main process stopped: at its end, or at a wait time must end
    rcases r₁ with ⟨pool, main, running, woken, since⟩
    cases main with
    | pure b =>
      obtain ⟨rfl, rfl, rfl⟩ := h3.of_pure
      exact ⟨rfl, rfl, h1.tasks, h1.queue⟩
    | block bl k =>
      obtain ⟨d, v, s₁, m, rfl, hd, hab, hv, hk⟩ := h3.of_waits h4
      have hnext := nextDeadline_idle h1 h2
      simp only [Proc.isBlocked, if_true] at hnext ⊢
      rw [hnext]
      simp only [Proc.deadline?, hd]
      obtain ⟨g1, g2, g3, g4⟩ := advanceTo_idle h1 (max d (Runtime.now pool.state))
      have hnone : bl.aborts.find? (Runtime.cancelled (atDeadline pool.state d)) = none :=
        List.find?_eq_none.2 fun t ht => by simp [(hab t ht).2]
      refine ih g1 ?_ ?_ hk (by omega)
      · simp only [g4, Proc.deadline?, hd, Option.any_some, decide_eq_true (Nat.le_max_left _ _),
          Bool.or_true]
      · rw [g2, g3]
        simp only [Proc.resume]
        rw [show Runtime.setNow pool.state (max d (Runtime.now pool.state)) =
          atDeadline pool.state d from rfl, hnone, hv]
    | _ => exact absurd h4 id

end Run

namespace Pool

variable {σ α : Type} [Runtime σ]

open Proc

/-- **A pool with no task runs a process on its own to its end.** A main process that does not
wait at once, whose run on its own ends with `a` in `s'` after fewer waits on time than the
scheduler has rounds, ends with `a`, in `s'`, and leaves no task. -/
theorem run_alone {pool : Pool σ} {main : Proc σ α} {n : Nat} {a : α} {s' : σ}
    (ht : pool.tasks = []) (hq : pool.queue = []) (hnb : main.isBlocked = false)
    (h : Alone main pool.state n a s') (hn : n < roundFuel) :
    (pool.run main).1 = some a ∧ (pool.run main).2.state = s' ∧ (pool.run main).2.tasks = [] ∧
      (pool.run main).2.queue = [] := by
  obtain ⟨h1, h2, h3, h4⟩ := Run.drive_alone roundFuel (r := { pool, main, mainWoken := true })
    ⟨ht, hq, rfl⟩ rfl (resume_of_not_blocked hnb pool.state) h hn
  refine ⟨?_, h2, h3, h4⟩
  show (Run.drive roundFuel _).main.result? = some a
  rw [h1]
  rfl

end Pool

end MarketChat
