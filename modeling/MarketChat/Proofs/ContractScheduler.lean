import MarketChat.Proofs.Contracts
/-!
# The scheduler keeps contracts

When the main process and every task obey a contract, so does every run of the scheduler: each
state it passes through is related to the first by the contract's relation, the state is
settled whenever nothing runs, and every task left in the pool, waiting or not started yet,
is still parked. The argument follows the scheduler's own layers: a segment runs one process
to its next wait (`segment_keeps`), polling resumes one process and runs its segment
(`pollMain_keeps`, `pollTask_keeps`), serving polls the queue, moving time only changes the
clock, and driving repeats these (`drive_keeps`).

Only the processes are looked at, never the order in which the scheduler picks them: the
queue, the wake flags and the sequence numbers play no part.

Main statements: `Pool.run_keeps`, and `Pool.run_keeps_start` for a main process that obeys
from the state the pool is in, where the scheduler polls it first.
-/

namespace MarketChat

namespace Contract

variable {σ α : Type} [Runtime σ] (c : Contract σ)

/-- Every task of a list is parked in the state `s`. -/
def AllParked (s : σ) (ts : List (Task σ)) : Prop :=
  ∀ t ∈ ts, c.Parked (fun _ => c.settled) t.proc s

/-- The main process between two polls: once finished, its end condition held in a state the
contract leads from to `s`; before, it is parked in `s`. -/
def MainKept (Q : α → σ → Prop) (p : Proc σ α) (s : σ) : Prop :=
  match p.result? with
  | some a => ∃ s', Q a s' ∧ c.step s' s
  | none => c.Parked Q p s

/-- A run between two polls: its state is settled, its tasks are parked there, and its main
process is kept. -/
def RunKept (Q : α → σ → Prop) (r : Run σ α) : Prop :=
  c.settled r.pool.state ∧ c.AllParked r.pool.state r.pool.tasks ∧ c.MainKept Q r.main r.pool.state

/-- How a segment leaves its process: finished in `Q`, unwound in a settled state, or waiting
for a condition that does not hold yet. -/
def Yielded {β : Type} (Q : β → σ → Prop) : Proc σ β → σ → Prop
  | .pure b, s => Q b s
  | .abort t, s => Runtime.cancelled s t = true ∧ c.settled s
  | .block b k, s => c.Obeys [] Q (.block b k) s ∧ b.ready s = none
  | _, _ => False

/-- A pool between two runs: its state is settled and its tasks are parked there. -/
def PoolKept (pool : Pool σ) : Prop :=
  c.settled pool.state ∧ c.AllParked pool.state pool.tasks

variable {c}

/-! ## Task lists -/

theorem AllParked.of_step {s s' : σ} {ts : List (Task σ)} (h : c.AllParked s ts)
    (hs : c.step s s') : c.AllParked s' ts :=
  fun t ht => (h t ht).of_step hs

/-- A list whose every task has the process of a task of a parked list is parked. -/
theorem AllParked.of_procs {s : σ} {ts us : List (Task σ)} (h : c.AllParked s ts)
    (hus : ∀ u ∈ us, ∃ t ∈ ts, t.proc = u.proc) : c.AllParked s us := by
  intro u hu
  obtain ⟨t, ht, hp⟩ := hus u hu
  exact hp ▸ h t ht

theorem AllParked.filter {s : σ} {ts : List (Task σ)} (h : c.AllParked s ts)
    (p : Task σ → Bool) : c.AllParked s (ts.filter p) :=
  fun t ht => h t (List.mem_filter.1 ht).1

theorem AllParked.insertTask {s : σ} {ts : List (Task σ)} {u : Task σ} (h : c.AllParked s ts)
    (hu : c.Parked (fun _ => c.settled) u.proc s) : c.AllParked s (Run.insertTask u ts) := by
  induction ts with
  | nil => simpa [AllParked, Run.insertTask] using hu
  | cons t ts ih =>
    have ht : c.Parked (fun _ => c.settled) t.proc s := h t (by simp)
    have hts : c.AllParked s ts := fun v hv => h v (by simp [hv])
    simp only [Run.insertTask]
    split
    · intro v hv
      simp only [List.mem_cons] at hv
      rcases hv with rfl | rfl | hv
      · exact hu
      · exact ht
      · exact hts v hv
    · intro v hv
      simp only [List.mem_cons] at hv
      rcases hv with rfl | hv
      · exact ht
      · exact ih hts v hv

/-- Waking tasks only marks them queued: the processes stay as they are. -/
theorem wakeScan_tasks_procs (r : Run σ α) :
    ∀ u ∈ (Run.wakeScan r).pool.tasks, ∃ t ∈ r.pool.tasks, t.proc = u.proc := by
  simp only [Run.wakeScan]
  generalize r.pool.tasks = ts
  -- the scan marks tasks in place: the first component of the fold is the list, re-marked
  suffices h : ∀ ts : List (Task σ), ∀ u ∈ (ts.foldr (fun t (acc : List (Task σ) × List Nat) =>
      if !t.queued && t.proc.wakeable r.pool.state then ({ t with queued := true } :: acc.1, t.id :: acc.2)
      else (t :: acc.1, acc.2)) ([], [])).1, ∃ t ∈ ts, t.proc = u.proc from h ts
  intro ts
  induction ts with
  | nil => simp
  | cons t ts ih =>
    intro u hu
    simp only [List.foldr_cons] at hu
    split at hu
    · simp only [List.mem_cons] at hu
      rcases hu with rfl | hu
      · exact ⟨t, by simp, rfl⟩
      · obtain ⟨v, hv, hp⟩ := ih u hu
        exact ⟨v, by simp [hv], hp⟩
    · simp only [List.mem_cons] at hu
      rcases hu with rfl | hu
      · exact ⟨u, by simp, rfl⟩
      · obtain ⟨v, hv, hp⟩ := ih u hu
        exact ⟨v, by simp [hv], hp⟩

@[simp] theorem wakeScan_state (r : Run σ α) : (Run.wakeScan r).pool.state = r.pool.state := rfl

@[simp] theorem wakeScan_main (r : Run σ α) : (Run.wakeScan r).main = r.main := rfl

theorem AllParked.wakeScan {r : Run σ α} (h : c.AllParked r.pool.state r.pool.tasks) :
    c.AllParked (Run.wakeScan r).pool.state (Run.wakeScan r).pool.tasks :=
  h.of_procs (wakeScan_tasks_procs r)

@[simp] theorem setState_state (r : Run σ α) (s : σ) : (r.setState s).pool.state = s := rfl

@[simp] theorem setState_main (r : Run σ α) (s : σ) : (r.setState s).main = r.main := rfl

theorem AllParked.setState {r : Run σ α} {s : σ} (h : c.AllParked r.pool.state r.pool.tasks)
    (hs : c.step r.pool.state s) : c.AllParked s (r.setState s).pool.tasks :=
  (h.of_step hs).of_procs (wakeScan_tasks_procs _)

/-! ## Segments -/

theorem Yielded.settled {β : Type} {Q : β → σ → Prop} (hQ : ∀ b s, Q b s → c.settled s)
    {p : Proc σ β} {s : σ} (h : c.Yielded Q p s) : c.settled s := by
  cases p with
  | pure b => exact hQ b s h
  | abort t => exact h.2
  | block b k =>
    obtain ⟨hb, hr⟩ := h
    cases hb with
    | block _ _ hwait _ _ _ => exact hwait hr
  | step f k => exact h.elim
  | spawn t k => exact h.elim
  | kill i k => exact h.elim
  | current k => exact h.elim

/-- A task left where its segment ended is parked there. -/
theorem Yielded.parked {β : Type} {p : Proc σ β} {s : σ}
    (h : c.Yielded (fun _ => c.settled) p s) : c.Parked (fun _ => c.settled) p s := by
  cases p with
  | pure b => exact parked_of_obeys fun s₁ hs₁ _ => .pure hs₁
  | abort t => exact parked_of_obeys fun s₁ hs₁ hstep => .abort (c.cancelled_of_step hstep h.1) hs₁
  | block b k => exact h.1.parked
  | step f k => exact h.elim
  | spawn t k => exact h.elim
  | kill i k => exact h.elim
  | current k => exact h.elim

/-- The main process left where its segment ended is kept there. -/
theorem Yielded.mainKept {Q : α → σ → Prop} {p : Proc σ α} {s : σ} (h : c.Yielded Q p s) :
    c.MainKept Q p s := by
  cases p with
  | pure b => exact ⟨s, h, c.step_refl s⟩
  | abort t => exact parked_of_obeys fun s₁ hs₁ hstep => .abort (c.cancelled_of_step hstep h.1) hs₁
  | block b k => exact h.1.parked
  | step f k => exact h.elim
  | spawn t k => exact h.elim
  | kill i k => exact h.elim
  | current k => exact h.elim

theorem MainKept.of_step {Q : α → σ → Prop} {p : Proc σ α} {s s' : σ} (h : c.MainKept Q p s)
    (hs : c.step s s') : c.MainKept Q p s' := by
  unfold MainKept at h ⊢
  split
  · next a ha =>
    rw [ha] at h
    obtain ⟨s₀, hq, hs₀⟩ := h
    exact ⟨s₀, hq, c.step_trans hs₀ hs⟩
  · next ha =>
    rw [ha] at h
    exact Parked.of_step h hs

/-- A main process that obeys from every later settled state is kept. -/
theorem MainKept.of_obeys {Q : α → σ → Prop} {p : Proc σ α} {s : σ} (hs : c.settled s)
    (h : ∀ s₁, c.settled s₁ → c.step s s₁ → c.Obeys [] Q p s₁) : c.MainKept Q p s := by
  cases p with
  | pure a =>
    cases h s hs (c.step_refl s) with
    | pure hq => exact ⟨s, hq, c.step_refl s⟩
  | abort t => exact parked_of_obeys h
  | step f k => exact parked_of_obeys h
  | block b k => exact parked_of_obeys h
  | spawn t k => exact parked_of_obeys h
  | kill i k => exact parked_of_obeys h
  | current k => exact parked_of_obeys h

/-- A segment keeps the contract: its state is related to the one it started in, the tasks
(those it started among them) stay parked, and its process is left finished, unwound or
waiting. -/
theorem segment_keeps {gs : List Nat} {β : Type} {Q : β → σ → Prop} {p : Proc σ β} {s : σ}
    (hp : c.Obeys gs Q p s) : gs = [] → ∀ (me : Nat) (r : Run σ α), r.pool.state = s →
      c.AllParked s r.pool.tasks →
      c.step s (Run.segment me p r).2.pool.state ∧
      c.AllParked (Run.segment me p r).2.pool.state (Run.segment me p r).2.pool.tasks ∧
      c.Yielded Q (Run.segment me p r).1 (Run.segment me p r).2.pool.state ∧
      (Run.segment me p r).2.main = r.main := by
  induction hp with
  | pure hq =>
    intro _ me r hr ht
    subst hr
    exact ⟨c.step_refl _, ht, hq, rfl⟩
  | abort hc hs =>
    intro _ me r hr ht
    subst hr
    exact ⟨c.step_refl _, ht, ⟨hc, hs⟩, rfl⟩
  | @step _ _ _ _ f k s hs _ ih =>
    intro hgs me r hr ht
    subst hr
    obtain ⟨h1, h2, h3, h4⟩ := ih hgs me (r.setState (f r.pool.state).2) rfl (ht.setState hs)
    exact ⟨c.step_trans hs h1, h2, h3, h4⟩
  | @block _ _ _ _ b k s hnow hknow hwait habort hready hkready ihnow _ _ =>
    intro hgs me r hr ht
    subst hr hgs
    simp only [Run.segment]
    split
    · next v s' hv =>
      obtain ⟨h1, h2, h3, h4⟩ := ihnow v s' hv rfl me (r.setState s') rfl
        (ht.setState (hnow v s' hv))
      exact ⟨c.step_trans (hnow v s' hv) h1, h2, h3, h4⟩
    · next hv =>
      exact ⟨c.step_refl _, ht, ⟨.block hnow hknow hwait habort hready hkready, hv⟩, rfl⟩
  | @spawn _ _ _ t k s hts htp _ _ ihk =>
    intro hgs me r hr ht
    subst hr
    -- the new task is parked where it is started
    have hnew : c.AllParked r.pool.state (r.pool.tasks ++ [{ id := r.pool.nextTask, proc := t }]) := by
      intro u hu
      simp only [List.mem_append, List.mem_singleton] at hu
      rcases hu with hu | rfl
      · exact ht u hu
      · exact fun s₁ hs₁ hstep p' s' hres =>
          ⟨hts s₁ hs₁ hstep p' s' hres, htp s₁ hs₁ hstep p' s' hres⟩
    exact ihk _ hgs me _ rfl hnew
  | kill _ ih =>
    intro hgs me r hr ht
    subst hr
    exact ih hgs me _ rfl (ht.filter _)
  | current _ ih =>
    intro hgs me r hr ht
    subst hr
    exact ih me hgs me r rfl ht

/-! ## Polling, serving, moving time -/

/-- Polling the main process keeps the contract. -/
theorem pollMain_keeps {Q : α → σ → Prop} (hQ : ∀ a s, Q a s → c.settled s) {r : Run σ α}
    (h : c.RunKept Q r) :
    c.RunKept Q (Run.pollMain r) ∧ c.step r.pool.state (Run.pollMain r).pool.state := by
  obtain ⟨hs, ht, hm⟩ := h
  simp only [Run.pollMain]
  split
  · exact ⟨⟨hs, ht, hm⟩, c.step_refl _⟩
  · next p s hres =>
    cases hmain : r.main.result? with
    | some a =>
      -- a finished main process is resumed as it is, and its segment does nothing
      have hp : r.main = .pure a := by
        revert hmain; cases r.main <;> simp [Proc.result?]
      rw [hp] at hres
      simp only [Proc.resume, Option.some.injEq, Prod.mk.injEq] at hres
      obtain ⟨rfl, rfl⟩ := hres
      simp only [Run.segment]
      refine ⟨⟨hs, (ht.setState (c.step_refl _)).of_procs (wakeScan_tasks_procs _), ?_⟩,
        c.step_refl _⟩
      simpa [MainKept, hmain, hp, Proc.result?, Run.stamp] using hm
    | none =>
      simp only [MainKept, hmain] at hm
      obtain ⟨hstep, hp⟩ := hm _ hs (c.step_refl _) p s hres
      obtain ⟨h1, h2, h3, -⟩ := segment_keeps hp rfl 0
        (({ r with mainWoken := false, mainRunning := true } : Run σ α).setState s) rfl
        (AllParked.setState ht hstep)
      exact ⟨⟨h3.settled hQ, h2.of_procs (wakeScan_tasks_procs _), h3.mainKept⟩,
        c.step_trans hstep h1⟩

/-- Polling a main process that has not run yet, in the state it starts in: it only has to obey
from there. -/
theorem pollMain_keeps_start {Q : α → σ → Prop} (hQ : ∀ a s, Q a s → c.settled s) {r : Run σ α}
    (ht : c.AllParked r.pool.state r.pool.tasks) (hp : c.Obeys [] Q r.main r.pool.state)
    (hnb : r.main.resume r.pool.state = some (r.main, r.pool.state)) :
    c.RunKept Q (Run.pollMain r) ∧ c.step r.pool.state (Run.pollMain r).pool.state := by
  simp only [Run.pollMain, hnb]
  obtain ⟨h1, h2, h3, -⟩ := segment_keeps hp rfl 0
    (({ r with mainWoken := false, mainRunning := true } : Run σ α).setState r.pool.state) rfl
    (AllParked.setState ht (c.step_refl _))
  exact ⟨⟨h3.settled hQ, h2.of_procs (wakeScan_tasks_procs _), h3.mainKept⟩, h1⟩

/-- Polling a task keeps the contract; the main process stays parked. -/
theorem pollTask_keeps {Q : α → σ → Prop} {r : Run σ α} (id : Nat) (h : c.RunKept Q r) :
    c.RunKept Q (Run.pollTask id r) ∧ c.step r.pool.state (Run.pollTask id r).pool.state := by
  obtain ⟨hs, ht, hm⟩ := h
  simp only [Run.pollTask]
  split
  · exact ⟨⟨hs, ht, hm⟩, c.step_refl _⟩
  · next t hfind =>
    have htp : c.Parked (fun _ => c.settled) t.proc r.pool.state := ht t (List.mem_of_find?_eq_some hfind)
    have hrest := ht.filter (fun u => decide (u.id ≠ id))
    split
    · exact ⟨⟨hs, hrest.insertTask htp, hm⟩, c.step_refl _⟩
    · next p s hres =>
      obtain ⟨hstep, hp⟩ := htp _ hs (c.step_refl _) p s hres
      obtain ⟨h1, h2, h3, h4⟩ := segment_keeps hp rfl id
        (({ r with pool := { r.pool with tasks := r.pool.tasks.filter (·.id ≠ id) } } : Run σ α).setState s)
        rfl (AllParked.setState hrest hstep)
      have hstep' := c.step_trans hstep h1
      have hm' : c.MainKept Q r.main (Run.segment id p
          (({ r with pool := { r.pool with tasks := r.pool.tasks.filter (·.id ≠ id) } } : Run σ α).setState s)).2.pool.state :=
        hm.of_step hstep'
      split
      · refine ⟨⟨h3.settled fun _ _ h => h, ?_, ?_⟩, hstep'⟩
        · exact (h2.insertTask h3.parked).of_procs (wakeScan_tasks_procs _)
        · simp only [wakeScan_main, Run.stamp]
          rw [h4]
          exact hm'
      · refine ⟨⟨h3.settled fun _ _ h => h, h2, ?_⟩, hstep'⟩
        rw [h4]
        exact hm'

/-- Serving the queue keeps the contract. -/
theorem serve_keeps {Q : α → σ → Prop} (budget : Nat) {r : Run σ α} (h : c.RunKept Q r) :
    c.RunKept Q (Run.serve budget r) ∧ c.step r.pool.state (Run.serve budget r).pool.state := by
  induction budget generalizing r with
  | zero => exact ⟨h, c.step_refl _⟩
  | succ budget ih =>
    simp only [Run.serve]
    split
    · exact ⟨h, c.step_refl _⟩
    · next id rest _ =>
      obtain ⟨h1, h2⟩ := pollTask_keeps id
        (r := { r with pool := { r.pool with queue := rest } }) h
      obtain ⟨h3, h4⟩ := ih h1
      exact ⟨h3, c.step_trans h2 h4⟩

/-- Moving time keeps the contract. -/
theorem advanceTo_keeps {Q : α → σ → Prop} (t : Nat) {r : Run σ α} (h : c.RunKept Q r) :
    c.RunKept Q (Run.advanceTo t r) ∧ c.step r.pool.state (Run.advanceTo t r).pool.state := by
  obtain ⟨hs, ht, hm⟩ := h
  have hstep := c.step_setNow r.pool.state t
  refine ⟨⟨c.settled_setNow t hs, ?_, hm.of_step hstep⟩, hstep⟩
  refine (ht.of_step hstep).of_procs ?_
  intro u hu
  simp only [Run.advanceTo, List.mem_map] at hu
  obtain ⟨v, hv, rfl⟩ := hu
  exact ⟨v, hv, by split <;> rfl⟩

/-- One round keeps the contract once its poll of the main process does: serving the queue and
moving time keep it, and so do the rounds after it. -/
theorem drive_succ_keeps {Q : α → σ → Prop} {rounds : Nat}
    (ih : ∀ r : Run σ α, c.RunKept Q r →
      c.RunKept Q (Run.drive rounds r) ∧ c.step r.pool.state (Run.drive rounds r).pool.state)
    {r : Run σ α} (hpoll : c.RunKept Q (if r.mainWoken then Run.pollMain r else r) ∧
      c.step r.pool.state (if r.mainWoken then Run.pollMain r else r).pool.state) :
    c.RunKept Q (Run.drive (rounds + 1) r) ∧
      c.step r.pool.state (Run.drive (rounds + 1) r).pool.state := by
  obtain ⟨h1, h2⟩ := serve_keeps Run.eventInterval hpoll.1
  have h12 := c.step_trans hpoll.2 h2
  rw [Run.drive]
  generalize Run.serve Run.eventInterval (if r.mainWoken = true then Run.pollMain r else r) = r₁
    at h1 h12 ⊢
  split
  · obtain ⟨h3, h4⟩ := ih _ h1
    exact ⟨h3, c.step_trans h12 h4⟩
  · split
    · split
      · next t _ =>
        obtain ⟨h3, h4⟩ := advanceTo_keeps (max t (Runtime.now r₁.pool.state)) h1
        obtain ⟨h5, h6⟩ := ih _ h3
        exact ⟨h5, c.step_trans h12 (c.step_trans h4 h6)⟩
      · exact ⟨h1, h12⟩
    · exact ⟨h1, h12⟩

/-- Driving the run keeps the contract. -/
theorem drive_keeps {Q : α → σ → Prop} (hQ : ∀ a s, Q a s → c.settled s) (rounds : Nat)
    {r : Run σ α} (h : c.RunKept Q r) :
    c.RunKept Q (Run.drive rounds r) ∧ c.step r.pool.state (Run.drive rounds r).pool.state := by
  induction rounds generalizing r with
  | zero => exact ⟨h, c.step_refl _⟩
  | succ rounds ih =>
    -- one round: poll the main process when woken, serve, then go on or move time
    refine drive_succ_keeps (fun _ h' => ih h') ?_
    split
    · exact pollMain_keeps hQ h
    · exact ⟨h, c.step_refl _⟩

end Contract

/-- Running a main process on a pool keeps the contract: when the pool is kept and the main
process is kept there, the pool after the run is kept, its state is related to the state
before by the contract, and when the main process ended, its end condition held in a state the
contract leads from to the one after the run. -/
theorem Pool.run_keeps {σ α : Type} [Runtime σ] {c : Contract σ} {Q : α → σ → Prop}
    (hQ : ∀ a s, Q a s → c.settled s) {pool : Pool σ} {main : Proc σ α} (hpool : c.PoolKept pool)
    (hmain : c.MainKept Q main pool.state) :
    c.PoolKept (pool.run main).2 ∧ c.step pool.state (pool.run main).2.state ∧
      ∀ a, (pool.run main).1 = some a → ∃ s', Q a s' ∧ c.step s' (pool.run main).2.state := by
  obtain ⟨⟨h1, h2, h3⟩, h4⟩ := Contract.drive_keeps hQ Pool.roundFuel
    (r := ({ pool, main, mainWoken := true } : Run σ α)) ⟨hpool.1, hpool.2, hmain⟩
  refine ⟨⟨h1, h2⟩, h4, fun a ha => ?_⟩
  simp only [Pool.run] at ha ⊢
  simpa [Contract.MainKept, ha] using h3

/-- Running a main process that obeys from the state the pool is in: the scheduler polls it
there first, so it need not obey from any other state. -/
theorem Pool.run_keeps_start {σ α : Type} [Runtime σ] {c : Contract σ} {Q : α → σ → Prop}
    (hQ : ∀ a s, Q a s → c.settled s) {pool : Pool σ} {main : Proc σ α} (hpool : c.PoolKept pool)
    (hnb : main.resume pool.state = some (main, pool.state))
    (hmain : c.Obeys [] Q main pool.state) :
    c.PoolKept (pool.run main).2 ∧ c.step pool.state (pool.run main).2.state ∧
      ∀ a, (pool.run main).1 = some a → ∃ s', Q a s' ∧ c.step s' (pool.run main).2.state := by
  have hpoll := Contract.pollMain_keeps_start hQ
    (r := ({ pool, main, mainWoken := true } : Run σ α)) hpool.2 hmain hnb
  obtain ⟨⟨h1, h2, h3⟩, h4⟩ := Contract.drive_succ_keeps
    (fun _ h => Contract.drive_keeps hQ 999999 h)
    (r := ({ pool, main, mainWoken := true } : Run σ α)) hpoll
  refine ⟨⟨h1, h2⟩, h4, fun a ha => ?_⟩
  simp only [Pool.run, Pool.roundFuel] at ha ⊢
  simpa [Contract.MainKept, ha] using h3

/-! ## Main processes that never wait -/

/-- A process that never waits and never unwinds: it runs to its end in one segment. -/
inductive Proc.Straight {σ : Type} : {α : Type} → Proc σ α → Prop
  | pure {α} (a : α) : Straight (.pure a)
  | step {α β} {f : σ → β × σ} {k : β → Proc σ α} : (∀ x, Straight (k x)) → Straight (.step f k)
  | spawn {α} {t : Proc σ Unit} {k : Nat → Proc σ α} : (∀ i, Straight (k i)) →
      Straight (.spawn t k)
  | kill {α} {i : Nat} {k : Proc σ α} : Straight k → Straight (.kill i k)
  | current {α} {k : Nat → Proc σ α} : (∀ i, Straight (k i)) → Straight (.current k)

theorem Proc.Straight.resume {σ α : Type} [Runtime σ] {p : Proc σ α} (hp : p.Straight) (s : σ) :
    p.resume s = some (p, s) := by
  cases hp <;> rfl

theorem Proc.Straight.update {σ β : Type} (f : σ → β × σ) : (Proc.update f).Straight :=
  .step fun _ => .pure _

theorem Proc.Straight.modify {σ : Type} (f : σ → σ) : (Proc.modify f).Straight :=
  .step fun _ => .pure _

theorem Proc.Straight.stop {σ : Type} (i : Nat) : (Proc.stop (σ := σ) i).Straight :=
  .kill (.pure _)

/-- A process that never waits, followed by processes that never wait, never waits. -/
theorem Proc.Straight.bind {σ α β : Type} {p : Proc σ α} {k : α → Proc σ β} (hp : p.Straight)
    (hk : ∀ a, (k a).Straight) : (p >>= k).Straight := by
  induction hp with
  | pure a => exact hk a
  | step _ ih => exact .step fun x => ih x
  | spawn _ ih => exact .spawn fun i => ih i
  | kill _ ih => exact .kill ih
  | current _ ih => exact .current fun i => ih i

namespace Run

variable {σ α : Type} [Runtime σ]

theorem segment_straight {β : Type} {p : Proc σ β} (hp : p.Straight) :
    ∀ (me : Nat) (r : Run σ α), ∃ b, (segment me p r).1 = .pure b := by
  induction hp with
  | pure a => exact fun _ _ => ⟨a, rfl⟩
  | step _ ih => exact fun me r => ih _ me _
  | spawn _ ih => exact fun me r => ih _ me _
  | kill _ ih => exact fun me r => ih me _
  | current _ ih => exact fun me r => ih me me r

/-- The main process has ended with `a`, and nothing will wake it. -/
def Finished (a : α) (r : Run σ α) : Prop :=
  r.main = .pure a ∧ r.mainWoken = false

theorem Finished.wakeScan {a : α} {r : Run σ α} (h : r.Finished a) : (wakeScan r).Finished a :=
  ⟨h.1, by simp [Run.wakeScan, h.1, h.2, Proc.wakeable]⟩

theorem Finished.setState {a : α} {r : Run σ α} (h : r.Finished a) (s : σ) :
    (r.setState s).Finished a :=
  Finished.wakeScan h

/-- A segment of any process leaves a finished main process finished. -/
theorem Finished.segment {a : α} {β : Type} (me : Nat) (p : Proc σ β) :
    ∀ {r : Run σ α}, r.Finished a → (Run.segment me p r).2.Finished a := by
  induction p with
  | pure b => exact fun h => h
  | abort t => exact fun h => h
  | step f k ih => exact fun h => ih _ (h.setState _)
  | block b k ih =>
    intro r h
    simp only [Run.segment]
    split
    · exact ih _ (h.setState _)
    · exact h
  | spawn t k _ ih => exact fun h => ih _ h
  | kill i k ih => exact fun h => ih h
  | current k ih => exact fun h => ih _ h

theorem Finished.pollTask {a : α} {r : Run σ α} (id : Nat) (h : r.Finished a) :
    (pollTask id r).Finished a := by
  simp only [Run.pollTask]
  split
  · exact h
  · next t _ =>
    -- the task leaves the list while it runs; the main process is untouched by that
    have h₀ : Finished a { r with pool := { r.pool with
        tasks := r.pool.tasks.filter (·.id ≠ id) } } := h
    split
    · exact h₀
    · next p s _ =>
      have hseg := Finished.segment id p (h₀.setState s)
      split
      · exact Finished.wakeScan hseg
      · exact hseg

theorem Finished.serve {a : α} (budget : Nat) {r : Run σ α} (h : r.Finished a) :
    (serve budget r).Finished a := by
  induction budget generalizing r with
  | zero => exact h
  | succ budget ih =>
    simp only [Run.serve]
    split
    · exact h
    · exact ih (Finished.pollTask _ h)

theorem Finished.drive {a : α} (rounds : Nat) {r : Run σ α} (h : r.Finished a) :
    (drive rounds r).Finished a := by
  induction rounds generalizing r with
  | zero => exact h
  | succ rounds ih =>
    rw [Run.drive]
    simp only [h.2, Bool.false_eq_true, if_false]
    have hs := Finished.serve eventInterval h
    split
    · exact ih hs
    · simp [hs.1, Proc.isBlocked] at *
      exact hs

/-- The main process's own segment leaves its wake flag down. -/
theorem segment_mainWoken {β : Type} (me : Nat) (p : Proc σ β) :
    ∀ {r : Run σ α}, r.mainRunning = true → r.mainWoken = false →
      (Run.segment me p r).2.mainWoken = false ∧ (Run.segment me p r).2.mainRunning = true := by
  induction p with
  | pure b => exact fun h1 h2 => ⟨h2, h1⟩
  | abort t => exact fun h1 h2 => ⟨h2, h1⟩
  | step f k ih =>
    intro r h1 h2
    exact ih _ h1 (by simp [Run.setState, Run.wakeScan, h1, h2])
  | block b k ih =>
    intro r h1 h2
    simp only [Run.segment]
    split
    · exact ih _ h1 (by simp [Run.setState, Run.wakeScan, h1, h2])
    · exact ⟨h2, h1⟩
  | spawn t k _ ih => exact fun h1 h2 => ih _ h1 h2
  | kill i k ih => exact fun h1 h2 => ih h1 h2
  | current k ih => exact fun h1 h2 => ih _ h1 h2

/-- A main process that never waits has ended after the first poll. -/
theorem pollMain_straight {r : Run σ α} (hp : r.main.Straight) :
    ∃ a, (pollMain r).Finished a := by
  simp only [Run.pollMain, hp.resume]
  -- the main process runs with its flags up, so its own steps cannot wake it
  obtain ⟨a, ha⟩ := segment_straight hp 0
    (({ pool := r.pool, main := r.main, mainRunning := true, mainSince := r.mainSince } :
      Run σ α).setState r.pool.state)
  have hw := segment_mainWoken 0 r.main
    (r := ({ pool := r.pool, main := r.main, mainRunning := true, mainSince := r.mainSince } :
      Run σ α).setState r.pool.state) rfl (by simp [Run.setState, Run.wakeScan])
  refine ⟨a, ?_, ?_⟩
  · simp [Run.wakeScan, ha]
  · simp [Run.wakeScan, Run.stamp, ha, hw.1, Proc.wakeable]

/-- Polling a woken main process that then ends is the first thing a round does. -/
theorem drive_of_woken {r : Run σ α} (n : Nat) (hw : r.mainWoken = true)
    (hw' : (pollMain r).mainWoken = false) : drive (n + 1) r = drive (n + 1) (pollMain r) := by
  rw [Run.drive, Run.drive]
  simp only [hw, hw', if_true, Bool.false_eq_true, if_false]

end Run

/-- A main process that never waits ends, whatever the tasks do. -/
theorem Pool.run_straight {σ α : Type} [Runtime σ] (pool : Pool σ) {main : Proc σ α}
    (hp : main.Straight) : ∃ a, (pool.run main).1 = some a := by
  obtain ⟨a, ha⟩ := Run.pollMain_straight (r := ({ pool, main, mainWoken := true } : Run σ α)) hp
  have hrun : (pool.run main).1 =
      (Run.drive (999999 + 1) ({ pool, main, mainWoken := true } : Run σ α)).main.result? := rfl
  rw [hrun, Run.drive_of_woken _ rfl ha.2]
  exact ⟨a, by simp [(Run.Finished.drive _ ha).1, Proc.result?]⟩

/-- A main process that never waits and obeys from the state the pool is in ends in its end
condition, and the pool stays kept. -/
theorem Pool.run_straight_keeps {σ α : Type} [Runtime σ] {c : Contract σ} {Q : α → σ → Prop}
    (hQ : ∀ a s, Q a s → c.settled s) {pool : Pool σ} {main : Proc σ α} (hpool : c.PoolKept pool)
    (hp : main.Straight) (hmain : c.Obeys [] Q main pool.state) :
    c.PoolKept (pool.run main).2 ∧ c.step pool.state (pool.run main).2.state ∧
      ∃ a s', (pool.run main).1 = some a ∧ Q a s' ∧ c.step s' (pool.run main).2.state := by
  obtain ⟨a, hfin⟩ := Run.pollMain_straight (r := ({ pool, main, mainWoken := true } : Run σ α)) hp
  obtain ⟨hpoll, hstep₁⟩ := Contract.pollMain_keeps_start hQ
    (r := ({ pool, main, mainWoken := true } : Run σ α)) hpool.2 hmain (hp.resume _)
  -- the first round polls the main process, which ends there; the rest only serves tasks
  have hrun : pool.run main = ((Run.drive (999999 + 1)
      (Run.pollMain ({ pool, main, mainWoken := true } : Run σ α))).main.result?,
      (Run.drive (999999 + 1) (Run.pollMain ({ pool, main, mainWoken := true } : Run σ α))).pool) := by
    rw [← Run.drive_of_woken _ rfl hfin.2]
    rfl
  obtain ⟨⟨h1, h2, h3⟩, h4⟩ := Contract.drive_keeps hQ (999999 + 1) hpoll
  have hmainEnd := (Run.Finished.drive (999999 + 1) hfin).1
  rw [hrun]
  refine ⟨⟨h1, h2⟩, c.step_trans hstep₁ h4, a, ?_⟩
  rw [hmainEnd] at h3
  obtain ⟨s', hq, hs'⟩ := h3
  refine ⟨s', ?_, hq, hs'⟩
  rw [hmainEnd]
  rfl

end MarketChat
