import MarketChat.Proofs.RelyGuarantee
import MarketChat.Proofs.ContractScheduler
/-!
# The scheduler keeps rely–guarantee contracts

When the main process obeys a `RelyGuarantee` as number 0 and every task obeys it under its own
number, so does every run of the scheduler. Each task relies on whatever the others do, so the
numbers must be told apart: the tasks' numbers are positive, below the pool's next number, and
apart (`Pool.Numbered`), and a started task takes the next number, which the state does not
name yet: every number from the next one on stays `fresh`, since each step is one that every
other number relies on. While a task runs, the others are all numbered otherwise, and so is the
main process.

The argument follows the scheduler's layers, as `Contract.drive_keeps` does: a segment
(`segment_keeps`), polling the main process or a task (`pollMain_keeps`, `pollTask_keeps`),
serving, moving time (`advanceTo_keeps`). It never looks at the order in which the scheduler
picks its steps, so it covers every order it could pick them in (`Run.Interleaves`): polling the
main process or any task, serving from any queue, moving time to any point.

Main statements: `RelyGuarantee.RunKept.interleaves`, `RelyGuarantee.Pool.run_keeps`.
-/

namespace MarketChat

/-- The numbers of a pool's tasks are positive, below the next number, and apart. -/
def Pool.Numbered {σ : Type} (pool : Pool σ) : Prop :=
  0 < pool.nextTask ∧ (∀ t ∈ pool.tasks, 0 < t.id ∧ t.id < pool.nextTask) ∧
    (pool.tasks.map (·.id)).Nodup

namespace Run

variable {σ α : Type} [Runtime σ]

/-- Putting a task back only reorders the list. -/
theorem insertTask_perm {σ : Type} (u : Task σ) (ts : List (Task σ)) :
    (insertTask u ts).Perm (u :: ts) := by
  induction ts with
  | nil => exact .refl _
  | cons t ts ih =>
    simp only [insertTask]
    split
    · exact .refl _
    · exact (ih.cons t).trans (.swap u t ts)

/-- Marking a task queued keeps its number and process. -/
theorem markQueued_id_proc {σ : Type} {P : Prop} [Decidable P] (t : Task σ) :
    (if P then { t with queued := true } else t).id = t.id ∧
      (if P then { t with queued := true } else t).proc = t.proc := by
  split <;> exact ⟨rfl, rfl⟩

/-- The runs the scheduler could reach from a run by taking its steps in any order. -/
inductive Interleaves : Run σ α → Run σ α → Prop
  | refl (r : Run σ α) : Interleaves r r
  | pollMain {r r' : Run σ α} : Interleaves r r' → Interleaves r (pollMain r')
  | pollTask {r r' : Run σ α} (id : Nat) : Interleaves r r' → Interleaves r (pollTask id r')
  | advanceTo {r r' : Run σ α} (t : Nat) : Interleaves r r' → Interleaves r (advanceTo t r')
  | requeue {r r' : Run σ α} (q : List Nat) (woken : Bool) : Interleaves r r' →
      Interleaves r { r' with pool := { r'.pool with queue := q }, mainWoken := woken }

theorem Interleaves.trans {r₁ r₂ r₃ : Run σ α} (h₁ : Interleaves r₁ r₂)
    (h₂ : Interleaves r₂ r₃) : Interleaves r₁ r₃ := by
  induction h₂ with
  | refl => exact h₁
  | pollMain _ ih => exact .pollMain ih
  | pollTask id _ ih => exact .pollTask id ih
  | advanceTo t _ ih => exact .advanceTo t ih
  | requeue q woken _ ih => exact .requeue q woken ih

theorem Interleaves.serve (budget : Nat) (r : Run σ α) : Interleaves r (serve budget r) := by
  induction budget generalizing r with
  | zero => exact .refl r
  | succ budget ih =>
    simp only [Run.serve]
    split
    · exact .refl r
    · next id rest _ =>
      -- serving takes the head of the queue off, then polls that task
      have hpop : Interleaves r { r with pool := { r.pool with queue := rest } } :=
        .requeue rest r.mainWoken (.refl r)
      exact hpop.trans ((Interleaves.pollTask id (.refl _)).trans (ih _))

/-- After its poll of the main process, a round and the rounds after it take their steps in one
of the orders, when the later rounds do. -/
theorem Interleaves.drive_succ {rounds : Nat} (ih : ∀ r : Run σ α, Interleaves r (drive rounds r))
    (r : Run σ α) :
    Interleaves (if r.mainWoken then Run.pollMain r else r) (drive (rounds + 1) r) := by
  rw [Run.drive]
  generalize (if r.mainWoken = true then Run.pollMain r else r) = r₀
  have hserve := Interleaves.serve eventInterval r₀
  generalize Run.serve eventInterval r₀ = r₁ at hserve ⊢
  split
  · exact hserve.trans (ih r₁)
  · split
    · split
      · next t _ => exact hserve.trans ((Interleaves.advanceTo _ (.refl r₁)).trans (ih _))
      · exact hserve
    · exact hserve

/-- Driving the run takes its steps in one of the orders. -/
theorem Interleaves.drive (rounds : Nat) (r : Run σ α) : Interleaves r (drive rounds r) := by
  induction rounds generalizing r with
  | zero => exact .refl r
  | succ rounds ih =>
    have hpoll : Interleaves r (if r.mainWoken then Run.pollMain r else r) := by
      split
      · exact .pollMain (.refl r)
      · exact .refl r
    exact hpoll.trans (Interleaves.drive_succ ih r)

end Run

namespace Pool

variable {σ : Type}

/-- Marking the tasks keeps them numbered. -/
theorem Numbered.map {p p' : Pool σ} (h : p.Numbered) (hn : p'.nextTask = p.nextTask)
    {f : Task σ → Task σ} (hf : ∀ t, (f t).id = t.id ∧ (f t).proc = t.proc)
    (hts : p'.tasks = p.tasks.map f) : p'.Numbered := by
  obtain ⟨h0, hrange, hnodup⟩ := h
  have hids : p'.tasks.map (·.id) = p.tasks.map (·.id) := by
    rw [hts, List.map_map]
    exact List.map_congr_left fun t _ => (hf t).1
  refine ⟨hn ▸ h0, fun u hu => ?_, hids ▸ hnodup⟩
  rw [hts] at hu
  obtain ⟨t, ht, rfl⟩ := List.mem_map.1 hu
  rw [(hf t).1, hn]
  exact hrange t ht

/-- Dropping tasks keeps the rest numbered. -/
theorem Numbered.sublist {p p' : Pool σ} (h : p.Numbered) (hn : p'.nextTask = p.nextTask)
    (hsub : p'.tasks.Sublist p.tasks) : p'.Numbered :=
  ⟨hn ▸ h.1, fun u hu => hn ▸ h.2.1 u (hsub.subset hu), h.2.2.sublist (hsub.map _)⟩

/-- A task put back under a number of the range that no other task has keeps them numbered. -/
theorem Numbered.insertTask {p p' : Pool σ} {u : Task σ} (h : p.Numbered)
    (hn : p'.nextTask = p.nextTask) (hts : p'.tasks = Run.insertTask u p.tasks)
    (hu : 0 < u.id ∧ u.id < p.nextTask) (hfresh : ∀ t ∈ p.tasks, t.id ≠ u.id) :
    p'.Numbered := by
  have hperm : p'.tasks.Perm (u :: p.tasks) := hts ▸ Run.insertTask_perm u p.tasks
  refine ⟨hn ▸ h.1, fun v hv => ?_, ?_⟩
  · rcases List.mem_cons.1 (hperm.mem_iff.1 hv) with rfl | hv
    · exact hn ▸ hu
    · exact hn ▸ h.2.1 v hv
  · refine (hperm.map _).nodup_iff.2 (List.nodup_cons.2 ⟨?_, h.2.2⟩)
    simp only [List.mem_map, not_exists, not_and]
    exact fun t ht hid => hfresh t ht hid

/-- A task started under the next number keeps them numbered. -/
theorem Numbered.spawn {p : Pool σ} (h : p.Numbered) (t : Proc σ Unit) (q : List Nat) :
    Numbered { p with
      tasks := p.tasks ++ [{ id := p.nextTask, proc := t }]
      queue := q
      nextTask := p.nextTask + 1 } := by
  obtain ⟨h0, hrange, hnodup⟩ := h
  refine ⟨Nat.succ_pos _, fun u hu => ?_, ?_⟩
  · dsimp only at hu ⊢
    rcases List.mem_append.1 hu with hu | hu
    · exact ⟨(hrange u hu).1, Nat.lt_succ_of_lt (hrange u hu).2⟩
    · rw [List.mem_singleton.1 hu]
      exact ⟨h0, Nat.lt_succ_self _⟩
  · -- the new number is above every old one
    dsimp only
    rw [List.map_append, List.nodup_append]
    refine ⟨hnodup, by simp, ?_⟩
    simp only [List.map_cons, List.map_nil, List.mem_singleton, List.mem_map]
    rintro _ ⟨u, hu, rfl⟩ _ rfl
    exact Nat.ne_of_lt (hrange u hu).2

end Pool

namespace RelyGuarantee

variable {σ α : Type} [Runtime σ] (rg : RelyGuarantee σ)

/-- Every task of a list is parked under its own number in the state `s`. -/
def AllParked (s : σ) (ts : List (Task σ)) : Prop :=
  ∀ t ∈ ts, rg.Parked t.id (fun _ => rg.settled) t.proc s

/-- The main process, number 0, between two polls: once finished, its end condition held in a
state it relies on having led to `s`; before, it is parked in `s`. -/
def MainKept (Q : α → σ → Prop) (p : Proc σ α) (s : σ) : Prop :=
  match p.result? with
  | some a => ∃ s', Q a s' ∧ rg.rely 0 s' s
  | none => rg.Parked 0 Q p s

/-- A run between two polls: its state is settled, its tasks are parked there and numbered, and
its main process is kept. -/
structure RunKept (Q : α → σ → Prop) (r : Run σ α) : Prop where
  settled : rg.settled r.pool.state
  parked : rg.AllParked r.pool.state r.pool.tasks
  main : rg.MainKept Q r.main r.pool.state
  numbered : r.pool.Numbered
  fresh : ∀ j, r.pool.nextTask ≤ j → rg.fresh j r.pool.state

/-- A pool between two runs: its state is settled, its tasks are parked there and numbered. -/
structure PoolKept (pool : Pool σ) : Prop where
  settled : rg.settled pool.state
  parked : rg.AllParked pool.state pool.tasks
  numbered : pool.Numbered
  fresh : ∀ j, pool.nextTask ≤ j → rg.fresh j pool.state

/-- How a segment leaves its process: finished in `Q`, unwound in a settled state, or waiting
for a condition that does not hold yet. -/
def Yielded (me : Nat) {β : Type} (Q : β → σ → Prop) : Proc σ β → σ → Prop
  | .pure b, s => Q b s
  | .abort t, s => Runtime.cancelled s t = true ∧ rg.settled s
  | .block b k, s => rg.Obeys me [] Q (.block b k) s ∧ b.ready s = none
  | _, _ => False

/-- The other tasks of a pool while task `me` runs: parked, none numbered `me`, numbered, `me`
below the next number, and the numbers from the next one on not taken. -/
structure Aside (me : Nat) (pool : Pool σ) : Prop where
  parked : rg.AllParked pool.state pool.tasks
  others : ∀ t ∈ pool.tasks, t.id ≠ me
  numbered : pool.Numbered
  below : me < pool.nextTask
  fresh : ∀ j, pool.nextTask ≤ j → rg.fresh j pool.state

/-- What task `me` does while it runs, as the run and the others see it: a step of the run, and
for every other number something it relies on. -/
def Moved (me : Nat) (s s' : σ) : Prop :=
  rg.step s s' ∧ ∀ j, j ≠ me → rg.rely j s s'

variable {rg}

/-! ## Task lists -/

/-- A list whose every task has the number and process of a task of a parked list is parked. -/
theorem AllParked.of_tasks {s : σ} {ts us : List (Task σ)} (h : rg.AllParked s ts)
    (hus : ∀ u ∈ us, ∃ t ∈ ts, t.id = u.id ∧ t.proc = u.proc) : rg.AllParked s us := by
  intro u hu
  obtain ⟨t, ht, hid, hp⟩ := hus u hu
  rw [← hid, ← hp]
  exact h t ht

theorem AllParked.of_rely {s s' : σ} {ts : List (Task σ)} (h : rg.AllParked s ts)
    (hs : ∀ t ∈ ts, rg.rely t.id s s') : rg.AllParked s' ts :=
  fun t ht => (h t ht).of_rely (hs t ht)

theorem AllParked.filter {s : σ} {ts : List (Task σ)} (h : rg.AllParked s ts)
    (p : Task σ → Bool) : rg.AllParked s (ts.filter p) :=
  fun t ht => h t (List.mem_filter.1 ht).1

/-- Marking tasks keeps their numbers and processes. -/
theorem AllParked.map {s : σ} {ts : List (Task σ)} (h : rg.AllParked s ts) {f : Task σ → Task σ}
    (hf : ∀ t, (f t).id = t.id ∧ (f t).proc = t.proc) : rg.AllParked s (ts.map f) := by
  intro u hu
  obtain ⟨t, ht, rfl⟩ := List.mem_map.1 hu
  rw [(hf t).1, (hf t).2]
  exact h t ht

theorem AllParked.insertTask {s : σ} {ts : List (Task σ)} {u : Task σ} (h : rg.AllParked s ts)
    (hu : rg.Parked u.id (fun _ => rg.settled) u.proc s) : rg.AllParked s (Run.insertTask u ts) := by
  intro v hv
  rcases List.mem_cons.1 ((Run.insertTask_perm u ts).mem_iff.1 hv) with rfl | hv
  · exact hu
  · exact h v hv

/-! ## Steps of one task -/

theorem Moved.refl (me : Nat) (s : σ) : rg.Moved me s s :=
  ⟨rg.step_refl s, fun j _ => rg.rely_refl j s⟩

theorem Moved.trans {me : Nat} {s₁ s₂ s₃ : σ} (h₁ : rg.Moved me s₁ s₂)
    (h₂ : rg.Moved me s₂ s₃) : rg.Moved me s₁ s₃ :=
  ⟨rg.step_trans h₁.1 h₂.1, fun j hj => rg.rely_trans (h₁.2 j hj) (h₂.2 j hj)⟩

/-- A step of task `me` is one every other number relies on. -/
theorem Moved.of_guar {me : Nat} {s s' : σ} (h : rg.guar me s s') : rg.Moved me s s' :=
  ⟨rg.step_of_guar h, fun _ hj => rg.rely_of_guar (Ne.symm hj) h⟩

/-! ## The others while one task runs -/

/-- Waking tasks marks them queued in place. -/
theorem wakeScan_tasks (r : Run σ α) : (Run.wakeScan r).pool.tasks = r.pool.tasks.map fun t =>
    if !t.queued && t.proc.wakeable r.pool.state then { t with queued := true } else t := by
  simp only [Run.wakeScan]
  generalize r.pool.tasks = ts
  induction ts with
  | nil => rfl
  | cons t ts ih =>
    simp only [List.foldr_cons, List.map_cons]
    split <;> simp_all

theorem Aside.wakeScan {me : Nat} {r : Run σ α} (h : rg.Aside me r.pool) :
    rg.Aside me (Run.wakeScan r).pool where
  parked := (wakeScan_tasks r) ▸ h.parked.map fun t => Run.markQueued_id_proc t
  others u hu := by
    rw [wakeScan_tasks] at hu
    obtain ⟨t, ht, rfl⟩ := List.mem_map.1 hu
    rw [(Run.markQueued_id_proc t).1]
    exact h.others t ht
  numbered := h.numbered.map rfl (fun t => Run.markQueued_id_proc t) (wakeScan_tasks r)
  below := h.below
  fresh := h.fresh

/-- A step of the running task moves the others along: each relies on it. -/
theorem Aside.setState {me : Nat} {r : Run σ α} {s : σ} (h : rg.Aside me r.pool)
    (hs : rg.Moved me r.pool.state s) : rg.Aside me (r.setState s).pool :=
  Aside.wakeScan (r := { r with pool := { r.pool with state := s } })
    ⟨h.parked.of_rely fun t ht => hs.2 t.id (h.others t ht), h.others, h.numbered, h.below,
      fun j hj => rg.fresh_of_rely (hs.2 j (Nat.ne_of_gt (Nat.lt_of_lt_of_le h.below hj)))
        (h.fresh j hj)⟩

/-- A started task takes the next number, which is not the running task's. -/
theorem Aside.spawn {me : Nat} {p : Pool σ} {t : Proc σ Unit} (h : rg.Aside me p)
    (ht : ∀ j, j ≠ me → rg.fresh j p.state → rg.Parked j (fun _ => rg.settled) t p.state) :
    rg.Aside me { p with
      tasks := p.tasks ++ [{ id := p.nextTask, proc := t }]
      queue := p.queue ++ [p.nextTask]
      nextTask := p.nextTask + 1 } where
  parked u hu := by
    rcases List.mem_append.1 hu with hu | hu
    · exact h.parked u hu
    · rw [List.mem_singleton.1 hu]
      exact ht _ (Nat.ne_of_gt h.below) (h.fresh _ (Nat.le_refl _))
  others u hu := by
    rcases List.mem_append.1 hu with hu | hu
    · exact h.others u hu
    · rw [List.mem_singleton.1 hu]
      exact Nat.ne_of_gt h.below
  numbered := h.numbered.spawn t _
  below := Nat.lt_succ_of_lt h.below
  fresh j hj := h.fresh j (Nat.le_of_succ_le hj)

theorem Aside.kill {me i : Nat} {p : Pool σ} (h : rg.Aside me p) :
    rg.Aside me { p with
      tasks := p.tasks.filter (·.id ≠ i)
      queue := p.queue.filter (· ≠ i) } where
  parked := h.parked.filter _
  others u hu := h.others u (List.mem_filter.1 hu).1
  numbered := h.numbered.sublist rfl List.filter_sublist
  below := h.below
  fresh := h.fresh

/-- Taking a sequence number moves no task. -/
theorem Aside.stamp {me : Nat} {r : Run σ α} (h : rg.Aside me r.pool) :
    rg.Aside me r.stamp.2.pool :=
  ⟨h.parked, h.others, h.numbered, h.below, h.fresh⟩

/-! ## Segments -/

theorem Yielded.settled {me : Nat} {β : Type} {Q : β → σ → Prop}
    (hQ : ∀ b s, Q b s → rg.settled s) {p : Proc σ β} {s : σ} (h : rg.Yielded me Q p s) :
    rg.settled s := by
  cases p with
  | pure b => exact hQ b s h
  | abort t => exact h.2
  | block b k =>
    obtain ⟨hb, hr⟩ := h
    cases hb with
    | block _ _ hwait _ _ _ => exact hwait hr
  | step f k => exact h.elim
  | spawn t k => exact h.elim
  | kill i k => exact h.elim
  | current k => exact h.elim

/-- A task left where its segment ended is parked there under its number. -/
theorem Yielded.parked {me : Nat} {β : Type} {p : Proc σ β} {s : σ}
    (h : rg.Yielded me (fun _ => rg.settled) p s) : rg.Parked me (fun _ => rg.settled) p s := by
  cases p with
  | pure b => exact parked_of_obeys fun s₁ hs₁ _ => .pure hs₁
  | abort t => exact parked_of_obeys fun s₁ hs₁ hr => .abort (rg.cancelled_of_rely hr h.1) hs₁
  | block b k => exact h.1.parked
  | step f k => exact h.elim
  | spawn t k => exact h.elim
  | kill i k => exact h.elim
  | current k => exact h.elim

/-- The main process left where its segment ended is kept there. -/
theorem Yielded.mainKept {Q : α → σ → Prop} {p : Proc σ α} {s : σ} (h : rg.Yielded 0 Q p s) :
    rg.MainKept Q p s := by
  cases p with
  | pure b => exact ⟨s, h, rg.rely_refl 0 s⟩
  | abort t => exact parked_of_obeys fun s₁ hs₁ hr => .abort (rg.cancelled_of_rely hr h.1) hs₁
  | block b k => exact h.1.parked
  | step f k => exact h.elim
  | spawn t k => exact h.elim
  | kill i k => exact h.elim
  | current k => exact h.elim

theorem MainKept.of_rely {Q : α → σ → Prop} {p : Proc σ α} {s s' : σ} (h : rg.MainKept Q p s)
    (hs : rg.rely 0 s s') : rg.MainKept Q p s' := by
  unfold MainKept at h ⊢
  split
  · next a ha =>
    rw [ha] at h
    obtain ⟨s₀, hq, hs₀⟩ := h
    exact ⟨s₀, hq, rg.rely_trans hs₀ hs⟩
  · next ha =>
    rw [ha] at h
    exact h.of_rely hs

/-- A main process that obeys from every later settled state is kept. -/
theorem MainKept.of_obeys {Q : α → σ → Prop} {p : Proc σ α} {s : σ} (hs : rg.settled s)
    (h : ∀ s₁, rg.settled s₁ → rg.rely 0 s s₁ → rg.Obeys 0 [] Q p s₁) : rg.MainKept Q p s := by
  cases p with
  | pure a =>
    cases h s hs (rg.rely_refl 0 s) with
    | pure hq => exact ⟨s, hq, rg.rely_refl 0 s⟩
  | abort t => exact parked_of_obeys h
  | step f k => exact parked_of_obeys h
  | block b k => exact parked_of_obeys h
  | spawn t k => exact parked_of_obeys h
  | kill i k => exact parked_of_obeys h
  | current k => exact parked_of_obeys h

/-- A segment of task `me` keeps the contract: what it does is a step of the run the others
rely on, the others (those it started among them) stay aside, its process is left finished,
unwound or waiting, and the main process is not touched. -/
theorem segment_keeps {me : Nat} {gs : List Nat} {β : Type} {Q : β → σ → Prop} {p : Proc σ β}
    {s : σ} (hp : rg.Obeys me gs Q p s) : gs = [] → ∀ r : Run σ α, r.pool.state = s →
      rg.Aside me r.pool →
      rg.Moved me s (Run.segment me p r).2.pool.state ∧ rg.Aside me (Run.segment me p r).2.pool ∧
      rg.Yielded me Q (Run.segment me p r).1 (Run.segment me p r).2.pool.state ∧
      (Run.segment me p r).2.main = r.main := by
  induction hp with
  | pure hq =>
    intro _ r hr ha
    subst hr
    exact ⟨.refl _ _, ha, hq, rfl⟩
  | abort hc hs =>
    intro _ r hr ha
    subst hr
    exact ⟨.refl _ _, ha, ⟨hc, hs⟩, rfl⟩
  | @step me _ _ _ _ f k s hs _ ih =>
    intro hgs r hr ha
    subst hr
    obtain ⟨h1, h2, h3, h4⟩ := ih hgs (r.setState (f r.pool.state).2) rfl
      (ha.setState (.of_guar hs))
    exact ⟨(Moved.of_guar hs).trans h1, h2, h3, h4⟩
  | @block me _ _ _ _ b k s hnow hknow hwait habort hready hkready ihnow _ _ =>
    intro hgs r hr ha
    subst hr hgs
    simp only [Run.segment]
    split
    · next v s' hv =>
      obtain ⟨h1, h2, h3, h4⟩ := ihnow v s' hv rfl (r.setState s') rfl
        (ha.setState (.of_guar (hnow v s' hv)))
      exact ⟨(Moved.of_guar (hnow v s' hv)).trans h1, h2, h3, h4⟩
    · next hv =>
      exact ⟨.refl _ _, ha, ⟨.block hnow hknow hwait habort hready hkready, hv⟩, rfl⟩
  | @spawn me _ _ _ t k s hts htp _ _ ihk =>
    intro hgs r hr ha
    subst hr
    -- the new task is parked under its number, which is not `me`
    have hnew : ∀ j, j ≠ me → rg.fresh j r.pool.state →
        rg.Parked j (fun _ => rg.settled) t r.pool.state :=
      fun j hj hf s₁ hs₁ hr p' s' hres =>
        ⟨hts j hj hf s₁ hs₁ hr p' s' hres, htp j hj hf s₁ hs₁ hr p' s' hres⟩
    exact ihk _ hgs _ rfl (ha.spawn hnew)
  | kill _ ih =>
    intro hgs r hr ha
    subst hr
    exact ih hgs _ rfl ha.kill
  | current _ ih =>
    intro hgs r hr ha
    subst hr
    exact ih hgs r rfl ha

/-! ## Polling and moving time -/

/-- The main process is numbered 0, apart from every task. -/
theorem PoolKept.aside {pool : Pool σ} (h : rg.PoolKept pool) : rg.Aside 0 pool where
  parked := h.parked
  others t ht := Nat.ne_of_gt (h.numbered.2.1 t ht).1
  numbered := h.numbered
  below := h.numbered.1
  fresh := h.fresh

theorem RunKept.aside {Q : α → σ → Prop} {r : Run σ α} (h : rg.RunKept Q r) : rg.Aside 0 r.pool :=
  PoolKept.aside ⟨h.settled, h.parked, h.numbered, h.fresh⟩

theorem PoolKept.wakeScan {r : Run σ α} (h : rg.PoolKept r.pool) :
    rg.PoolKept (Run.wakeScan r).pool where
  settled := h.settled
  parked := (wakeScan_tasks r) ▸ h.parked.map fun t => Run.markQueued_id_proc t
  numbered := h.numbered.map rfl (fun t => Run.markQueued_id_proc t) (wakeScan_tasks r)
  fresh := h.fresh

/-- The run after a segment of the main process, with the process put back: kept. -/
theorem RunKept.of_mainSegment {Q : α → σ → Prop} {p : Proc σ α} {r : Run σ α}
    (ha : rg.Aside 0 r.pool) (hs : rg.settled r.pool.state) (hm : rg.MainKept Q p r.pool.state) :
    rg.RunKept Q (Run.wakeScan { r.stamp.2 with
      main := p, mainRunning := false, mainSince := r.stamp.1 }) :=
  have hk := PoolKept.wakeScan (r := { r.stamp.2 with
    main := p, mainRunning := false, mainSince := r.stamp.1 })
    ⟨hs, ha.parked, ha.numbered, ha.fresh⟩
  ⟨hk.settled, hk.parked, hm, hk.numbered, hk.fresh⟩

/-- A task put back where its segment left it, under its own number: the run is kept. -/
theorem RunKept.putBack {Q : α → σ → Prop} {me seq : Nat} {r : Run σ α} {p : Proc σ Unit}
    (ha : rg.Aside me r.pool) (hs : rg.settled r.pool.state)
    (hp : rg.Parked me (fun _ => rg.settled) p r.pool.state) (hme : 0 < me)
    (hm : rg.MainKept Q r.main r.pool.state) :
    rg.RunKept Q (Run.wakeScan { r with pool := { r.pool with
      tasks := Run.insertTask { id := me, proc := p, queued := false, since := seq }
        r.pool.tasks } }) :=
  have hk := PoolKept.wakeScan (r := { r with pool := { r.pool with
      tasks := Run.insertTask { id := me, proc := p, queued := false, since := seq }
        r.pool.tasks } })
    ⟨hs, ha.parked.insertTask hp, ha.numbered.insertTask rfl rfl ⟨hme, ha.below⟩ ha.others,
      ha.fresh⟩
  ⟨hk.settled, hk.parked, hm, hk.numbered, hk.fresh⟩

/-- Polling the main process keeps the contract. -/
theorem pollMain_keeps {Q : α → σ → Prop} (hQ : ∀ a s, Q a s → rg.settled s) {r : Run σ α}
    (h : rg.RunKept Q r) :
    rg.RunKept Q (Run.pollMain r) ∧ rg.step r.pool.state (Run.pollMain r).pool.state := by
  simp only [Run.pollMain]
  split
  · exact ⟨⟨h.settled, h.parked, h.main, h.numbered, h.fresh⟩, rg.step_refl _⟩
  · next p s hres =>
    cases hmain : r.main.result? with
    | some a =>
      -- a finished main process is resumed as it is, and its segment does nothing
      have hp : r.main = .pure a := by
        revert hmain; cases r.main <;> simp [Proc.result?]
      rw [hp] at hres
      simp only [Proc.resume, Option.some.injEq, Prod.mk.injEq] at hres
      obtain ⟨rfl, rfl⟩ := hres
      have hm := h.main
      simp only [MainKept, hmain] at hm
      have hm : rg.MainKept Q (.pure a) r.pool.state := hp ▸ h.main
      rw [hp]
      exact ⟨RunKept.of_mainSegment (Aside.setState h.aside (.refl 0 _)) h.settled hm,
        rg.step_refl _⟩
    | none =>
      have hm := h.main
      simp only [MainKept, hmain] at hm
      obtain ⟨hstep, hp⟩ := hm _ h.settled (rg.rely_refl _ _) p s hres
      obtain ⟨h1, h2, h3, -⟩ := segment_keeps hp rfl
        (({ r with mainWoken := false, mainRunning := true } : Run σ α).setState s) rfl
        (Aside.setState h.aside (.of_guar hstep))
      exact ⟨RunKept.of_mainSegment h2 (h3.settled hQ) h3.mainKept,
        rg.step_trans (rg.step_of_guar hstep) h1.1⟩

/-- Polling a main process that has not run yet, in the state it starts in: it only has to obey
from there. -/
theorem pollMain_keeps_start {Q : α → σ → Prop} (hQ : ∀ a s, Q a s → rg.settled s)
    {r : Run σ α} (hpool : rg.PoolKept r.pool) (hp : rg.Obeys 0 [] Q r.main r.pool.state)
    (hnb : r.main.resume r.pool.state = some (r.main, r.pool.state)) :
    rg.RunKept Q (Run.pollMain r) ∧ rg.step r.pool.state (Run.pollMain r).pool.state := by
  simp only [Run.pollMain, hnb]
  obtain ⟨h1, h2, h3, -⟩ := segment_keeps hp rfl
    (({ r with mainWoken := false, mainRunning := true } : Run σ α).setState r.pool.state) rfl
    (Aside.setState hpool.aside (.refl 0 _))
  exact ⟨RunKept.of_mainSegment h2 (h3.settled hQ) h3.mainKept, h1.1⟩

/-- Polling a task keeps the contract: it runs under its own number, and the other tasks and
the main process rely on what it does. -/
theorem pollTask_keeps {Q : α → σ → Prop} {r : Run σ α} (id : Nat) (h : rg.RunKept Q r) :
    rg.RunKept Q (Run.pollTask id r) ∧ rg.step r.pool.state (Run.pollTask id r).pool.state := by
  simp only [Run.pollTask]
  split
  · exact ⟨h, rg.step_refl _⟩
  · next t hfind =>
    have htmem := List.mem_of_find?_eq_some hfind
    have hid : t.id = id := by simpa using List.find?_some hfind
    subst hid
    have hrange := h.numbered.2.1 t htmem
    -- the other tasks, aside while `t` runs
    have ha : rg.Aside t.id { r.pool with tasks := r.pool.tasks.filter (·.id ≠ t.id) } :=
      ⟨h.parked.filter _, fun u hu => by simpa using (List.mem_filter.1 hu).2,
        h.numbered.sublist rfl List.filter_sublist, hrange.2, h.fresh⟩
    have htp := h.parked t htmem
    split
    · exact ⟨⟨h.settled, ha.parked.insertTask htp, h.main,
        ha.numbered.insertTask rfl rfl hrange ha.others, h.fresh⟩, rg.step_refl _⟩
    · next p s hres =>
      obtain ⟨hstep, hp⟩ := htp _ h.settled (rg.rely_refl _ _) p s hres
      obtain ⟨h1, h2, h3, h4⟩ := segment_keeps hp rfl _ rfl
        (Aside.setState (r := { r with pool := { r.pool with
          tasks := r.pool.tasks.filter (·.id ≠ t.id) } }) ha (.of_guar hstep))
      have hmoved := (Moved.of_guar hstep).trans h1
      -- the main process relies on the task's steps, 0 being no task's number
      have hm := Eq.subst (motive := fun m => rg.MainKept Q m _) h4.symm
        (h.main.of_rely (hmoved.2 0 (Nat.ne_of_lt hrange.1)))
      split
      · -- the task waits again: put back under its number, which no other task has
        exact ⟨RunKept.putBack h2.stamp (h3.settled fun _ _ h => h) h3.parked hrange.1 hm,
          hmoved.1⟩
      · exact ⟨⟨h3.settled fun _ _ h => h, h2.parked, hm, h2.numbered, h2.fresh⟩, hmoved.1⟩

/-- Moving time keeps the contract: every process relies on the clock moving. -/
theorem advanceTo_keeps {Q : α → σ → Prop} (t : Nat) {r : Run σ α} (h : rg.RunKept Q r) :
    rg.RunKept Q (Run.advanceTo t r) ∧ rg.step r.pool.state (Run.advanceTo t r).pool.state := by
  refine ⟨⟨rg.settled_setNow t h.settled, ?_, h.main.of_rely (rg.rely_setNow 0 _ t), ?_,
    fun j hj => rg.fresh_of_rely (rg.rely_setNow j _ t) (h.fresh j hj)⟩, rg.step_setNow _ t⟩
  · exact (h.parked.of_rely fun u _ => rg.rely_setNow u.id _ t).map
      fun u => Run.markQueued_id_proc u
  · exact h.numbered.map rfl (fun u => Run.markQueued_id_proc u) rfl

/-! ## Every order of the scheduler's steps -/

/-- **Soundness.** In whatever order the scheduler takes its steps, the run stays kept, and its
state is a step of the run away from where it began. -/
theorem RunKept.interleaves {Q : α → σ → Prop} (hQ : ∀ a s, Q a s → rg.settled s)
    {r r' : Run σ α} (hr : Run.Interleaves r r') (h : rg.RunKept Q r) :
    rg.RunKept Q r' ∧ rg.step r.pool.state r'.pool.state := by
  induction hr with
  | refl => exact ⟨h, rg.step_refl _⟩
  | pollMain _ ih =>
    obtain ⟨h3, h4⟩ := pollMain_keeps hQ ih.1
    exact ⟨h3, rg.step_trans ih.2 h4⟩
  | pollTask id _ ih =>
    obtain ⟨h3, h4⟩ := pollTask_keeps id ih.1
    exact ⟨h3, rg.step_trans ih.2 h4⟩
  | advanceTo t _ ih =>
    obtain ⟨h3, h4⟩ := advanceTo_keeps t ih.1
    exact ⟨h3, rg.step_trans ih.2 h4⟩
  | requeue q woken _ ih =>
    -- the queue and the wake flag are not part of what is kept
    exact ⟨⟨ih.1.settled, ih.1.parked, ih.1.main, ih.1.numbered, ih.1.fresh⟩, ih.2⟩

/-- Running a main process on a pool keeps the contract: when the pool is kept and the main
process is kept there as number 0, the pool after the run is kept, its state is a step of the
run away, and when the main process ended, its end condition held in a state it relies on
having led to the one after the run. -/
theorem Pool.run_keeps {Q : α → σ → Prop} (hQ : ∀ a s, Q a s → rg.settled s) {pool : Pool σ}
    {main : Proc σ α} (hpool : rg.PoolKept pool) (hmain : rg.MainKept Q main pool.state) :
    rg.PoolKept (pool.run main).2 ∧ rg.step pool.state (pool.run main).2.state ∧
      ∀ a, (pool.run main).1 = some a → ∃ s', Q a s' ∧ rg.rely 0 s' (pool.run main).2.state := by
  obtain ⟨⟨h1, h2, h3, h4, h6⟩, h5⟩ := RunKept.interleaves hQ
    (Run.Interleaves.drive Pool.roundFuel ({ pool, main, mainWoken := true } : Run σ α))
    ⟨hpool.settled, hpool.parked, hmain, hpool.numbered, hpool.fresh⟩
  refine ⟨⟨h1, h2, h4, h6⟩, h5, fun a ha => ?_⟩
  simp only [Pool.run] at ha ⊢
  simpa [MainKept, ha] using h3

/-- Running a main process that obeys from the state the pool is in: the scheduler polls it
there first, so it need not obey from any other state. -/
theorem Pool.run_keeps_start {Q : α → σ → Prop} (hQ : ∀ a s, Q a s → rg.settled s)
    {pool : Pool σ} {main : Proc σ α} (hpool : rg.PoolKept pool)
    (hnb : main.resume pool.state = some (main, pool.state))
    (hmain : rg.Obeys 0 [] Q main pool.state) :
    rg.PoolKept (pool.run main).2 ∧ rg.step pool.state (pool.run main).2.state ∧
      ∀ a, (pool.run main).1 = some a → ∃ s', Q a s' ∧ rg.rely 0 s' (pool.run main).2.state := by
  have hpoll := pollMain_keeps_start hQ (r := ({ pool, main, mainWoken := true } : Run σ α))
    hpool hmain hnb
  obtain ⟨⟨h1, h2, h3, h4, h6⟩, h5⟩ := RunKept.interleaves hQ
    (Run.Interleaves.drive_succ (fun r => Run.Interleaves.drive 999999 r)
      ({ pool, main, mainWoken := true } : Run σ α)) hpoll.1
  refine ⟨⟨h1, h2, h4, h6⟩, rg.step_trans hpoll.2 h5, fun a ha => ?_⟩
  simp only [Pool.run, Pool.roundFuel] at ha ⊢
  simpa [MainKept, ha] using h3

end RelyGuarantee

end MarketChat
