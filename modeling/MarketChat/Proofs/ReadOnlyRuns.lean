import MarketChat.Proofs.AloneRuns
/-!
# Runs that only read

A run of the scheduler is calm when no waiting process can be woken: no parked task can, and
the main process cannot unless it runs or is woken already. A step that keeps the state then
changes nothing in the pool (`Run.setState_calm`), so a process that only reads goes through
a segment as if it had not run (`Run.segment_readOnly`).

Two consequences:

* a settled pool runs a main process that only reads in one poll, and is left as it was but
  for the sequence number of waits (`Pool.run_readOnly`);
* tasks woken to wind down, each reading only before it ends, are served and gone, as long as
  the scheduler has a round for every `eventInterval` of them (`Run.drive_fading`).

The opposite case is a step that wakes every parked task at once, as cancelling the token
that guards them all does (`Run.wakeScan_woken`); after it, with every task queued, the steps
of the running main process only set the state (`Run.setState_queued`).

The rounds of `Run.drive` are named by `Run.round`, so that a run is followed one round at a
time (`Run.drive_of_round`, `Run.drive_moves`, `Run.drive_ends`).

Main definitions: `Proc.ReadOnly`, `Run.Calm`, `Task.Fading`, `Run.round`.
-/

namespace MarketChat

namespace Proc

variable {σ : Type}

/-- Sequencing is associative: a process followed by two continuations runs the second after
the first on the same value. -/
theorem bind_assoc {α β γ : Type} (p : Proc σ α) (f : α → Proc σ β) (g : β → Proc σ γ) :
    Proc.bind (Proc.bind p f) g = Proc.bind p fun a => Proc.bind (f a) g := by
  induction p with
  | pure a => rfl
  | abort t => rfl
  | step h k ih => exact congrArg (Proc.step h) (funext fun x => ih x f)
  | block b k ih => exact congrArg (Proc.block b) (funext fun x => ih x f)
  | spawn t k _ ih => exact congrArg (Proc.spawn t) (funext fun x => ih x f)
  | kill i k ih => exact congrArg (Proc.kill i) (ih f)
  | current k ih => exact congrArg Proc.current (funext fun x => ih x f)

/-- The process ends with `a` from `s` by steps that keep the state, and waits that are over
at once and keep it too: it only reads. -/
inductive ReadOnly : {α : Type} → Proc σ α → σ → α → Prop
  | pure {α : Type} {a : α} {s : σ} : ReadOnly (.pure a) s a
  | step {α β : Type} {f : σ → β × σ} {k : β → Proc σ α} {s : σ} {a : α} :
      (f s).2 = s → ReadOnly (k (f s).1) s a → ReadOnly (.step f k) s a
  | ready {α β : Type} {b : Blocker σ β} {k : Wake β → Proc σ α} {s : σ} {v : β} {a : α} :
      b.ready s = some (v, s) → ReadOnly (k (.ready v)) s a → ReadOnly (.block b k) s a

theorem ReadOnly.bind {α β : Type} {p : Proc σ α} {s : σ} {a : α} {f : α → Proc σ β} {b : β}
    (h : ReadOnly p s a) (hf : ReadOnly (f a) s b) : ReadOnly (p >>= f) s b := by
  induction h with
  | pure => exact hf
  | step hs _ ih => exact .step hs (ih hf)
  | ready hv _ ih => exact .ready hv (ih hf)

theorem ReadOnly.read_bind {α β : Type} {g : σ → β} {k : β → Proc σ α} {s : σ} {a : α}
    (h : ReadOnly (k (g s)) s a) : ReadOnly (Proc.read g >>= k) s a :=
  .step rfl h

variable [Runtime σ]

/-- Only a wait can be woken. -/
theorem wakeable_of_not_blocked {β : Type} {p : Proc σ β} (hp : p.isBlocked = false) (s : σ) :
    p.wakeable s = false := by
  cases p <;> first | rfl | simp [Proc.isBlocked] at hp

end Proc

/-- A task woken to wind down in `s`: it waits in the run queue, and resumed in `s` it only
reads before it ends. -/
structure Task.Fading {σ : Type} [Runtime σ] (s : σ) (t : Task σ) : Prop where
  queued : t.queued = true
  fades : ∃ p, t.proc.resume s = some (p, s) ∧ p.ReadOnly s ()

/-- The task woken: queued to run. -/
def Task.wake {σ : Type} (t : Task σ) : Task σ := { t with queued := true }

@[simp] theorem Task.wake_queued {σ : Type} (t : Task σ) : t.wake.queued = true := rfl

@[simp] theorem Task.wake_id {σ : Type} (t : Task σ) : t.wake.id = t.id := rfl

@[simp] theorem Task.wake_proc {σ : Type} (t : Task σ) : t.wake.proc = t.proc := rfl

/-- The parked tasks of `ts` stay asleep in every state that `P` allows. -/
def Task.Asleep {σ : Type} [Runtime σ] (P : σ → Prop) (ts : List (Task σ)) : Prop :=
  ∀ t ∈ ts, t.queued = false → ∀ s, P s → t.proc.wakeable s = false

namespace Task

variable {σ : Type} [Runtime σ] {P : σ → Prop}

@[simp] theorem asleep_nil : Task.Asleep P [] := fun _ h => nomatch h

@[simp] theorem asleep_cons {t : Task σ} {ts : List (Task σ)} :
    Task.Asleep P (t :: ts) ↔
      (t.queued = false → ∀ s, P s → t.proc.wakeable s = false) ∧ Task.Asleep P ts := by
  simp [Task.Asleep]

@[simp] theorem asleep_append {ts us : List (Task σ)} :
    Task.Asleep P (ts ++ us) ↔ Task.Asleep P ts ∧ Task.Asleep P us := by
  simp only [Task.Asleep, List.mem_append, or_imp, forall_and]

theorem Asleep.filter {ts : List (Task σ)} (h : Task.Asleep P ts) (f : Task σ → Bool) :
    Task.Asleep P (ts.filter f) :=
  fun t ht => h t (List.mem_filter.1 ht).1

end Task

namespace Run

variable {σ α : Type} [Runtime σ]

open Proc

/-- No waiting process can be woken: no parked task, and not the main process unless it runs
or is woken already. -/
structure Calm (r : Run σ α) : Prop where
  tasks : ∀ t ∈ r.pool.tasks, t.queued = false → t.proc.wakeable r.pool.state = false
  main : r.mainRunning = false → r.mainWoken = false → r.main.wakeable r.pool.state = false

/-- The scan of the tasks wakes none of them when no parked one can be woken. -/
theorem foldr_calm {ts : List (Task σ)} {s : σ}
    (h : ∀ t ∈ ts, t.queued = false → t.proc.wakeable s = false) :
    ts.foldr (fun t (acc : List (Task σ) × List Nat) =>
      if !t.queued && t.proc.wakeable s then ({ t with queued := true } :: acc.1, t.id :: acc.2)
      else (t :: acc.1, acc.2)) ([], []) = (ts, []) := by
  induction ts with
  | nil => rfl
  | cons t ts ih =>
    have ht : (!t.queued && t.proc.wakeable s) = false := by
      cases hq : t.queued
      · simp [h t (.head _) hq]
      · rfl
    simp only [List.foldr_cons, ih (fun u hu => h u (.tail _ hu)), ht]
    rfl

theorem wakeScan_calm {r : Run σ α} (h : Calm r) : wakeScan r = r := by
  rcases r with ⟨⟨s, ts, q, n, sq⟩, m, running, woken, since⟩
  have hm : running = false → woken = false → m.wakeable s = false := h.main
  have hw : (woken || (!running && m.wakeable s)) = woken := by
    cases running <;> cases woken <;> simp [hm]
  simp only [wakeScan, foldr_calm h.tasks, List.append_nil, hw]

/-- A run is calm in a state its parked tasks sleep through, unless the main process wakes. -/
theorem Calm.of_asleep {P : σ → Prop} {r : Run σ α} (hts : Task.Asleep P r.pool.tasks)
    (hs : P r.pool.state) (hmain : (!r.mainRunning && r.main.wakeable r.pool.state) = false) :
    Calm r :=
  ⟨fun t ht hq => hts t ht hq _ hs, fun hr hw => by simpa [hr] using hmain⟩

/-- A step into a state the parked tasks sleep through, which does not wake the main process,
only sets the state. -/
theorem setState_asleep {P : σ → Prop} {r : Run σ α} {s : σ} (hts : Task.Asleep P r.pool.tasks)
    (hs : P s) (hmain : (!r.mainRunning && r.main.wakeable s) = false) :
    r.setState s = { r with pool := { r.pool with state := s } } :=
  wakeScan_calm (Calm.of_asleep (r := { r with pool := { r.pool with state := s } }) hts hs hmain)

/-- A step that keeps the state of a calm run changes nothing. -/
theorem setState_calm {r : Run σ α} (h : Calm r) : r.setState r.pool.state = r :=
  wakeScan_calm h

/-- The scan wakes every task when every one is parked and can be woken. -/
theorem foldr_woken {ts : List (Task σ)} {s : σ}
    (h : ∀ t ∈ ts, t.queued = false ∧ t.proc.wakeable s = true) :
    ts.foldr (fun t (acc : List (Task σ) × List Nat) =>
      if !t.queued && t.proc.wakeable s then ({ t with queued := true } :: acc.1, t.id :: acc.2)
      else (t :: acc.1, acc.2)) ([], []) = (ts.map Task.wake, ts.map (·.id)) := by
  induction ts with
  | nil => rfl
  | cons t ts ih =>
    obtain ⟨hq, hw⟩ := h t (.head _)
    simp only [List.foldr_cons, ih (fun u hu => h u (.tail _ hu)), hq, hw, Bool.not_false,
      Bool.and_self, if_true, List.map_cons]
    rfl

/-- A step into a state that wakes every task, all parked, while the main process runs. -/
theorem wakeScan_woken {r : Run σ α}
    (h : ∀ t ∈ r.pool.tasks, t.queued = false ∧ t.proc.wakeable r.pool.state = true)
    (hrun : r.mainRunning = true) :
    wakeScan r = { r with pool := { r.pool with tasks := r.pool.tasks.map Task.wake,
                                                queue := r.pool.queue ++ r.pool.tasks.map (·.id) } } := by
  rcases r with ⟨⟨s, ts, q, n, sq⟩, m, running, woken, since⟩
  simp only at hrun
  subst hrun
  simp only [wakeScan, foldr_woken h, Bool.not_true, Bool.false_and, Bool.or_false]

/-- While the main process runs and every task is queued, a step only sets the state. -/
theorem setState_queued {r : Run σ α} {s : σ} (h : ∀ t ∈ r.pool.tasks, t.queued = true)
    (hrun : r.mainRunning = true) : r.setState s = { r with pool := { r.pool with state := s } } :=
  wakeScan_calm ⟨fun t ht hq => by simp [h t ht] at hq, fun h' => by simp [hrun] at h'⟩

/-- A process that only reads runs through a segment of a calm run and leaves it as it was. -/
theorem segment_readOnly {β : Type} {p : Proc σ β} {s : σ} {b : β} {me : Nat}
    (h : p.ReadOnly s b) : ∀ {r : Run σ α}, Calm r → r.pool.state = s →
      segment me p r = (.pure b, r) := by
  induction h with
  | pure => exact fun _ _ => rfl
  | @step β f k s a hf _ ih =>
    intro r hc hs
    have hset : r.setState (f s).2 = r := by rw [hf, ← hs]; exact setState_calm hc
    rw [segment_step, hs, hset]
    exact ih hc hs
  | @ready β bl k s v a hv _ ih =>
    intro r hc hs
    rw [segment_ready me (hs ▸ hv), setState_calm hc]
    exact ih hc hs

/-- A task that is woken to wind down is served and gone, and only its number is looked at:
every task of that number leaves the pool. -/
theorem pollTask_fading {r : Run σ α} (id : Nat) (hall : ∀ t ∈ r.pool.tasks, t.Fading r.pool.state)
    (hmain : r.main.wakeable r.pool.state = false) :
    pollTask id r = { r with pool := { r.pool with tasks := r.pool.tasks.filter (·.id ≠ id) } } := by
  -- with every task queued, the run stays calm once one is taken out
  have hcalm : ∀ ts : List (Task σ), (∀ t ∈ ts, t.Fading r.pool.state) →
      Calm { r with pool := { r.pool with tasks := ts } } :=
    fun ts hts => ⟨fun t ht hq => by simp [(hts t ht).queued] at hq, fun _ _ => hmain⟩
  have hsub : ∀ t ∈ r.pool.tasks.filter (·.id ≠ id), t.Fading r.pool.state :=
    fun t ht => hall t (List.mem_filter.1 ht).1
  unfold pollTask
  cases hfind : r.pool.tasks.find? (·.id = id) with
  | none =>
    have hkeep : r.pool.tasks.filter (·.id ≠ id) = r.pool.tasks :=
      List.filter_eq_self.2 fun t ht => by simpa using List.find?_eq_none.1 hfind t ht
    simp only [hkeep]
  | some t =>
    obtain ⟨p, hres, hp⟩ := (hall t (List.mem_of_find?_eq_some hfind)).fades
    have hc := hcalm (r.pool.tasks.filter (·.id ≠ id)) hsub
    simp only [hres]
    rw [setState_calm hc, segment_readOnly hp hc rfl]
    rfl

/-- Serving tasks that wind down takes the first `budget` of the queue out of the pool. -/
theorem serve_fading (budget : Nat) : ∀ {r : Run σ α},
    (∀ t ∈ r.pool.tasks, t.Fading r.pool.state) → r.main.wakeable r.pool.state = false →
    serve budget r = { r with pool := { r.pool with
      tasks := r.pool.tasks.filter (·.id ∉ r.pool.queue.take budget)
      queue := r.pool.queue.drop budget } } := by
  induction budget with
  | zero =>
    intro r _ _
    rw [List.take_zero, List.drop_zero, List.filter_eq_self.2 (by simp)]
    rfl
  | succ budget ih =>
    rintro ⟨⟨s, ts, q, n, sq⟩, m, running, woken, since⟩ hall hmain
    cases q with
    | nil =>
      simp only [serve, List.take_nil, List.drop_nil, List.not_mem_nil, not_false_eq_true,
        decide_true]
      rw [List.filter_eq_self.2 fun _ _ => rfl]
    | cons id rest =>
      simp only [serve]
      rw [pollTask_fading (r := ⟨⟨s, ts, rest, n, sq⟩, m, running, woken, since⟩) id hall hmain]
      simp only
      rw [ih (r := ⟨⟨s, ts.filter (·.id ≠ id), rest, n, sq⟩, m, running, woken, since⟩)
        (fun t ht => hall t (List.mem_filter.1 ht).1) hmain]
      simp only [List.filter_filter, List.take_succ_cons, List.drop_succ_cons, List.mem_cons]
      congr 3
      funext t
      simp [Bool.and_comm]

/-- One round of the scheduler: the main process when it is woken, then the queue. -/
def round (r : Run σ α) : Run σ α := serve eventInterval (if r.mainWoken then pollMain r else r)

/-- A round with nothing woken and nothing queued does nothing. -/
theorem round_idle {r : Run σ α} (hw : r.mainWoken = false) (hq : r.pool.queue = []) : round r = r := by
  simp only [round, hw, Bool.false_eq_true, if_false]
  exact serve_of_queue_nil hq _

/-- A round that polls the woken main process and finds nothing queued after it. -/
theorem round_woken {r : Run σ α} (hw : r.mainWoken = true) (hq : (pollMain r).pool.queue = []) :
    round r = pollMain r := by
  simp only [round, hw, if_true]
  exact serve_of_queue_nil hq _

/-- A drive's rounds after the first depend on the run only through its first round. -/
theorem drive_succ_eq_round (k : Nat) (x : Run σ α) : drive (k + 1) x =
    (fun y => if (!y.pool.queue.isEmpty || y.mainWoken) = true then drive k y
      else if y.main.isBlocked = true then
        match nextDeadline y with
        | some t => drive k (advanceTo (max t (Runtime.now y.pool.state)) y)
        | none => y
      else y) (round x) := rfl

/-- Driving goes by rounds: what it does next depends on the run after the round only. -/
theorem drive_of_round {r r' : Run σ α} (k : Nat) (h : round r = round r') :
    drive (k + 1) r = drive (k + 1) r' := by
  rw [drive_succ_eq_round k r, drive_succ_eq_round k r', h]

/-- After a round that leaves work, the next round follows. -/
theorem drive_busy {r : Run σ α} (k : Nat)
    (h : (!(round r).pool.queue.isEmpty || (round r).mainWoken) = true) :
    drive (k + 1) r = drive k (round r) := by
  simp only [round] at h ⊢
  simp only [drive, h, if_true]

/-- After a round that leaves nothing to do, when the main process waits, time moves to the
next deadline. -/
theorem drive_moves {r : Run σ α} {t : Nat} (k : Nat) (hq : (round r).pool.queue = [])
    (hw : (round r).mainWoken = false) (hb : (round r).main.isBlocked = true)
    (hd : nextDeadline (round r) = some t) :
    drive (k + 1) r = drive k (advanceTo (max t (Runtime.now (round r).pool.state)) (round r)) := by
  simp only [round] at hq hw hb hd ⊢
  simp only [drive, hq, hw, hb, hd, List.isEmpty_nil, Bool.not_true, Bool.or_false,
    Bool.false_eq_true, if_false, if_true]

/-- After a round that leaves nothing to do, when the main process has ended, the run is over. -/
theorem drive_ends {r : Run σ α} (k : Nat) (hq : (round r).pool.queue = [])
    (hw : (round r).mainWoken = false) (hb : (round r).main.isBlocked = false) :
    drive (k + 1) r = round r := by
  simp only [round] at hq hw hb ⊢
  simp only [drive, hq, hw, hb, List.isEmpty_nil, Bool.not_true, Bool.or_false,
    Bool.false_eq_true, if_false]

/-- **Tasks that wind down are all served.** When the main process has ended and every task
is woken to wind down and waits in the queue, the scheduler serves them all and the pool is
left with none, given one round for every `eventInterval` of them. -/
theorem drive_fading (rounds : Nat) : ∀ {r : Run σ α},
    (∀ t ∈ r.pool.tasks, t.Fading r.pool.state ∧ t.id ∈ r.pool.queue) →
    r.main.isBlocked = false → r.mainWoken = false →
    r.pool.queue.length ≤ eventInterval * rounds →
    drive (rounds + 1) r = { r with pool := { r.pool with tasks := [], queue := [] } } := by
  induction rounds with
  | zero =>
    rintro ⟨⟨s, ts, q, n, sq⟩, m, running, woken, since⟩ hall hnb hw hlen
    simp only at hall hnb hw hlen
    subst hw
    have hq : q = [] := List.eq_nil_of_length_eq_zero (by simpa using hlen)
    subst hq
    have hnil : ts = [] :=
      List.eq_nil_iff_forall_not_mem.2 fun t ht => by simpa using (hall t ht).2
    subst hnil
    simp [drive, serve_of_queue_nil, hnb]
  | succ rounds ih =>
    rintro ⟨⟨s, ts, q, n, sq⟩, m, running, woken, since⟩ hall hnb hw hlen
    simp only at hall hnb hw hlen
    subst hw
    have hmain := wakeable_of_not_blocked hnb s
    rw [drive]
    simp only [Bool.false_eq_true, if_false]
    rw [serve_fading eventInterval (r := ⟨⟨s, ts, q, n, sq⟩, m, running, false, since⟩)
      (fun t ht => (hall t ht).1) hmain]
    simp only [Bool.or_false]
    -- every task has its number in the part of the queue served now or in the rest
    have hsplit : ∀ t ∈ ts, t.id ∈ q.take eventInterval ∨ t.id ∈ q.drop eventInterval := by
      intro t ht
      have := (hall t ht).2
      rw [← List.take_append_drop eventInterval q] at this
      exact List.mem_append.1 this
    by_cases hrest : q.drop eventInterval = []
    · have htake : ∀ t ∈ ts, t.id ∈ q.take eventInterval :=
        fun t ht => by simpa [hrest] using hsplit t ht
      simp only [hrest, List.isEmpty_nil, Bool.not_true, Bool.false_eq_true, if_false, hnb]
      rw [List.filter_eq_nil_iff.2 fun t ht => by simpa using htake t ht]
    · have hlen' : (q.drop eventInterval).length ≤ eventInterval * rounds := by
        rw [List.length_drop]; rw [Nat.mul_succ] at hlen; omega
      simp only [List.isEmpty_eq_false_iff.2 hrest, Bool.not_false, if_true]
      rw [ih (r := ⟨⟨s, ts.filter (·.id ∉ q.take eventInterval), q.drop eventInterval, n, sq⟩, m,
        running, false, since⟩) ?_ hnb rfl hlen']
      intro t ht
      obtain ⟨hmem, hout⟩ := List.mem_filter.1 ht
      refine ⟨(hall t hmem).1, ?_⟩
      exact (hsplit t hmem).resolve_left (by simpa using hout)

end Run

namespace Pool

variable {σ α : Type} [Runtime σ]

open Proc

/-- **A settled pool runs a process that only reads in one poll.** With no task queued or able
to wake, a main process that does not wait and only reads ends with its value, and the pool is
left as it was but for the sequence number the poll draws. -/
theorem run_readOnly {pool : Pool σ} {main : Proc σ α} {a : α} (hq : pool.queue = [])
    (ht : ∀ t ∈ pool.tasks, t.queued = false ∧ t.proc.wakeable pool.state = false)
    (hnb : main.isBlocked = false) (h : main.ReadOnly pool.state a) :
    pool.run main = (some a, { pool with nextSeq := pool.nextSeq + 1 }) := by
  have htasks : ∀ t ∈ pool.tasks, t.queued = false → t.proc.wakeable pool.state = false :=
    fun t ht' _ => (ht t ht').2
  -- the main process runs and the tasks sleep through it
  have hrun : Run.Calm ({ pool, main, mainWoken := false, mainRunning := true } : Run σ α) :=
    ⟨htasks, fun h => nomatch h⟩
  have hend : Run.Calm (⟨{ pool with nextSeq := pool.nextSeq + 1 }, .pure a, false, false,
      pool.nextSeq⟩ : Run σ α) :=
    ⟨htasks, fun _ _ => rfl⟩
  have hpoll : Run.pollMain ({ pool, main, mainWoken := true } : Run σ α) =
      ⟨{ pool with nextSeq := pool.nextSeq + 1 }, .pure a, false, false, pool.nextSeq⟩ := by
    rw [Run.pollMain_of_resume (resume_of_not_blocked hnb pool.state)]
    simp only
    rw [Run.setState_calm hrun, Run.segment_readOnly h hrun rfl]
    exact Run.wakeScan_calm hend
  obtain ⟨k, hk⟩ : ∃ k, roundFuel = k + 1 := ⟨_, rfl⟩
  simp only [run, hk]
  rw [Run.drive, if_pos rfl, hpoll, Run.serve_of_queue_nil hq]
  simp [Proc.isBlocked, hq, Proc.result?]

end Pool

end MarketChat
