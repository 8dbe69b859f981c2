import MarketChat.Runtime.Proc
/-!
# A single-threaded scheduler with virtual time

Processes run one at a time on one thread. One of them, the main process, is driven from
outside; the others are tasks, started by `Proc.spawn`. The rules follow a cooperative
runtime with a paused clock:

* Tasks wait in a first-in first-out run queue. A started task joins the queue at once.
* A waiting process is woken when one of its cancellation tokens is cancelled or its
  condition comes to hold; after every atomic step the waiting tasks are looked at in the
  order they were started, and the woken ones join the queue in that order.
* The main process, when woken, runs before the queue is served again: the queue is served
  at most `eventInterval` tasks at a time, and the main process goes first after that, or
  when the queue is empty.
* Time moves only when nothing can run: it jumps to the earliest deadline of a waiting
  process, and every process whose deadline is reached is woken, earliest deadline first and
  among equal deadlines the one that started waiting first.
* A woken process looks at its cancellation tokens first, outermost guard first, then at its
  condition; if neither holds it waits again.

`Pool.run` runs a main process until it ends and every task that can run has run without time
moving (the run "settles").

Main definitions: `Task`, `Pool`, `Pool.run`.
-/

namespace MarketChat

/-- A task: a process with its number, whether it waits in the run queue, and when it started
its current wait (for the order of equal deadlines). -/
structure Task (σ : Type) where
  id : Nat
  proc : Proc σ Unit
  queued : Bool := true
  since : Nat := 0

/-- The tasks over a state. -/
structure Pool (σ : Type) where
  state : σ
  tasks : List (Task σ) := []
  queue : List Nat := []
  nextTask : Nat := 1
  nextSeq : Nat := 0

/-- A pool while it runs a main process with result `α`. -/
structure Run (σ α : Type) where
  pool : Pool σ
  main : Proc σ α
  mainRunning : Bool := false
  mainWoken : Bool := false
  mainSince : Nat := 0

namespace Proc

variable {σ : Type} [Runtime σ]

/-- A waiting process has been woken: a token of its wait is cancelled, or its condition
holds. -/
def wakeable {β : Type} : Proc σ β → σ → Bool
  | .block b _, s => b.aborts.any (Runtime.cancelled s) || (b.ready s).isSome
  | _, _ => false

/-- The deadline of a wait. -/
def deadline? {β : Type} : Proc σ β → Option Nat
  | .block b _ => b.deadline
  | _ => none

/-- Resume a woken process: the continuation and state after its wait, or `none` when it
must wait again. A process that does not wait goes on as it is. -/
def resume {β : Type} : Proc σ β → σ → Option (Proc σ β × σ)
  | .block b k, s =>
    match b.aborts.find? (Runtime.cancelled s) with
    | some t => some (k (.aborted t), s)
    | none =>
      match b.ready s with
      | some (v, s') => some (k (.ready v), s')
      | none => none
  | p, s => some (p, s)

/-- The process waits. -/
def isBlocked {β : Type} : Proc σ β → Bool
  | .block _ _ => true
  | _ => false

/-- The result of a finished process. -/
def result? {β : Type} : Proc σ β → Option β
  | .pure b => some b
  | _ => none

end Proc

namespace Run

variable {σ α : Type} [Runtime σ]

/-- How many tasks run before the main process may go again. -/
def eventInterval : Nat := 61

/-- Put a task back among the tasks, in the order they were started. -/
def insertTask (t : Task σ) : List (Task σ) → List (Task σ)
  | [] => [t]
  | u :: us => if t.id < u.id then t :: u :: us else u :: insertTask t us

/-- Wake every waiting process whose wait is over after a step. -/
def wakeScan (r : Run σ α) : Run σ α :=
  let s := r.pool.state
  let (tasks, woken) := r.pool.tasks.foldr
    (fun t (acc, ids) =>
      if !t.queued && t.proc.wakeable s then ({ t with queued := true } :: acc, t.id :: ids)
      else (t :: acc, ids)) ([], [])
  { r with
    pool := { r.pool with tasks, queue := r.pool.queue ++ woken }
    mainWoken := r.mainWoken || (!r.mainRunning && r.main.wakeable s) }

/-- Set the state after a step and wake whoever that step released. -/
def setState (r : Run σ α) (s : σ) : Run σ α := wakeScan { r with pool := { r.pool with state := s } }

/-- Run process `p` (task number `me`) until it ends or waits. A process is a finite tree, so
this is structural recursion on it: every run between two waits is atomic. -/
def segment {β : Type} (me : Nat) : Proc σ β → Run σ α → Proc σ β × Run σ α
  | .pure b, r => (.pure b, r)
  | .abort t, r => (.abort t, r)
  | .step f k, r =>
    let (x, s) := f r.pool.state
    segment me (k x) (r.setState s)
  | .block b k, r =>
    match b.ready r.pool.state with
    | some (v, s) => segment me (k (.ready v)) (r.setState s)
    | none => (.block b k, r)
  | .spawn t k, r =>
    let id := r.pool.nextTask
    let pool := { r.pool with
      tasks := r.pool.tasks ++ [{ id, proc := t }]
      queue := r.pool.queue ++ [id]
      nextTask := id + 1 }
    segment me (k id) { r with pool }
  | .kill id k, r =>
    let pool := { r.pool with
      tasks := r.pool.tasks.filter (·.id ≠ id)
      queue := r.pool.queue.filter (· ≠ id) }
    segment me k { r with pool }
  | .current k, r => segment me (k me) r

/-- A fresh sequence number for a wait that starts now. -/
def stamp (r : Run σ α) : Nat × Run σ α :=
  (r.pool.nextSeq, { r with pool := { r.pool with nextSeq := r.pool.nextSeq + 1 } })

/-- Poll the main process. -/
def pollMain (r : Run σ α) : Run σ α :=
  let r := { r with mainWoken := false }
  match r.main.resume r.pool.state with
  | none => r
  | some (p, s) =>
    let r := { r with mainRunning := true }
    let r := r.setState s
    let (p', r) := segment 0 p r
    let (seq, r) := r.stamp
    wakeScan { r with main := p', mainRunning := false, mainSince := seq }

/-- Poll a task of the run queue. -/
def pollTask (id : Nat) (r : Run σ α) : Run σ α :=
  match r.pool.tasks.find? (·.id = id) with
  | none => r
  | some t =>
    let r := { r with pool := { r.pool with tasks := r.pool.tasks.filter (·.id ≠ id) } }
    match t.proc.resume r.pool.state with
    | none => { r with pool := { r.pool with tasks := insertTask { t with queued := false } r.pool.tasks } }
    | some (p, s) =>
      let r := r.setState s
      let (p', r) := segment id p r
      if p'.isBlocked then
        let (seq, r) := r.stamp
        let task : Task σ := { id, proc := p', queued := false, since := seq }
        wakeScan { r with pool := { r.pool with tasks := insertTask task r.pool.tasks } }
      else r

/-- Serve up to `budget` tasks of the run queue. -/
def serve : Nat → Run σ α → Run σ α
  | 0, r => r
  | budget + 1, r =>
    match r.pool.queue with
    | [] => r
    | id :: rest => serve budget (pollTask id { r with pool := { r.pool with queue := rest } })

/-- The earliest deadline of a waiting process that is not woken yet. -/
def nextDeadline (r : Run σ α) : Option Nat :=
  let ds := (r.pool.tasks.filter (!·.queued)).filterMap (·.proc.deadline?)
  let ds := if r.mainWoken then ds else (r.main.deadline?).toList ++ ds
  ds.foldl (fun acc d => some (match acc with | some a => min a d | none => d)) none

/-- Move time to `t` and wake every process whose deadline is reached, earliest deadline
first, then the earliest waiting. -/
def advanceTo (t : Nat) (r : Run σ α) : Run σ α :=
  let s := Runtime.setNow r.pool.state t
  let due := (r.pool.tasks.filter fun k => !k.queued && (k.proc.deadline?.any (· ≤ t)))
  let order := due.mergeSort fun a b =>
    let da := a.proc.deadline?.getD 0
    let db := b.proc.deadline?.getD 0
    da < db || (da = db && a.since ≤ b.since)
  let ids := order.map (·.id)
  let tasks := r.pool.tasks.map fun k => if ids.contains k.id then { k with queued := true } else k
  { r with
    pool := { r.pool with state := s, tasks, queue := r.pool.queue ++ ids }
    mainWoken := r.mainWoken || r.main.deadline?.any (· ≤ t) }

/-- Drive the run: poll the main process when woken, serve the queue, and move time when
nothing can run. Stops when the main process has ended and nothing can run, or when nothing
can ever run again. -/
def drive : Nat → Run σ α → Run σ α
  | 0, r => r
  | rounds + 1, r =>
    let r := if r.mainWoken then pollMain r else r
    let r := serve eventInterval r
    if !r.pool.queue.isEmpty || r.mainWoken then drive rounds r
    else if r.main.isBlocked then
      match nextDeadline r with
      | some t => drive rounds (advanceTo (max t (Runtime.now r.pool.state)) r)
      | none => r
    else r

end Run

namespace Pool

variable {σ α : Type} [Runtime σ]

/-- Rounds of the scheduler for one main process. -/
def roundFuel : Nat := 1000000

/-- Run a main process to its end and let the tasks settle: its result (`none` when it cannot
end), and the pool after. -/
def run (pool : Pool σ) (main : Proc σ α) : Option α × Pool σ :=
  let r : Run σ α := { pool, main, mainWoken := true }
  let r := Run.drive roundFuel r
  (r.main.result?, r.pool)

end Pool

end MarketChat
