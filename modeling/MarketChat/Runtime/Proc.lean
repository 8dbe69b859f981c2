/-!
# Cooperative processes

A process is a finite program over a shared state: it reads and updates the state in atomic
steps, waits until a condition on the state holds, starts other processes and stops them.
Processes only give way to each other where they wait, so a run of steps between two waits
is atomic.

A wait is described by a `Blocker`: a readiness test on the state (which may also take what it
waits for, as a receive takes a message), an optional deadline after which the test is worth
asking again without any other event (a timer), and the cancellation tokens that interrupt
it. Interrupted waits resume with `Wake.aborted`, which a process turns into `Proc.abort`; the
nearest `Proc.guarded` region of that token catches it and yields `none`.

A process is an inductive tree whose continuations are functions, so every definition below is
structural recursion on it. Loops in processes carry their own fuel.

Main definitions: `Proc`, `Blocker`, `Wake`, `Proc.await`, `Proc.guarded`, `Proc.sleep`,
`Proc.waitUntil`, `Proc.onAbort`.
-/

namespace MarketChat

/-- What a scheduler needs of a shared state: the current time in milliseconds and which
cancellation tokens are cancelled. -/
class Runtime (σ : Type) where
  now : σ → Nat
  setNow : σ → Nat → σ
  cancelled : σ → Nat → Bool

/-- How a waiting process resumes. -/
inductive Wake (β : Type) where
  /-- The awaited condition holds and produced a value. -/
  | ready (value : β)
  /-- A cancellation token guarding the wait was cancelled. -/
  | aborted (token : Nat)

/-- What a process waits for. -/
structure Blocker (σ β : Type) where
  /-- The value the wait produces, with the state after taking it, once the wait is over. -/
  ready : σ → Option (β × σ)
  /-- The time at which `ready` may come to hold by time alone. -/
  deadline : Option Nat := none
  /-- Cancellation tokens that interrupt the wait, outermost guard first. -/
  aborts : List Nat := []

/-- A process over the state `σ` with result `α`. -/
inductive Proc (σ : Type) : Type → Type 1 where
  /-- Finished with a value. -/
  | pure {α : Type} (value : α) : Proc σ α
  /-- Unwinding to the guard of a cancelled token. -/
  | abort {α : Type} (token : Nat) : Proc σ α
  /-- An atomic step on the state. -/
  | step {α β : Type} (f : σ → β × σ) (k : β → Proc σ α) : Proc σ α
  /-- A wait. -/
  | block {α β : Type} (b : Blocker σ β) (k : Wake β → Proc σ α) : Proc σ α
  /-- Start a process; the continuation gets its task number. -/
  | spawn {α : Type} (task : Proc σ Unit) (k : Nat → Proc σ α) : Proc σ α
  /-- Stop a task at once. -/
  | kill {α : Type} (task : Nat) (k : Proc σ α) : Proc σ α
  /-- The continuation gets the running task's number. -/
  | current {α : Type} (k : Nat → Proc σ α) : Proc σ α

namespace Proc

variable {σ : Type}

/-- Sequencing: run `p`, then `f` on its value. -/
def bind {α β : Type} : Proc σ α → (α → Proc σ β) → Proc σ β
  | .pure a, f => f a
  | .abort t, _ => .abort t
  | .step g k, f => .step g (fun x => bind (k x) f)
  | .block b k, f => .block b (fun w => bind (k w) f)
  | .spawn t k, f => .spawn t (fun i => bind (k i) f)
  | .kill t k, f => .kill t (bind k f)
  | .current k, f => .current (fun i => bind (k i) f)

/-- Processes compose: `bind` runs the first and continues with its result. -/
instance : Monad (Proc σ) where
  pure := Proc.pure
  bind := Proc.bind

/-- An atomic step with a result. -/
def update {β : Type} (f : σ → β × σ) : Proc σ β := .step f .pure

/-- Read the state. -/
def read {β : Type} (f : σ → β) : Proc σ β := .step (fun s => (f s, s)) .pure

/-- Change the state. -/
def modify (f : σ → σ) : Proc σ Unit := .step (fun s => ((), f s)) .pure

/-- Start a task. -/
def fork (task : Proc σ Unit) : Proc σ Nat := .spawn task .pure

/-- Stop a task. -/
def stop (task : Nat) : Proc σ Unit := .kill task (.pure ())

/-- The running task's number. -/
def self : Proc σ Nat := .current .pure

/-- Wait on a blocker; an interruption unwinds as `abort`. -/
def await {β : Type} (b : Blocker σ β) : Proc σ β :=
  .block b fun
    | .ready v => .pure v
    | .aborted t => .abort t

/-- Make every wait of `p` interruptible by `tok`, and stop unwinding at `tok`. -/
def guardWith {β : Type} (tok : Nat) : Proc σ β → Proc σ (Option β)
  | .pure b => .pure (some b)
  | .abort t => if t = tok then .pure none else .abort t
  | .step g k => .step g (fun x => guardWith tok (k x))
  | .block b k => .block { b with aborts := tok :: b.aborts } (fun w => guardWith tok (k w))
  | .spawn t k => .spawn t (fun i => guardWith tok (k i))
  | .kill t k => .kill t (guardWith tok k)
  | .current k => .current (fun i => guardWith tok (k i))

/-- Run `cleanup` when `p` is interrupted, before unwinding further. -/
def onAbort {β : Type} (cleanup : Proc σ Unit) : Proc σ β → Proc σ β
  | .pure b => .pure b
  | .abort t => bind cleanup (fun _ => .abort t)
  | .step g k => .step g (fun x => onAbort cleanup (k x))
  | .block b k => .block b (fun w => onAbort cleanup (k w))
  | .spawn t k => .spawn t (fun i => onAbort cleanup (k i))
  | .kill t k => .kill t (onAbort cleanup k)
  | .current k => .current (fun i => onAbort cleanup (k i))

variable [Runtime σ]

/-- Run `p` unless `tok` is cancelled first: `none` when it is cancelled before `p` starts or
while `p` waits. The token is looked at before `p` at every resumption. -/
def guarded {β : Type} (tok : Nat) (p : Proc σ β) : Proc σ (Option β) :=
  .step (fun s => (Runtime.cancelled s tok, s)) fun
    | true => .pure none
    | false => guardWith tok p

/-- The current time. -/
def time : Proc σ Nat := read Runtime.now

/-- Wait `ms` milliseconds; a deadline already reached does not wait. -/
def sleep (ms : Nat) : Proc σ Unit :=
  bind time fun t =>
    await { ready := fun s => if t + ms ≤ Runtime.now s then some ((), s) else none
            deadline := some (t + ms) }

/-- Wait until `ready` holds, for at most `limit` milliseconds: `none` when time runs out
first. The condition is tried before the deadline. -/
def waitUntil {β : Type} (ready : σ → Option (β × σ)) (limit : Nat) : Proc σ (Option β) :=
  bind time fun t =>
    await { ready := fun s =>
              match ready s with
              | some (v, s') => some (some v, s')
              | none => if t + limit ≤ Runtime.now s then some (none, s) else none
            deadline := some (t + limit) }

end Proc

end MarketChat
