import MarketChat.Runtime.Proc
/-!
# Running processes side by side within one task

`Proc.both p q` runs two processes inside the same task, the way a future that joins two
futures polls them: `p` runs until it waits, then `q` runs until it waits, and the joined
process waits until either can go on. When it wakes, the sides are looked at in order, left
first: a side whose wait is over (its token cancelled, or its condition holding) goes on until
it waits again. The joined process ends when both sides have ended, with both results; a side
that unwinds to a cancelled token unwinds the whole join.

While both sides wait, the joined wait's deadline is the earlier of theirs, and the
cancellation tokens of each side are looked at before its condition, as for a single wait.

`Proc.joinAll` joins a list of processes this way, in list order. Each side's step costs one
unit of fuel; a join that runs out of fuel waits forever.

Main definitions: `Proc.both`, `Proc.joinAll`.
-/

namespace MarketChat

namespace Proc

variable {σ : Type} [Runtime σ]

/-- One side of a join: ended with a value, or waiting. -/
inductive Side (σ α : Type) : Type 1 where
  | ended (a : α)
  | waiting {β : Type} (b : Blocker σ β) (k : Wake β → Proc σ α)

/-- How a side's wait ends now: a cancelled token first, then the condition. -/
def wakeOf {β : Type} (b : Blocker σ β) (s : σ) : Option (Wake β × σ) :=
  match b.aborts.find? (Runtime.cancelled s) with
  | some t => some (.aborted t, s)
  | none => (b.ready s).map fun (v, s') => (.ready v, s')

/-- The deadline of a side. -/
def Side.deadline {α : Type} : Side σ α → Option Nat
  | .ended _ => none
  | .waiting b _ => b.deadline

/-- The earlier of two optional deadlines. -/
def earlier : Option Nat → Option Nat → Option Nat
  | some a, some b => some (min a b)
  | some a, none => some a
  | none, b => b

/-- A process that never goes on. -/
def stuck {α : Type} : Proc σ α := .block ({ ready := fun _ => none } : Blocker σ Unit) fun _ => .abort 0

mutual

/-- Run the left side until it waits or ends, then the right side. -/
def runLeft {α β : Type} : Nat → Proc σ α → Side σ β → Proc σ (α × β)
  | 0, _, _ => stuck
  | fuel + 1, .pure a, r => settle fuel (.ended a) r
  | _ + 1, .abort t, _ => .abort t
  | fuel + 1, .step f k, r => .step f fun x => runLeft fuel (k x) r
  | fuel + 1, .block b k, r => settle fuel (.waiting b k) r
  | fuel + 1, .spawn t k, r => .spawn t fun i => runLeft fuel (k i) r
  | fuel + 1, .kill t k, r => .kill t (runLeft fuel k r)
  | fuel + 1, .current k, r => .current fun i => runLeft fuel (k i) r

/-- Run the right side until it waits or ends. -/
def runRight {α β : Type} : Nat → Side σ α → Proc σ β → Proc σ (α × β)
  | 0, _, _ => stuck
  | fuel + 1, l, .pure b => settle fuel l (.ended b)
  | _ + 1, _, .abort t => .abort t
  | fuel + 1, l, .step f k => .step f fun x => runRight fuel l (k x)
  | fuel + 1, l, .block b k => settle fuel l (.waiting b k)
  | fuel + 1, l, .spawn t k => .spawn t fun i => runRight fuel l (k i)
  | fuel + 1, l, .kill t k => .kill t (runRight fuel l k)
  | fuel + 1, l, .current k => .current fun i => runRight fuel l (k i)

/-- Both sides ended or wait: end with both values, or wait until a side can go on and run
it. -/
def settle {α β : Type} : Nat → Side σ α → Side σ β → Proc σ (α × β)
  | 0, _, _ => stuck
  | _ + 1, .ended a, .ended b => .pure (a, b)
  | fuel + 1, .waiting bl kl, .ended b =>
    .block { ready := wakeOf bl, deadline := bl.deadline } fun
      | .ready w => runLeft fuel (kl w) (.ended b)
      | .aborted t => .abort t
  | fuel + 1, .ended a, .waiting br kr =>
    .block { ready := wakeOf br, deadline := br.deadline } fun
      | .ready w => runRight fuel (.ended a) (kr w)
      | .aborted t => .abort t
  | fuel + 1, .waiting bl kl, .waiting br kr =>
    let ready (s : σ) : Option (Sum (Wake _) (Wake _) × σ) :=
      match wakeOf bl s with
      | some (w, s') => some (.inl w, s')
      | none => (wakeOf br s).map fun (w, s') => (.inr w, s')
    .block { ready, deadline := earlier bl.deadline br.deadline } fun
      | .ready (.inl w) => runLeft fuel (kl w) (.waiting br kr)
      | .ready (.inr w) => runRight fuel (.waiting bl kl) (kr w)
      | .aborted t => .abort t

end

/-- Run two processes side by side in one task. -/
def both {α β : Type} (fuel : Nat) (p : Proc σ α) (q : Proc σ β) : Proc σ (α × β) :=
  runLeft fuel p (.waiting ({ ready := fun s => some ((), s) } : Blocker σ Unit) fun _ => q)

/-- Run processes side by side in one task, in list order: their results in that order. -/
def joinAll {α : Type} (fuel : Nat) : List (Proc σ α) → Proc σ (List α)
  | [] => .pure []
  | p :: ps => bind (both fuel p (joinAll fuel ps)) fun (a, as) => .pure (a :: as)

end Proc

end MarketChat
