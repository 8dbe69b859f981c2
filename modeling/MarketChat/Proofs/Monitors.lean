import MarketChat.Runtime.Scheduler
/-!
# One process among others, and monitors of its moves

A contract (`Contract.Obeys`) says what every process keeps. Some properties are about one
process only: which moves it makes, in which order, and when. Here a process is looked at on its
own, and the others stand for whatever may happen while it waits (`Proc.Meanwhile`): time goes
forward but not past the deadline of the wait, since the scheduler wakes a wait when it is due,
a cancelled token stays cancelled, and what the others are assumed to keep (`keep`) is kept.
Between two of its waits a process runs atomically, and a wait whose condition already holds
ends at once, as in `Run.segment`.

`Proc.Runs keep p s tr q s'`: started in `s`, the process `p` comes to `q` in `s'`, and `tr`
lists its own moves, each with the state before and after its own part; the part of a wait is
taking what it waited for.

A `Monitor` follows the moves of a process: it relates its states by the moves it allows (one
move may lead to several states, and the monitor may take any of them), and it says where the
process may wait and what it assumes of the others. `Monitor.Follows` is a program logic for it
in the style of `Contract.Obeys`, with one rule per building block of `Proc`; its rule for a
wait names the state the monitor takes at each way the wait may end.

Main statement: `Monitor.Follows.runs`: along every run of a process that a monitor follows,
the monitor follows every move, and the process goes on to be followed from where the run stops,
so it waits only where the monitor allows and ends only where its end condition holds.
-/

namespace MarketChat

/-- One move of a process: an atomic step of its own, or the end of a wait (`woke`), with the
state before and after its own part. -/
structure Move (σ : Type) where
  woke : Bool
  before : σ
  after : σ

namespace Proc

/-- Ending in the value reached is no step at all. -/
@[simp] theorem bind_pure {σ α : Type} (p : Proc σ α) : p.bind Proc.pure = p := by
  induction p with
  | pure => rfl
  | abort => rfl
  | step g k ih => exact congrArg (Proc.step g) (funext ih)
  | block b k ih => exact congrArg (Proc.block b) (funext ih)
  | spawn t k _ ihk => exact congrArg (Proc.spawn t) (funext ihk)
  | kill t k ih => exact congrArg (Proc.kill t) ih
  | current k ih => exact congrArg Proc.current (funext ih)

variable {σ : Type} [Runtime σ]

/-- What the others may do while a process waits, from `s` to `s₁`, on a wait with deadline `d`:
time goes forward but not past the deadline, a cancelled token stays cancelled, and `keep`
holds. -/
structure Meanwhile (keep : σ → σ → Prop) (d : Option Nat) (s s₁ : σ) : Prop where
  now_le : Runtime.now s ≤ Runtime.now s₁
  le_deadline : ∀ t, d = some t → Runtime.now s₁ ≤ max t (Runtime.now s)
  cancelled : ∀ t, Runtime.cancelled s t = true → Runtime.cancelled s₁ t = true
  kept : keep s s₁

/-- The runs of a process among others that keep `keep`: `p` comes from `s` to `q` in `s'` by
its own moves `tr`. A wait whose condition holds ends at once; otherwise the others run first. -/
inductive Runs (keep : σ → σ → Prop) :
    {α : Type} → Proc σ α → σ → List (Move σ) → Proc σ α → σ → Prop
  | refl {α : Type} (p : Proc σ α) (s : σ) : Runs keep p s [] p s
  | step {α β : Type} {f : σ → β × σ} {k : β → Proc σ α} {s : σ} {tr : List (Move σ)}
      {q : Proc σ α} {s' : σ} :
      Runs keep (k (f s).1) (f s).2 tr q s' → Runs keep (.step f k) s (⟨false, s, (f s).2⟩ :: tr) q s'
  | ready {α β : Type} {b : Blocker σ β} {k : Wake β → Proc σ α} {s : σ} {v : β} {s₁ : σ}
      {tr : List (Move σ)} {q : Proc σ α} {s' : σ} :
      b.ready s = some (v, s₁) → Runs keep (k (.ready v)) s₁ tr q s' →
      Runs keep (.block b k) s (⟨true, s, s₁⟩ :: tr) q s'
  | wake {α β : Type} {b : Blocker σ β} {k : Wake β → Proc σ α} {s s₁ : σ} {p : Proc σ α}
      {s₂ : σ} {tr : List (Move σ)} {q : Proc σ α} {s' : σ} :
      b.ready s = none → Meanwhile keep b.deadline s s₁ →
      (Proc.block b k).resume s₁ = some (p, s₂) → Runs keep p s₂ tr q s' →
      Runs keep (.block b k) s (⟨true, s₁, s₂⟩ :: tr) q s'
  | spawn {α : Type} {t : Proc σ Unit} {k : Nat → Proc σ α} {s : σ} (i : Nat)
      {tr : List (Move σ)} {q : Proc σ α} {s' : σ} :
      Runs keep (k i) s tr q s' → Runs keep (.spawn t k) s tr q s'
  | kill {α : Type} {i : Nat} {k : Proc σ α} {s : σ} {tr : List (Move σ)} {q : Proc σ α}
      {s' : σ} : Runs keep k s tr q s' → Runs keep (.kill i k) s tr q s'
  | current {α : Type} {k : Nat → Proc σ α} {s : σ} (i : Nat) {tr : List (Move σ)}
      {q : Proc σ α} {s' : σ} : Runs keep (k i) s tr q s' → Runs keep (.current k) s tr q s'

/-- The process waits in `s`: the condition of its wait does not hold. -/
def Waiting {α : Type} : Proc σ α → σ → Prop
  | .block b _, s => b.ready s = none
  | _, _ => False

end Proc

/-- A monitor of the moves of a process, with states `M`. -/
structure Monitor (σ M : Type) where
  /-- The moves the monitor allows from a state, with the states each may lead to. -/
  next : M → Move σ → M → Prop
  /-- Where the process may wait: in the state `s`, on a wait with deadline `d`. -/
  rests : M → σ → Option Nat → Prop
  /-- What the monitor assumes the other processes keep while this one waits. -/
  others : σ → σ → Prop

namespace Monitor

variable {σ M : Type} (mon : Monitor σ M)

/-- The monitor follows a list of moves from `m` to `m'`. -/
inductive Accepts : M → List (Move σ) → M → Prop
  | nil (m : M) : Accepts m [] m
  | cons {m m₁ m₂ : M} {mv : Move σ} {tr : List (Move σ)} :
      mon.next m mv m₁ → Accepts m₁ tr m₂ → Accepts m (mv :: tr) m₂

variable [Runtime σ]

/-- The process `p`, started in `s` with the monitor in `m`, makes only moves the monitor
follows, waits only where it allows, and ends in `Q`; `gs` are the tokens of the guards around
it, as in `Contract.Obeys`. A wait names the monitor's state after each way it may end: at once
(`now`), interrupted (`aborted`), or later (`later`). -/
inductive Follows : List Nat → {α : Type} → (α → σ → M → Prop) → Proc σ α → σ → M → Prop
  | pure {gs : List Nat} {α : Type} {Q : α → σ → M → Prop} {a : α} {s : σ} {m : M} :
      Q a s m → Follows gs Q (.pure a) s m
  | abort {gs : List Nat} {α : Type} {Q : α → σ → M → Prop} {t : Nat} {s : σ} {m : M} :
      Runtime.cancelled s t = true → Follows gs Q (.abort t) s m
  | step {gs : List Nat} {α β : Type} {Q : α → σ → M → Prop} {f : σ → β × σ}
      {k : β → Proc σ α} {s : σ} {m : M} (m' : M) :
      mon.next m ⟨false, s, (f s).2⟩ m' → Follows gs Q (k (f s).1) (f s).2 m' →
      Follows gs Q (.step f k) s m
  | block {gs : List Nat} {α β : Type} {Q : α → σ → M → Prop} {b : Blocker σ β}
      {k : Wake β → Proc σ α} {s : σ} {m : M} (now : β → σ → M) (aborted : σ → Nat → M)
      (later : σ → β → σ → M) :
      (∀ v s', b.ready s = some (v, s') → mon.next m ⟨true, s, s'⟩ (now v s')) →
      (∀ v s', b.ready s = some (v, s') → Follows gs Q (k (.ready v)) s' (now v s')) →
      (b.ready s = none → mon.rests m s b.deadline) →
      (∀ s₁ t, b.ready s = none → Proc.Meanwhile mon.others b.deadline s s₁ →
        t ∈ gs ++ b.aborts → Runtime.cancelled s₁ t = true →
        mon.next m ⟨true, s₁, s₁⟩ (aborted s₁ t)) →
      (∀ s₁ t, b.ready s = none → Proc.Meanwhile mon.others b.deadline s s₁ →
        t ∈ gs ++ b.aborts → Runtime.cancelled s₁ t = true →
        Follows gs Q (k (.aborted t)) s₁ (aborted s₁ t)) →
      (∀ s₁ v s', b.ready s = none → Proc.Meanwhile mon.others b.deadline s s₁ →
        (∀ t ∈ gs ++ b.aborts, Runtime.cancelled s₁ t = false) → b.ready s₁ = some (v, s') →
        mon.next m ⟨true, s₁, s'⟩ (later s₁ v s')) →
      (∀ s₁ v s', b.ready s = none → Proc.Meanwhile mon.others b.deadline s s₁ →
        (∀ t ∈ gs ++ b.aborts, Runtime.cancelled s₁ t = false) → b.ready s₁ = some (v, s') →
        Follows gs Q (k (.ready v)) s' (later s₁ v s')) →
      Follows gs Q (.block b k) s m
  | spawn {gs : List Nat} {α : Type} {Q : α → σ → M → Prop} {t : Proc σ Unit}
      {k : Nat → Proc σ α} {s : σ} {m : M} :
      (∀ i, Follows gs Q (k i) s m) → Follows gs Q (.spawn t k) s m
  | kill {gs : List Nat} {α : Type} {Q : α → σ → M → Prop} {i : Nat} {k : Proc σ α} {s : σ}
      {m : M} : Follows gs Q k s m → Follows gs Q (.kill i k) s m
  | current {gs : List Nat} {α : Type} {Q : α → σ → M → Prop} {k : Nat → Proc σ α} {s : σ}
      {m : M} : (∀ i, Follows gs Q (k i) s m) → Follows gs Q (.current k) s m

variable {mon}

/-! ## Runs -/

/-- **Monitors follow runs.** Along a run of a process that the monitor follows from its
start, among others that keep what the monitor assumes, the monitor follows every move, and it
still follows the process where the run stops. -/
theorem Follows.runs {α : Type} {Q : α → σ → M → Prop} {p : Proc σ α} {s : σ} {m : M}
    {tr : List (Move σ)} {q : Proc σ α} {s' : σ} (h : mon.Follows [] Q p s m)
    (hr : Proc.Runs mon.others p s tr q s') :
    ∃ m', mon.Accepts m tr m' ∧ mon.Follows [] Q q s' m' := by
  induction hr generalizing m with
  | refl => exact ⟨m, .nil m, h⟩
  | step _ ih =>
    cases h with
    | step m₁ hm hk =>
      obtain ⟨m', hrun, hq⟩ := ih hk
      exact ⟨m', .cons hm hrun, hq⟩
  | ready hv _ ih =>
    cases h with
    | block _ _ _ hnow hnowk _ _ _ _ _ =>
      obtain ⟨m', hrun, hq⟩ := ih (hnowk _ _ hv)
      exact ⟨m', .cons (hnow _ _ hv) hrun, hq⟩
  | wake hwait hmean hres _ ih =>
    cases h with
    | block _ _ _ _ _ _ habort habortk hready hreadyk =>
      -- the tokens are looked at first, then the condition
      simp only [Proc.resume] at hres
      split at hres
      · next t hfind =>
        obtain ⟨rfl, rfl⟩ := Prod.mk.inj (Option.some.inj hres)
        have ht := List.mem_append_right [] (List.mem_of_find?_eq_some hfind)
        have hct := List.find?_some hfind
        obtain ⟨m', hrun, hq⟩ := ih (habortk _ t hwait hmean ht hct)
        exact ⟨m', .cons (habort _ t hwait hmean ht hct) hrun, hq⟩
      · next hfind =>
        split at hres
        · next v s₃ hv =>
          obtain ⟨rfl, rfl⟩ := Prod.mk.inj (Option.some.inj hres)
          have hlive := fun t (ht : t ∈ [] ++ _) =>
            Bool.of_not_eq_true (List.find?_eq_none.1 hfind t (by simpa using ht))
          obtain ⟨m', hrun, hq⟩ := ih (hreadyk _ v _ hwait hmean hlive hv)
          exact ⟨m', .cons (hready _ v _ hwait hmean hlive hv) hrun, hq⟩
        · cases hres
  | spawn i _ ih => cases h with | spawn hk => exact ih (hk i)
  | kill _ ih => cases h with | kill hk => exact ih hk
  | current i _ ih => cases h with | current hk => exact ih (hk i)

/-- A followed process waits only where the monitor allows. -/
theorem Follows.rests {gs : List Nat} {α : Type} {Q : α → σ → M → Prop} {q : Proc σ α} {s : σ}
    {m : M} (h : mon.Follows gs Q q s m) (hw : q.Waiting s) : mon.rests m s q.deadline? := by
  cases h with
  | block _ _ _ _ _ hrest _ _ _ _ => exact hrest hw
  | _ => exact hw.elim

/-- A followed process ends in its end condition. -/
theorem Follows.ended {gs : List Nat} {α : Type} {Q : α → σ → M → Prop} {a : α} {s : σ} {m : M}
    (h : mon.Follows gs Q (.pure a) s m) : Q a s m := by
  cases h with
  | pure hq => exact hq

/-! ## Waits, given by what the monitor can do at each of their ends -/

/-- A wait is followed when, at each way it may end, the monitor can take some state from which
the rest is followed. -/
theorem Follows.block_of {gs : List Nat} {α β : Type} {Q : α → σ → M → Prop}
    {b : Blocker σ β} {k : Wake β → Proc σ α} {s : σ} {m : M}
    (hnow : ∀ v s', b.ready s = some (v, s') →
      ∃ m', mon.next m ⟨true, s, s'⟩ m' ∧ mon.Follows gs Q (k (.ready v)) s' m')
    (hrest : b.ready s = none → mon.rests m s b.deadline)
    (habort : ∀ s₁ t, b.ready s = none → Proc.Meanwhile mon.others b.deadline s s₁ →
      t ∈ gs ++ b.aborts → Runtime.cancelled s₁ t = true →
      ∃ m', mon.next m ⟨true, s₁, s₁⟩ m' ∧ mon.Follows gs Q (k (.aborted t)) s₁ m')
    (hlater : ∀ s₁ v s', b.ready s = none → Proc.Meanwhile mon.others b.deadline s s₁ →
      (∀ t ∈ gs ++ b.aborts, Runtime.cancelled s₁ t = false) → b.ready s₁ = some (v, s') →
      ∃ m', mon.next m ⟨true, s₁, s'⟩ m' ∧ mon.Follows gs Q (k (.ready v)) s' m') :
    mon.Follows gs Q (.block b k) s m := by
  classical
  -- the monitor's state at each end is one that the hypotheses give, where there is one
  refine .block
    (fun v s' => if h : b.ready s = some (v, s') then (hnow v s' h).choose else m)
    (fun s₁ t => if h : b.ready s = none ∧ Proc.Meanwhile mon.others b.deadline s s₁ ∧
        t ∈ gs ++ b.aborts ∧ Runtime.cancelled s₁ t = true
      then (habort s₁ t h.1 h.2.1 h.2.2.1 h.2.2.2).choose else m)
    (fun s₁ v s' => if h : b.ready s = none ∧ Proc.Meanwhile mon.others b.deadline s s₁ ∧
        (∀ t ∈ gs ++ b.aborts, Runtime.cancelled s₁ t = false) ∧ b.ready s₁ = some (v, s')
      then (hlater s₁ v s' h.1 h.2.1 h.2.2.1 h.2.2.2).choose else m)
    ?_ ?_ hrest ?_ ?_ ?_ ?_
  · intro v s' h
    rw [dif_pos h]
    exact (hnow v s' h).choose_spec.1
  · intro v s' h
    rw [dif_pos h]
    exact (hnow v s' h).choose_spec.2
  · intro s₁ t hw hmean ht hc
    rw [dif_pos ⟨hw, hmean, ht, hc⟩]
    exact (habort s₁ t hw hmean ht hc).choose_spec.1
  · intro s₁ t hw hmean ht hc
    rw [dif_pos ⟨hw, hmean, ht, hc⟩]
    exact (habort s₁ t hw hmean ht hc).choose_spec.2
  · intro s₁ v s' hw hmean hlive hv
    rw [dif_pos ⟨hw, hmean, hlive, hv⟩]
    exact (hlater s₁ v s' hw hmean hlive hv).choose_spec.1
  · intro s₁ v s' hw hmean hlive hv
    rw [dif_pos ⟨hw, hmean, hlive, hv⟩]
    exact (hlater s₁ v s' hw hmean hlive hv).choose_spec.2

/-! ## Consequence and sequencing -/

/-- Sequencing: `p` is followed and ends in `Q`, and what follows is followed from every such
end. -/
theorem Follows.bind {gs : List Nat} {α : Type} {Q : α → σ → M → Prop} {p : Proc σ α} {s : σ}
    {m : M} (h : mon.Follows gs Q p s m) : ∀ {β : Type} {Q' : β → σ → M → Prop}
      {f : α → Proc σ β}, (∀ a s' m', Q a s' m' → mon.Follows gs Q' (f a) s' m') →
      mon.Follows gs Q' (p.bind f) s m := by
  induction h with
  | pure hq => exact fun hf => hf _ _ _ hq
  | abort hc => exact fun _ => .abort hc
  | step m' hm _ ih => exact fun hf => .step m' hm (ih hf)
  | block now aborted later hnow _ hrest habort _ hready _ ihnow ihabort ihready =>
    exact fun hf => .block now aborted later hnow (fun v s' hv => ihnow v s' hv hf) hrest habort
      (fun s₁ t hw hmean ht hct => ihabort s₁ t hw hmean ht hct hf) hready
      (fun s₁ v s' hw hmean hlive hv => ihready s₁ v s' hw hmean hlive hv hf)
  | spawn _ ih => exact fun hf => .spawn fun i => ih i hf
  | kill _ ih => exact fun hf => .kill (ih hf)
  | current _ ih => exact fun hf => .current fun i => ih i hf

/-- `bind` as the monad writes it. -/
theorem Follows.seq {gs : List Nat} {α β : Type} {Q : α → σ → M → Prop}
    {Q' : β → σ → M → Prop} {p : Proc σ α} {f : α → Proc σ β} {s : σ} {m : M}
    (h : mon.Follows gs Q p s m) (hf : ∀ a s' m', Q a s' m' → mon.Follows gs Q' (f a) s' m') :
    mon.Follows gs Q' (p >>= f) s m :=
  h.bind hf

/-- A weaker end condition. -/
theorem Follows.weaken {gs : List Nat} {α : Type} {Q Q' : α → σ → M → Prop} {p : Proc σ α}
    {s : σ} {m : M} (h : mon.Follows gs Q p s m) (hQ : ∀ a s' m', Q a s' m' → Q' a s' m') :
    mon.Follows gs Q' p s m := by
  have hb : mon.Follows gs Q' (p.bind Proc.pure) s m :=
    h.bind fun a s' m' hq => .pure (hQ a s' m' hq)
  rwa [Proc.bind_pure] at hb

/-! ## Guards -/

/-- The end condition of a guarded process: its own when it ran to the end, or the guard's token
cancelled when it was cut short. -/
def Caught {α : Type} (tok : Nat) (Q : α → σ → M → Prop) : Option α → σ → M → Prop
  | some a, s, m => Q a s m
  | none, s, _ => Runtime.cancelled s tok = true

/-- Guarding by `tok` catches its unwinding: inside the guard, resumptions need only be
considered while `tok` is not cancelled. -/
theorem Follows.guardWith {gs' : List Nat} {α : Type} {Q : α → σ → M → Prop} {p : Proc σ α}
    {s : σ} {m : M} (h : mon.Follows gs' Q p s m) : ∀ {tok gs}, gs' = tok :: gs →
      mon.Follows gs (Caught tok Q) (p.guardWith tok) s m := by
  induction h with
  | pure hq => exact fun _ => .pure hq
  | abort hc =>
    intro tok gs _
    simp only [Proc.guardWith]
    split
    · next ht => subst ht; exact .pure hc
    · exact .abort hc
  | step m' hm _ ih => exact fun hgs => .step m' hm (ih hgs)
  | block now aborted later hnow _ hrest habort _ hready _ ihnow ihabort ihready =>
    intro tok gs hgs
    subst hgs
    -- the guard's token joins the wait's tokens: the same tokens, in another order
    have hmem : ∀ (l : List Nat) t, t ∈ gs ++ (tok :: l) ↔ t ∈ (tok :: gs) ++ l := by
      intro l t
      simp only [List.mem_append, List.mem_cons, or_assoc]
      exact or_left_comm
    exact .block now aborted later hnow (fun v s' hv => ihnow v s' hv rfl) hrest
      (fun s₁ t hw hmean ht hct => habort s₁ t hw hmean ((hmem _ t).1 ht) hct)
      (fun s₁ t hw hmean ht hct => ihabort s₁ t hw hmean ((hmem _ t).1 ht) hct rfl)
      (fun s₁ v s' hw hmean hlive hv =>
        hready s₁ v s' hw hmean (fun t ht => hlive t ((hmem _ t).2 ht)) hv)
      (fun s₁ v s' hw hmean hlive hv =>
        ihready s₁ v s' hw hmean (fun t ht => hlive t ((hmem _ t).2 ht)) hv rfl)
  | spawn _ ih => exact fun hgs => .spawn fun i => ih i hgs
  | kill _ ih => exact fun hgs => .kill (ih hgs)
  | current _ ih => exact fun hgs => .current fun i => ih i hgs

/-- A guarded process: the token is read first; cut short at once when it is already
cancelled, else run under the guard. -/
theorem Follows.guarded {gs : List Nat} {β : Type} {Q : β → σ → M → Prop} {p : Proc σ β}
    {tok : Nat} {s : σ} {m m₁ : M} (hread : mon.next m ⟨false, s, s⟩ m₁)
    (hrun : Runtime.cancelled s tok = false → mon.Follows (tok :: gs) Q p s m₁) :
    mon.Follows gs (Caught tok Q) (Proc.guarded tok p) s m := by
  refine .step m₁ hread ?_
  cases h : Runtime.cancelled s tok with
  | true => exact .pure h
  | false => exact (hrun h).guardWith rfl

/-! ## Building blocks followed by the rest of a process -/

theorem Follows.update_bind {gs : List Nat} {α β : Type} {Q : α → σ → M → Prop}
    {f : σ → β × σ} {k : β → Proc σ α} {s : σ} {m m' : M}
    (hm : mon.next m ⟨false, s, (f s).2⟩ m') (h : mon.Follows gs Q (k (f s).1) (f s).2 m') :
    mon.Follows gs Q (Proc.update f >>= k) s m :=
  .step m' hm h

theorem Follows.read_bind {gs : List Nat} {α β : Type} {Q : α → σ → M → Prop} {f : σ → β}
    {k : β → Proc σ α} {s : σ} {m m' : M} (hm : mon.next m ⟨false, s, s⟩ m')
    (h : mon.Follows gs Q (k (f s)) s m') : mon.Follows gs Q (Proc.read f >>= k) s m :=
  .step m' hm h

theorem Follows.modify_bind {gs : List Nat} {α : Type} {Q : α → σ → M → Prop} {f : σ → σ}
    {k : Unit → Proc σ α} {s : σ} {m m' : M} (hm : mon.next m ⟨false, s, f s⟩ m')
    (h : mon.Follows gs Q (k ()) (f s) m') : mon.Follows gs Q (Proc.modify f >>= k) s m :=
  .step m' hm h

/-- Starting a task: the task is another process, and is not followed. -/
theorem Follows.fork_bind {gs : List Nat} {α : Type} {Q : α → σ → M → Prop} {t : Proc σ Unit}
    {k : Nat → Proc σ α} {s : σ} {m : M} (h : ∀ i, mon.Follows gs Q (k i) s m) :
    mon.Follows gs Q (Proc.fork t >>= k) s m :=
  .spawn h

/-- A wait: over at once, or resting where it waits, and followed wherever it is resumed. An
interrupted wait unwinds, so only the monitor's move has to be allowed then. -/
theorem Follows.await_bind {gs : List Nat} {α β : Type} {Q : α → σ → M → Prop}
    {b : Blocker σ β} {k : β → Proc σ α} {s : σ} {m : M}
    (hnow : ∀ v s', b.ready s = some (v, s') →
      ∃ m', mon.next m ⟨true, s, s'⟩ m' ∧ mon.Follows gs Q (k v) s' m')
    (hrest : b.ready s = none → mon.rests m s b.deadline)
    (habort : ∀ s₁, b.ready s = none → Proc.Meanwhile mon.others b.deadline s s₁ →
      (∃ t ∈ gs ++ b.aborts, Runtime.cancelled s₁ t = true) →
      ∃ m', mon.next m ⟨true, s₁, s₁⟩ m')
    (hlater : ∀ s₁, b.ready s = none → Proc.Meanwhile mon.others b.deadline s s₁ →
      (∀ t ∈ gs ++ b.aborts, Runtime.cancelled s₁ t = false) → ∀ v s',
      b.ready s₁ = some (v, s') →
      ∃ m', mon.next m ⟨true, s₁, s'⟩ m' ∧ mon.Follows gs Q (k v) s' m') :
    mon.Follows gs Q (Proc.await b >>= k) s m := by
  refine Follows.block_of hnow hrest ?_ fun s₁ v s' hw hmean hlive hv =>
    hlater s₁ hw hmean hlive v s' hv
  intro s₁ t hw hmean ht hct
  obtain ⟨m', hm⟩ := habort s₁ hw hmean ⟨t, ht, hct⟩
  exact ⟨m', hm, .abort hct⟩

/-- A wait that ends the process. -/
theorem Follows.await {gs : List Nat} {β : Type} {Q : β → σ → M → Prop} {b : Blocker σ β}
    {s : σ} {m : M}
    (hnow : ∀ v s', b.ready s = some (v, s') → ∃ m', mon.next m ⟨true, s, s'⟩ m' ∧ Q v s' m')
    (hrest : b.ready s = none → mon.rests m s b.deadline)
    (habort : ∀ s₁, b.ready s = none → Proc.Meanwhile mon.others b.deadline s s₁ →
      (∃ t ∈ gs ++ b.aborts, Runtime.cancelled s₁ t = true) →
      ∃ m', mon.next m ⟨true, s₁, s₁⟩ m')
    (hlater : ∀ s₁, b.ready s = none → Proc.Meanwhile mon.others b.deadline s s₁ →
      (∀ t ∈ gs ++ b.aborts, Runtime.cancelled s₁ t = false) → ∀ v s',
      b.ready s₁ = some (v, s') → ∃ m', mon.next m ⟨true, s₁, s'⟩ m' ∧ Q v s' m') :
    mon.Follows gs Q (Proc.await b) s m := by
  rw [← Proc.bind_pure (Proc.await b)]
  refine Follows.await_bind (fun v s' hv => ?_) hrest habort fun s₁ hw hmean hlive v s' hv => ?_
  · obtain ⟨m', hm, hq⟩ := hnow v s' hv
    exact ⟨m', hm, .pure hq⟩
  · obtain ⟨m', hm, hq⟩ := hlater s₁ hw hmean hlive v s' hv
    exact ⟨m', hm, .pure hq⟩

/-- A sleep of `ms`: the time is read, then the wait is over at once when `ms` is zero, or
rests with the deadline `ms` later and ends exactly then, unless a guard's token is
cancelled first. -/
theorem Follows.sleep_bind {gs : List Nat} {α : Type} {Q : α → σ → M → Prop} {ms : Nat}
    {k : Unit → Proc σ α} {s : σ} {m m₁ : M} (htime : mon.next m ⟨false, s, s⟩ m₁)
    (hnow : ms = 0 → ∃ m', mon.next m₁ ⟨true, s, s⟩ m' ∧ mon.Follows gs Q (k ()) s m')
    (hrest : 0 < ms → mon.rests m₁ s (some (Runtime.now s + ms)))
    (habort : ∀ s₁, 0 < ms → Proc.Meanwhile mon.others (some (Runtime.now s + ms)) s s₁ →
      (∃ t ∈ gs, Runtime.cancelled s₁ t = true) → ∃ m', mon.next m₁ ⟨true, s₁, s₁⟩ m')
    (hlater : ∀ s₁, 0 < ms → Proc.Meanwhile mon.others (some (Runtime.now s + ms)) s s₁ →
      Runtime.now s₁ = Runtime.now s + ms → (∀ t ∈ gs, Runtime.cancelled s₁ t = false) →
      ∃ m', mon.next m₁ ⟨true, s₁, s₁⟩ m' ∧ mon.Follows gs Q (k ()) s₁ m') :
    mon.Follows gs Q (Proc.sleep ms >>= k) s m := by
  refine .step m₁ htime ?_
  show mon.Follows gs Q (Proc.await _ >>= k) s m₁
  refine Follows.await_bind ?_ ?_ ?_ ?_
  · intro v s' hv
    simp only [Option.ite_none_right_eq_some, Option.some.injEq, Prod.mk.injEq] at hv
    obtain ⟨hle, -, rfl⟩ := hv
    exact hnow (by omega)
  · intro hw
    simp only [ite_eq_right_iff, reduceCtorEq, imp_false, Nat.not_le] at hw
    exact hrest (by omega)
  · intro s₁ hw hmean ⟨t, ht, hct⟩
    simp only [ite_eq_right_iff, reduceCtorEq, imp_false, Nat.not_le] at hw
    exact habort s₁ (by omega) hmean ⟨t, by simpa using ht, hct⟩
  · intro s₁ hw hmean hlive v s' hv
    simp only [ite_eq_right_iff, reduceCtorEq, imp_false, Nat.not_le] at hw
    simp only [Option.ite_none_right_eq_some, Option.some.injEq, Prod.mk.injEq] at hv
    obtain ⟨hle, -, rfl⟩ := hv
    -- the others cannot move time past the deadline, and the wait needs it reached
    have hdue := hmean.le_deadline _ rfl
    have hexact : Runtime.now s₁ = Runtime.now s + ms := by omega
    exact hlater s₁ (by omega) hmean hexact fun t ht => hlive t (by simpa using ht)

end Monitor

end MarketChat
