import MarketChat.Runtime.Scheduler
/-!
# Rely and guarantee, task by task

A `Contract` asks the same of every process. Some rules depend on who acts: a lock has one
holder, and what the lock protects may be done by its holder only. A `RelyGuarantee` says for
each task number what the steps of that task do (`guar`) and what the task relies on while it
does not run (`rely`): the steps of every other task, and time moving, are among what it relies
on. The scheduler gives a process its number (`Proc.self`); the main process runs as number 0,
and a started task runs under the number it is given.

`RelyGuarantee.Obeys rg me gs Q p s`: the process `p`, run as task `me` from `s`, keeps
`guar me` in each step and ends in `Q`. It ends, unwinds or waits only in a settled state, and
wherever it is resumed it copes with every settled state that `rely me` leads to. A task it
starts is held to the contract under its own number, one the state does not name yet
(`fresh`). As in `Contract.Obeys`, `gs` holds the
tokens of the guards around `p`.

Some processes keep a relation on states wherever they run: their steps can be checked against
`RelyGuarantee.anywhere N`, which relies on nothing but cancelled tokens staying cancelled.
`Obeys.transfer` carries such a proof to any contract whose settled states `N` keeps, and
`Obeys.transfer_on` to one where `N` keeps them only while a condition holds that every task
relies on keeping.

A cleanup on interruption runs only where the process may unwind: `Proc.UnwindsWithin T` says
it unwinds only by the tokens of `T`, and `Obeys.onAbort_within` asks the cleanup to keep the
contract only there.

Main statements: `RelyGuarantee.Obeys.bind`, `RelyGuarantee.Obeys.guardWith`,
`RelyGuarantee.Obeys.onAbort`, `RelyGuarantee.Obeys.transfer`,
`RelyGuarantee.Obeys.transfer_on`, `RelyGuarantee.Obeys.onAbort_within`, and one rule per
building block of `Proc`.
-/

namespace MarketChat

/-- What the processes of a pool promise each other, by task number: a step of task `me`
relates the states before and after it by `guar me`, and whatever happens while `me` does not
run is in `rely me`. `step` relates any two states of a run. -/
structure RelyGuarantee (σ : Type) [Runtime σ] where
  /-- Holds whenever no process runs. -/
  settled : σ → Prop
  /-- What a step of a task does. -/
  guar : Nat → σ → σ → Prop
  /-- What a task relies on while it does not run. -/
  rely : Nat → σ → σ → Prop
  /-- How any two states of a run are related. -/
  step : σ → σ → Prop
  /-- The number `j` is not taken in the state: nothing in it names `j` yet. -/
  fresh : Nat → σ → Prop
  guar_refl : ∀ me s, guar me s s
  rely_refl : ∀ me s, rely me s s
  rely_trans : ∀ {me a b c}, rely me a b → rely me b c → rely me a c
  rely_of_guar : ∀ {me you a b}, you ≠ me → guar you a b → rely me a b
  step_refl : ∀ s, step s s
  step_trans : ∀ {a b c}, step a b → step b c → step a c
  step_of_guar : ∀ {me a b}, guar me a b → step a b
  cancelled_of_rely : ∀ {me a b t}, rely me a b → Runtime.cancelled a t = true →
    Runtime.cancelled b t = true
  rely_setNow : ∀ me s t, rely me s (Runtime.setNow s t)
  step_setNow : ∀ s t, step s (Runtime.setNow s t)
  settled_setNow : ∀ {s} t, settled s → settled (Runtime.setNow s t)
  /-- A number not taken stays so while its task does not run. -/
  fresh_of_rely : ∀ {j a b}, rely j a b → fresh j a → fresh j b

namespace RelyGuarantee

variable {σ : Type} [Runtime σ] (rg : RelyGuarantee σ)

/-- The process `p`, run as task `me` from `s`, keeps the contract in every step and ends in
`Q`; `gs` are the tokens of the guards around it. -/
inductive Obeys : Nat → List Nat → {α : Type} → (α → σ → Prop) → Proc σ α → σ → Prop
  | pure {me gs α} {Q : α → σ → Prop} {a : α} {s : σ} : Q a s → Obeys me gs Q (.pure a) s
  | abort {me gs α} {Q : α → σ → Prop} {t : Nat} {s : σ} :
      Runtime.cancelled s t = true → rg.settled s → Obeys me gs Q (.abort t) s
  | step {me gs α β} {Q : α → σ → Prop} {f : σ → β × σ} {k : β → Proc σ α} {s : σ} :
      rg.guar me s (f s).2 → Obeys me gs Q (k (f s).1) (f s).2 → Obeys me gs Q (.step f k) s
  | block {me gs α β} {Q : α → σ → Prop} {b : Blocker σ β} {k : Wake β → Proc σ α} {s : σ} :
      (∀ v s', b.ready s = some (v, s') → rg.guar me s s') →
      (∀ v s', b.ready s = some (v, s') → Obeys me gs Q (k (.ready v)) s') →
      (b.ready s = none → rg.settled s) →
      (∀ s₁, rg.settled s₁ → rg.rely me s s₁ → ∀ t ∈ gs ++ b.aborts,
        Runtime.cancelled s₁ t = true → Obeys me gs Q (k (.aborted t)) s₁) →
      (∀ s₁, rg.settled s₁ → rg.rely me s s₁ →
        (∀ t ∈ gs ++ b.aborts, Runtime.cancelled s₁ t = false) →
        ∀ v s', b.ready s₁ = some (v, s') → rg.guar me s₁ s') →
      (∀ s₁, rg.settled s₁ → rg.rely me s s₁ →
        (∀ t ∈ gs ++ b.aborts, Runtime.cancelled s₁ t = false) →
        ∀ v s', b.ready s₁ = some (v, s') → Obeys me gs Q (k (.ready v)) s') →
      Obeys me gs Q (.block b k) s
  | spawn {me gs α} {Q : α → σ → Prop} {t : Proc σ Unit} {k : Nat → Proc σ α} {s : σ} :
      (∀ j, j ≠ me → rg.fresh j s → ∀ s₁, rg.settled s₁ → rg.rely j s s₁ → ∀ p s',
        t.resume s₁ = some (p, s') → rg.guar j s₁ s') →
      (∀ j, j ≠ me → rg.fresh j s → ∀ s₁, rg.settled s₁ → rg.rely j s s₁ → ∀ p s',
        t.resume s₁ = some (p, s') → Obeys j [] (fun _ => rg.settled) p s') →
      (∀ i, Obeys me gs Q (k i) s) → Obeys me gs Q (.spawn t k) s
  | kill {me gs α} {Q : α → σ → Prop} {i : Nat} {k : Proc σ α} {s : σ} :
      Obeys me gs Q k s → Obeys me gs Q (.kill i k) s
  | current {me gs α} {Q : α → σ → Prop} {k : Nat → Proc σ α} {s : σ} :
      Obeys me gs Q (k me) s → Obeys me gs Q (.current k) s

/-- A process put aside in `s` as task `me` (waiting, or not started yet) keeps the contract
from every settled state it is resumed in. -/
def Parked (me : Nat) {α : Type} (Q : α → σ → Prop) (p : Proc σ α) (s : σ) : Prop :=
  ∀ s₁, rg.settled s₁ → rg.rely me s s₁ → ∀ p' s', p.resume s₁ = some (p', s') →
    rg.guar me s₁ s' ∧ Obeys rg me [] Q p' s'

variable {rg}

/-! ## Consequence and sequencing -/

/-- Sequencing: `p` obeys and ends in `Q`, and what follows obeys from every such end. -/
theorem Obeys.bind {me : Nat} {gs : List Nat} {α : Type} {Q : α → σ → Prop} {p : Proc σ α}
    {s : σ} (h : rg.Obeys me gs Q p s) : ∀ {β : Type} {Q' : β → σ → Prop} {f : α → Proc σ β},
      (∀ a s', Q a s' → rg.Obeys me gs Q' (f a) s') → rg.Obeys me gs Q' (p.bind f) s := by
  induction h with
  | pure hq => exact fun hf => hf _ _ hq
  | abort hc hs => exact fun _ => .abort hc hs
  | step hs _ ih => exact fun hf => .step hs (ih hf)
  | block hnow _ hwait _ hready _ ihnow ihabort ihready =>
    exact fun hf => .block hnow (fun v s' hv => ihnow v s' hv hf) hwait
      (fun s₁ hs₁ hr t ht hct => ihabort s₁ hs₁ hr t ht hct hf) hready
      (fun s₁ hs₁ hr hlive v s' hv => ihready s₁ hs₁ hr hlive v s' hv hf)
  | spawn hts ht _ _ ihk => exact fun hf => .spawn hts ht fun i => ihk i hf
  | kill _ ih => exact fun hf => .kill (ih hf)
  | current _ ih => exact fun hf => .current (ih hf)

/-- `bind` as the monad writes it. -/
theorem Obeys.seq {me : Nat} {gs : List Nat} {α β : Type} {Q : α → σ → Prop}
    {Q' : β → σ → Prop} {p : Proc σ α} {f : α → Proc σ β} {s : σ} (h : rg.Obeys me gs Q p s)
    (hf : ∀ a s', Q a s' → rg.Obeys me gs Q' (f a) s') : rg.Obeys me gs Q' (p >>= f) s :=
  h.bind hf

/-- A weaker end condition. -/
theorem Obeys.weaken {me : Nat} {gs : List Nat} {α : Type} {Q Q' : α → σ → Prop}
    {p : Proc σ α} {s : σ} (h : rg.Obeys me gs Q p s) (hQ : ∀ a s', Q a s' → Q' a s') :
    rg.Obeys me gs Q' p s := by
  induction h with
  | pure hq => exact .pure (hQ _ _ hq)
  | abort hc hs => exact .abort hc hs
  | step hs _ ih => exact .step hs (ih hQ)
  | block hnow _ hwait _ hready _ ihnow ihabort ihready =>
    exact .block hnow (fun v s' hv => ihnow v s' hv hQ) hwait
      (fun s₁ hs₁ hr t ht hct => ihabort s₁ hs₁ hr t ht hct hQ) hready
      (fun s₁ hs₁ hr hlive v s' hv => ihready s₁ hs₁ hr hlive v s' hv hQ)
  | spawn hts ht _ _ ihk => exact .spawn hts ht fun i => ihk i hQ
  | kill _ ih => exact .kill (ih hQ)
  | current _ ih => exact .current (ih hQ)

/-- `map` as the monad writes it: the end condition is read through the function. -/
theorem Obeys.map {me : Nat} {gs : List Nat} {α β : Type} {Q : β → σ → Prop} {p : Proc σ α}
    {f : α → β} {s : σ} (h : rg.Obeys me gs (fun a => Q (f a)) p s) :
    rg.Obeys me gs Q (f <$> p) s :=
  h.bind fun _ _ hq => .pure hq

/-! ## Guards -/

/-- The end condition of a guarded process: its own when it ran to the end, or the guard's
token cancelled in a settled state when it was cut short. -/
def Caught {α : Type} (tok : Nat) (Q : α → σ → Prop) : Option α → σ → Prop
  | some a, s => Q a s
  | none, s => Runtime.cancelled s tok = true ∧ rg.settled s

/-- Guarding by `tok` catches its unwinding: inside the guard, resumptions need only be
considered while `tok` is not cancelled. -/
theorem Obeys.guardWith {me : Nat} {gs' : List Nat} {α : Type} {Q : α → σ → Prop}
    {p : Proc σ α} {s : σ} (h : rg.Obeys me gs' Q p s) : ∀ {tok gs}, gs' = tok :: gs →
      rg.Obeys me gs (rg.Caught tok Q) (p.guardWith tok) s := by
  induction h with
  | pure hq => exact fun _ => .pure hq
  | @abort _ _ _ _ t _ hc hs =>
    intro tok gs _
    simp only [Proc.guardWith]
    split
    · next ht => subst ht; exact .pure ⟨hc, hs⟩
    · exact .abort hc hs
  | step hs _ ih => exact fun hgs => .step hs (ih hgs)
  | @block _ gs'' _ _ _ b k _ hnow _ hwait _ hready _ ihnow ihabort ihready =>
    intro tok gs hgs
    subst hgs
    -- the guard's token joins the wait's tokens: the same tokens, in another order
    have hmem : ∀ t, t ∈ gs ++ (tok :: b.aborts) ↔ t ∈ (tok :: gs) ++ b.aborts := by
      intro t
      simp only [List.mem_append, List.mem_cons, or_assoc]
      exact or_left_comm
    have hlive : ∀ {s₁ : σ}, (∀ t ∈ gs ++ (tok :: b.aborts), Runtime.cancelled s₁ t = false) →
        ∀ t ∈ (tok :: gs) ++ b.aborts, Runtime.cancelled s₁ t = false :=
      fun h t ht => h t ((hmem t).2 ht)
    exact .block hnow (fun v s' hv => ihnow v s' hv rfl) hwait
      (fun s₁ hs₁ hr t ht hct => ihabort s₁ hs₁ hr t ((hmem t).1 ht) hct rfl)
      (fun s₁ hs₁ hr hl v s' hv => hready s₁ hs₁ hr (hlive hl) v s' hv)
      (fun s₁ hs₁ hr hl v s' hv => ihready s₁ hs₁ hr (hlive hl) v s' hv rfl)
  | spawn hts ht _ _ ihk => exact fun hgs => .spawn hts ht fun i => ihk i hgs
  | kill _ ih => exact fun hgs => .kill (ih hgs)
  | current _ ih => exact fun hgs => .current (ih hgs)

/-- A guarded process: cut short at once when the token is already cancelled, else run under
the guard. -/
theorem Obeys.guarded {me : Nat} {gs : List Nat} {β : Type} {Q : β → σ → Prop} {p : Proc σ β}
    {tok : Nat} {s : σ} (hcut : Runtime.cancelled s tok = true → rg.settled s)
    (hrun : Runtime.cancelled s tok = false → rg.Obeys me (tok :: gs) Q p s) :
    rg.Obeys me gs (rg.Caught tok Q) (Proc.guarded tok p) s := by
  refine .step (rg.guar_refl me s) ?_
  cases h : Runtime.cancelled s tok with
  | true => exact .pure ⟨h, hcut h⟩
  | false => exact (hrun h).guardWith rfl

/-- A cleanup that keeps the contract and leaves the token cancelled in a settled state runs
where the process unwinds. -/
theorem Obeys.onAbort {me : Nat} {gs : List Nat} {α : Type} {Q : α → σ → Prop} {p : Proc σ α}
    {s : σ} {cleanup : Proc σ Unit} (h : rg.Obeys me gs Q p s)
    (hclean : ∀ t s', Runtime.cancelled s' t = true → rg.settled s' →
      rg.Obeys me gs (fun _ s'' => Runtime.cancelled s'' t = true ∧ rg.settled s'') cleanup s') :
    rg.Obeys me gs Q (Proc.onAbort cleanup p) s := by
  induction h with
  | pure hq => exact .pure hq
  | @abort _ _ _ _ t s' hc hs =>
    exact (hclean t s' hc hs).bind fun _ _ h' => .abort h'.1 h'.2
  | step hs _ ih => exact .step hs (ih hclean)
  | block hnow _ hwait _ hready _ ihnow ihabort ihready =>
    exact .block hnow (fun v s' hv => ihnow v s' hv hclean) hwait
      (fun s₁ hs₁ hr t ht hct => ihabort s₁ hs₁ hr t ht hct hclean) hready
      (fun s₁ hs₁ hr hlive v s' hv => ihready s₁ hs₁ hr hlive v s' hv hclean)
  | spawn hts ht _ _ ihk => exact .spawn hts ht fun i => ihk i hclean
  | kill _ ih => exact .kill (ih hclean)
  | current _ ih => exact .current (ih hclean)

/-! ## Processes put aside -/

/-- What a parked process needs holds for longer: what it relies on composes. -/
theorem Parked.of_rely {me : Nat} {α : Type} {Q : α → σ → Prop} {p : Proc σ α} {s s₂ : σ}
    (h : rg.Parked me Q p s) (hs : rg.rely me s s₂) : rg.Parked me Q p s₂ :=
  fun s₁ hs₁ hr => h s₁ hs₁ (rg.rely_trans hs hr)

/-- A waiting process that obeys is parked where it waits. -/
theorem Obeys.parked {me : Nat} {α β : Type} {Q : α → σ → Prop} {b : Blocker σ β}
    {k : Wake β → Proc σ α} {s : σ} (h : rg.Obeys me [] Q (.block b k) s) :
    rg.Parked me Q (.block b k) s := by
  cases h with
  | block _ _ _ habort hready hkready =>
    intro s₁ hs₁ hr p' s' hres
    simp only [Proc.resume] at hres
    split at hres
    · next t hfind =>
      cases hres
      have hmem : t ∈ [] ++ b.aborts := by simpa using List.mem_of_find?_eq_some hfind
      exact ⟨rg.guar_refl _ _, habort s₁ hs₁ hr t hmem (List.find?_some hfind)⟩
    · next hfind =>
      have hlive : ∀ t ∈ [] ++ b.aborts, Runtime.cancelled s₁ t = false := by
        intro t ht
        simpa using List.find?_eq_none.1 hfind t (by simpa using ht)
      split at hres
      · next v s'' hv =>
        obtain ⟨rfl, rfl⟩ := Prod.mk.inj (Option.some.inj hres)
        exact ⟨hready s₁ hs₁ hr hlive v s'' hv, hkready s₁ hs₁ hr hlive v s'' hv⟩
      · cases hres

/-- A process that obeys from every later settled state is parked. -/
theorem parked_of_obeys {me : Nat} {α : Type} {Q : α → σ → Prop} {p : Proc σ α} {s : σ}
    (h : ∀ s₁, rg.settled s₁ → rg.rely me s s₁ → rg.Obeys me [] Q p s₁) :
    rg.Parked me Q p s := by
  intro s₁ hs₁ hr p' s' hres
  cases p with
  | block b k => exact (h s₁ hs₁ hr).parked s₁ hs₁ (rg.rely_refl _ s₁) p' s' hres
  | pure a => cases hres; exact ⟨rg.guar_refl _ _, h s₁ hs₁ hr⟩
  | abort t => cases hres; exact ⟨rg.guar_refl _ _, h s₁ hs₁ hr⟩
  | step f k => cases hres; exact ⟨rg.guar_refl _ _, h s₁ hs₁ hr⟩
  | spawn t k => cases hres; exact ⟨rg.guar_refl _ _, h s₁ hs₁ hr⟩
  | kill i k => cases hres; exact ⟨rg.guar_refl _ _, h s₁ hs₁ hr⟩
  | current k => cases hres; exact ⟨rg.guar_refl _ _, h s₁ hs₁ hr⟩

/-! ## Building blocks followed by the rest of a process -/

theorem Obeys.update_bind {me : Nat} {gs : List Nat} {α β : Type} {Q : α → σ → Prop}
    {f : σ → β × σ} {k : β → Proc σ α} {s : σ} (hstep : rg.guar me s (f s).2)
    (h : rg.Obeys me gs Q (k (f s).1) (f s).2) : rg.Obeys me gs Q (Proc.update f >>= k) s :=
  .step hstep h

theorem Obeys.read_bind {me : Nat} {gs : List Nat} {α β : Type} {Q : α → σ → Prop}
    {f : σ → β} {k : β → Proc σ α} {s : σ} (h : rg.Obeys me gs Q (k (f s)) s) :
    rg.Obeys me gs Q (Proc.read f >>= k) s :=
  .step (rg.guar_refl me s) h

theorem Obeys.modify_bind {me : Nat} {gs : List Nat} {α : Type} {Q : α → σ → Prop}
    {f : σ → σ} {k : Unit → Proc σ α} {s : σ} (hstep : rg.guar me s (f s))
    (h : rg.Obeys me gs Q (k ()) (f s)) : rg.Obeys me gs Q (Proc.modify f >>= k) s :=
  .step hstep h

theorem Obeys.self_bind {me : Nat} {gs : List Nat} {α : Type} {Q : α → σ → Prop}
    {k : Nat → Proc σ α} {s : σ} (h : rg.Obeys me gs Q (k me) s) :
    rg.Obeys me gs Q (Proc.self >>= k) s :=
  .current h

theorem Obeys.stop_bind {me : Nat} {gs : List Nat} {α : Type} {Q : α → σ → Prop} {i : Nat}
    {k : Unit → Proc σ α} {s : σ} (h : rg.Obeys me gs Q (k ()) s) :
    rg.Obeys me gs Q (Proc.stop i >>= k) s :=
  .kill h

/-- Starting a task: under any number but the starter's that is not taken yet, it is parked
where it is started. -/
theorem Obeys.fork_bind {me : Nat} {gs : List Nat} {α : Type} {Q : α → σ → Prop}
    {t : Proc σ Unit} {k : Nat → Proc σ α} {s : σ}
    (ht : ∀ j, j ≠ me → rg.fresh j s → rg.Parked j (fun _ => rg.settled) t s)
    (h : ∀ i, rg.Obeys me gs Q (k i) s) : rg.Obeys me gs Q (Proc.fork t >>= k) s :=
  .spawn (fun j hj hf s₁ hs₁ hr p s' hres => (ht j hj hf s₁ hs₁ hr p s' hres).1)
    (fun j hj hf s₁ hs₁ hr p s' hres => (ht j hj hf s₁ hs₁ hr p s' hres).2) h

/-- Where a process that waited may go on: a settled state it relies on reaching, in which no
token of the given guards is cancelled. -/
def Resumed (me : Nat) (gs : List Nat) (s s₁ : σ) : Prop :=
  rg.settled s₁ ∧ rg.rely me s s₁ ∧ ∀ t ∈ gs, Runtime.cancelled s₁ t = false

/-- A resumption under more guards is one under fewer. -/
theorem Resumed.of_append {me : Nat} {gs gs' : List Nat} {s s₁ : σ}
    (h : rg.Resumed me (gs ++ gs') s s₁) : rg.Resumed me gs s s₁ :=
  ⟨h.1, h.2.1, fun t ht => h.2.2 t (List.mem_append_left _ ht)⟩

/-- A wait followed by the rest of a process: over at once, or settled while it waits and good
wherever it is resumed while the guards' tokens and its own are not cancelled; interrupted, it
unwinds. -/
theorem Obeys.await_bind {me : Nat} {gs : List Nat} {α β : Type} {Q : α → σ → Prop}
    {b : Blocker σ β} {k : β → Proc σ α} {s : σ}
    (hnow : ∀ v s', b.ready s = some (v, s') → rg.guar me s s' ∧ rg.Obeys me gs Q (k v) s')
    (hwait : b.ready s = none → rg.settled s)
    (hlater : ∀ s₁, rg.Resumed me (gs ++ b.aborts) s s₁ → ∀ v s', b.ready s₁ = some (v, s') →
      rg.guar me s₁ s' ∧ rg.Obeys me gs Q (k v) s') :
    rg.Obeys me gs Q (Proc.await b >>= k) s :=
  .block (fun v s' hv => (hnow v s' hv).1) (fun v s' hv => (hnow v s' hv).2) hwait
    (fun _ hs₁ _ _ _ hct => .abort hct hs₁)
    (fun s₁ hs₁ hr hlive v s' hv => (hlater s₁ ⟨hs₁, hr, hlive⟩ v s' hv).1)
    (fun s₁ hs₁ hr hlive v s' hv => (hlater s₁ ⟨hs₁, hr, hlive⟩ v s' hv).2)

/-- A sleep followed by the rest of a process: the time is read, and the rest goes on where the
sleep began or wherever it is resumed. -/
theorem Obeys.sleep_bind {me : Nat} {gs : List Nat} {α : Type} {Q : α → σ → Prop} {ms : Nat}
    {k : Unit → Proc σ α} {s : σ} (hset : rg.settled s) (hnow : rg.Obeys me gs Q (k ()) s)
    (hlater : ∀ s₁, rg.Resumed me gs s s₁ → rg.Obeys me gs Q (k ()) s₁) :
    rg.Obeys me gs Q (Proc.sleep ms >>= k) s := by
  refine .step (rg.guar_refl me s) (Obeys.await_bind ?_ (fun _ => hset) ?_)
  · intro v s' hv
    simp only [Option.ite_none_right_eq_some, Option.some.injEq, Prod.mk.injEq] at hv
    obtain ⟨-, -, rfl⟩ := hv
    exact ⟨rg.guar_refl me s, hnow⟩
  · intro s₁ hres v s' hv
    simp only [Option.ite_none_right_eq_some, Option.some.injEq, Prod.mk.injEq] at hv
    obtain ⟨-, -, rfl⟩ := hv
    exact ⟨rg.guar_refl me s₁, hlater s₁ hres.of_append⟩

/-- A wait followed by the rest of a process, whose condition, tried where the wait begins or
wherever it is resumed, answers within the contract. -/
theorem Obeys.await_bind_each {me : Nat} {gs : List Nat} {α β : Type} {Q : α → σ → Prop}
    {b : Blocker σ β} {k : β → Proc σ α} {s : σ} (hwait : b.ready s = none → rg.settled s)
    (htry : ∀ s₁, (s₁ = s ∨ rg.Resumed me (gs ++ b.aborts) s s₁) → ∀ v s',
      b.ready s₁ = some (v, s') → rg.guar me s₁ s' ∧ rg.Obeys me gs Q (k v) s') :
    rg.Obeys me gs Q (Proc.await b >>= k) s :=
  Obeys.await_bind (htry s (.inl rfl)) hwait fun s₁ h => htry s₁ (.inr h)

/-- A bounded wait for a condition followed by the rest of a process: the condition tried
where the wait begins and wherever it is resumed, and the wait running out there, must each
obey. -/
theorem Obeys.waitUntil_bind {me : Nat} {gs : List Nat} {α β : Type} {Q : α → σ → Prop}
    {ready : σ → Option (β × σ)} {limit : Nat} {k : Option β → Proc σ α} {s : σ}
    (hset : rg.settled s)
    (hready : ∀ s₁, (s₁ = s ∨ rg.Resumed me gs s s₁) → ∀ v s', ready s₁ = some (v, s') →
      rg.guar me s₁ s' ∧ rg.Obeys me gs Q (k (some v)) s')
    (hnone : ∀ s₁, (s₁ = s ∨ rg.Resumed me gs s s₁) → rg.Obeys me gs Q (k none) s₁) :
    rg.Obeys me gs Q (Proc.waitUntil ready limit >>= k) s := by
  refine .step (rg.guar_refl me s)
    (Obeys.await_bind_each (fun _ => hset) fun s₁ hwhere v s' hv => ?_)
  replace hwhere : s₁ = s ∨ rg.Resumed me gs s s₁ := hwhere.imp_right Resumed.of_append
  -- the wait's condition tries `ready` first, then the deadline, in the same state
  dsimp only at hv
  split at hv
  · next v' s'' hr =>
    obtain ⟨rfl, rfl⟩ := Prod.mk.inj (Option.some.inj hv)
    exact hready s₁ hwhere v' s'' hr
  · split at hv
    · cases hv; exact ⟨rg.guar_refl me s₁, hnone s₁ hwhere⟩
    · cases hv

/-! ## Steps that keep a relation wherever they are taken -/

/-- The contract of processes whose every step keeps `N`, wherever they run: nothing is
settled beyond what any state is, and nothing is relied on but cancelled tokens staying
cancelled. -/
def anywhere (N : σ → σ → Prop) (hrefl : ∀ s, N s s)
    (hcancel : ∀ {a b t}, N a b → Runtime.cancelled a t = true → Runtime.cancelled b t = true)
    (hnow : ∀ {s : σ} {t x : Nat}, Runtime.cancelled s x = true →
      Runtime.cancelled (Runtime.setNow s t) x = true) :
    RelyGuarantee σ where
  settled _ := True
  guar _ := N
  rely _ a b := ∀ t, Runtime.cancelled a t = true → Runtime.cancelled b t = true
  step _ _ := True
  fresh _ _ := True
  guar_refl _ := hrefl
  rely_refl _ _ _ h := h
  rely_trans h₁ h₂ t h := h₂ t (h₁ t h)
  rely_of_guar _ h _ := hcancel h
  step_refl _ := trivial
  step_trans _ _ := trivial
  step_of_guar _ := trivial
  cancelled_of_rely h := h _
  rely_setNow _ _ _ _ h := hnow h
  step_setNow _ _ := trivial
  settled_setNow _ _ := trivial
  fresh_of_rely _ _ := trivial

variable {N : σ → σ → Prop} {hrefl : ∀ s, N s s}
  {hcancel : ∀ {a b t}, N a b → Runtime.cancelled a t = true → Runtime.cancelled b t = true}
  {hnow : ∀ {s : σ} {t x : Nat}, Runtime.cancelled s x = true →
    Runtime.cancelled (Runtime.setNow s t) x = true}

/-- **Transfer.** A process whose steps keep `N` wherever it runs obeys every contract whose
settled states `N` keeps within its guarantees: it waits and ends in settled states, since it
starts in one and each of its steps keeps it. -/
theorem Obeys.transfer {me : Nat} {gs : List Nat} {α : Type} {Q : α → σ → Prop}
    {p : Proc σ α} {s : σ} (h : (anywhere N hrefl hcancel hnow).Obeys me gs Q p s)
    (hguar : ∀ me s s', rg.settled s → N s s' → rg.guar me s s')
    (hkeep : ∀ s s', rg.settled s → N s s' → rg.settled s') :
    rg.settled s → rg.Obeys me gs (fun a s' => Q a s' ∧ rg.settled s') p s := by
  induction h with
  | pure hq => exact fun hs => .pure ⟨hq, hs⟩
  | abort hc _ => exact fun hs => .abort hc hs
  | step hs _ ih => exact fun hset => .step (hguar _ _ _ hset hs) (ih (hkeep _ _ hset hs))
  | block hnow' _ _ _ hready _ ihnow ihabort ihready =>
    intro hset
    -- what the others do here keeps cancelled tokens cancelled, which is all the proof used
    have hr' : ∀ {s₀ s₁ : σ} {me : Nat}, rg.rely me s₀ s₁ →
        (anywhere N hrefl hcancel hnow).rely me s₀ s₁ := fun hr _ => rg.cancelled_of_rely hr
    refine .block (fun v s' hv => hguar _ _ _ hset (hnow' v s' hv))
      (fun v s' hv => ihnow v s' hv (hkeep _ _ hset (hnow' v s' hv))) (fun _ => hset)
      (fun s₁ hs₁ hr t ht hct => ihabort s₁ trivial (hr' hr) t ht hct hs₁)
      (fun s₁ hs₁ hr hlive v s' hv => hguar _ _ _ hs₁ (hready s₁ trivial (hr' hr) hlive v s' hv))
      (fun s₁ hs₁ hr hlive v s' hv => ihready s₁ trivial (hr' hr) hlive v s' hv
        (hkeep _ _ hs₁ (hready s₁ trivial (hr' hr) hlive v s' hv)))
  | spawn hts _ _ ihp ihk =>
    intro hset
    have hr' : ∀ {s₀ s₁ : σ} {me : Nat}, rg.rely me s₀ s₁ →
        (anywhere N hrefl hcancel hnow).rely me s₀ s₁ := fun hr _ => rg.cancelled_of_rely hr
    refine .spawn (fun j hj _ s₁ hs₁ hr p s' hres =>
        hguar _ _ _ hs₁ (hts j hj trivial s₁ trivial (hr' hr) p s' hres))
      (fun j hj _ s₁ hs₁ hr p s' hres => ?_) fun i => ihk i hset
    exact (ihp j hj trivial s₁ trivial (hr' hr) p s' hres
      (hkeep _ _ hs₁ (hts j hj trivial s₁ trivial (hr' hr) p s' hres))).weaken fun _ _ h => h.2
  | kill _ ih => exact fun hs => .kill (ih hs)
  | current _ ih => exact fun hs => .current (ih hs)

/-- **Transfer, where a condition holds.** A process whose steps keep `N` wherever it runs
obeys every contract whose settled states, where `P` holds, `N` keeps within its guarantees,
when `P` is kept by `N` and by what every task relies on. -/
theorem Obeys.transfer_on {P : σ → Prop} {me : Nat} {gs : List Nat} {α : Type}
    {Q : α → σ → Prop} {p : Proc σ α} {s : σ} (h : (anywhere N hrefl hcancel hnow).Obeys me gs Q p s)
    (hguar : ∀ me s s', rg.settled s → P s → N s s' → rg.guar me s s')
    (hkeep : ∀ s s', rg.settled s → P s → N s s' → rg.settled s' ∧ P s')
    (hrely : ∀ me s s', rg.rely me s s' → P s → P s') :
    rg.settled s → P s → rg.Obeys me gs (fun a s' => Q a s' ∧ rg.settled s' ∧ P s') p s := by
  induction h with
  | pure hq => exact fun hs hp => .pure ⟨hq, hs, hp⟩
  | abort hc _ => exact fun hs _ => .abort hc hs
  | step hs _ ih =>
    intro hset hp
    obtain ⟨hset', hp'⟩ := hkeep _ _ hset hp hs
    exact .step (hguar _ _ _ hset hp hs) (ih hset' hp')
  | block hnow' _ _ _ hready _ ihnow ihabort ihready =>
    intro hset hp
    -- what the others do here keeps cancelled tokens cancelled, which is all the proof used
    have hr' : ∀ {s₀ s₁ : σ} {me : Nat}, rg.rely me s₀ s₁ →
        (anywhere N hrefl hcancel hnow).rely me s₀ s₁ := fun hr _ => rg.cancelled_of_rely hr
    refine .block (fun v s' hv => hguar _ _ _ hset hp (hnow' v s' hv))
      (fun v s' hv => ihnow v s' hv (hkeep _ _ hset hp (hnow' v s' hv)).1
        (hkeep _ _ hset hp (hnow' v s' hv)).2) (fun _ => hset)
      (fun s₁ hs₁ hr t ht hct => ihabort s₁ trivial (hr' hr) t ht hct hs₁ (hrely _ _ _ hr hp))
      (fun s₁ hs₁ hr hlive v s' hv => hguar _ _ _ hs₁ (hrely _ _ _ hr hp)
        (hready s₁ trivial (hr' hr) hlive v s' hv))
      (fun s₁ hs₁ hr hlive v s' hv => ?_)
    have hN := hready s₁ trivial (hr' hr) hlive v s' hv
    obtain ⟨hs', hp'⟩ := hkeep _ _ hs₁ (hrely _ _ _ hr hp) hN
    exact ihready s₁ trivial (hr' hr) hlive v s' hv hs' hp'
  | spawn hts _ _ ihp ihk =>
    intro hset hp
    have hr' : ∀ {s₀ s₁ : σ} {me : Nat}, rg.rely me s₀ s₁ →
        (anywhere N hrefl hcancel hnow).rely me s₀ s₁ := fun hr _ => rg.cancelled_of_rely hr
    refine .spawn (fun j hj _ s₁ hs₁ hr p s' hres =>
        hguar _ _ _ hs₁ (hrely _ _ _ hr hp) (hts j hj trivial s₁ trivial (hr' hr) p s' hres))
      (fun j hj _ s₁ hs₁ hr p s' hres => ?_) fun i => ihk i hset hp
    have hN := hts j hj trivial s₁ trivial (hr' hr) p s' hres
    obtain ⟨hs', hp'⟩ := hkeep _ _ hs₁ (hrely _ _ _ hr hp) hN
    exact (ihp j hj trivial s₁ trivial (hr' hr) p s' hres hs' hp').weaken fun _ _ h => h.2.1
  | kill _ ih => exact fun hs hp => .kill (ih hs hp)
  | current _ ih => exact fun hs hp => .current (ih hs hp)

end RelyGuarantee

/-! ## Where a process may unwind -/

namespace Proc

variable {σ : Type}

/-- The process unwinds only by tokens of `T`: every `abort` it may come to is by a token of
`T`, and a wait is interrupted only by the tokens of its blocker or of `T`. -/
inductive UnwindsWithin (T : List Nat) : {α : Type} → Proc σ α → Prop
  | pure {α : Type} (a : α) : UnwindsWithin T (.pure a)
  | abort {α : Type} {t : Nat} : t ∈ T → UnwindsWithin T (.abort t : Proc σ α)
  | step {α β : Type} {f : σ → β × σ} {k : β → Proc σ α} :
      (∀ b, UnwindsWithin T (k b)) → UnwindsWithin T (.step f k)
  | block {α β : Type} {b : Blocker σ β} {k : Wake β → Proc σ α} :
      (∀ v, UnwindsWithin T (k (.ready v))) →
      (∀ t, t ∈ b.aborts ∨ t ∈ T → UnwindsWithin T (k (.aborted t))) →
      UnwindsWithin T (.block b k)
  | spawn {α : Type} {t : Proc σ Unit} {k : Nat → Proc σ α} :
      (∀ i, UnwindsWithin T (k i)) → UnwindsWithin T (.spawn t k)
  | kill {α : Type} {i : Nat} {k : Proc σ α} : UnwindsWithin T k → UnwindsWithin T (.kill i k)
  | current {α : Type} {k : Nat → Proc σ α} :
      (∀ i, UnwindsWithin T (k i)) → UnwindsWithin T (.current k)

variable {T : List Nat} {α β : Type}

theorem UnwindsWithin.bind {p : Proc σ α} {f : α → Proc σ β} (hp : p.UnwindsWithin T)
    (hf : ∀ a, (f a).UnwindsWithin T) : (p >>= f).UnwindsWithin T := by
  induction hp with
  | pure a => exact hf a
  | abort ht => exact .abort ht
  | step _ ih => exact .step ih
  | block _ _ ihready ihabort => exact .block ihready ihabort
  | spawn _ ih => exact .spawn ih
  | kill _ ih => exact .kill ih
  | current _ ih => exact .current ih

/-- Inside a guard of `tok`, the process may also unwind by `tok`: the guard catches it. -/
theorem UnwindsWithin.update {f : σ → β × σ} : (Proc.update f).UnwindsWithin T :=
  .step fun _ => .pure _

theorem UnwindsWithin.read {f : σ → β} : (Proc.read f).UnwindsWithin T :=
  .step fun _ => .pure _

theorem UnwindsWithin.modify {f : σ → σ} : (Proc.modify f).UnwindsWithin T :=
  .step fun _ => .pure _

/-- A started task is not part of where its starter unwinds. -/
theorem UnwindsWithin.fork {t : Proc σ Unit} : (Proc.fork t).UnwindsWithin T :=
  .spawn fun _ => .pure _

theorem UnwindsWithin.ite {c : Prop} [Decidable c] {p q : Proc σ α} (hp : p.UnwindsWithin T)
    (hq : q.UnwindsWithin T) : (if c then p else q).UnwindsWithin T := by
  split
  · exact hp
  · exact hq

theorem UnwindsWithin.guardWith {tok : Nat} {p : Proc σ α} (hp : p.UnwindsWithin (tok :: T)) :
    (p.guardWith tok).UnwindsWithin T := by
  induction hp with
  | pure a => exact .pure _
  | abort ht =>
    simp only [Proc.guardWith]
    split
    · exact .pure _
    · next hne => exact .abort ((List.mem_cons.1 ht).resolve_left hne)
  | step _ ih => exact .step ih
  | block _ _ ihready ihabort =>
    -- the guard's token joins the blocker's tokens and leaves the outer ones
    refine .block ihready fun t ht => ihabort t ?_
    simp only [List.mem_cons] at ht ⊢
    rcases ht with (rfl | ht) | ht
    · exact .inr (.inl rfl)
    · exact .inl ht
    · exact .inr (.inr ht)
  | spawn _ ih => exact .spawn ih
  | kill _ ih => exact .kill ih
  | current _ ih => exact .current ih

theorem UnwindsWithin.guarded [Runtime σ] {tok : Nat} {p : Proc σ α}
    (hp : p.UnwindsWithin (tok :: T)) : (Proc.guarded tok p).UnwindsWithin T :=
  .step fun
    | true => .pure _
    | false => hp.guardWith

theorem UnwindsWithin.await {b : Blocker σ β} (hb : ∀ t ∈ b.aborts, t ∈ T) :
    (Proc.await b).UnwindsWithin T :=
  .block (fun _ => .pure _) fun t ht => .abort (ht.elim (hb t) id)

theorem UnwindsWithin.sleep [Runtime σ] (ms : Nat) : (Proc.sleep ms : Proc σ Unit).UnwindsWithin T :=
  UnwindsWithin.read.bind fun _ => .await fun _ ht => nomatch ht

theorem UnwindsWithin.waitUntil [Runtime σ] {ready : σ → Option (β × σ)} (limit : Nat) :
    (Proc.waitUntil ready limit).UnwindsWithin T :=
  UnwindsWithin.read.bind fun _ => .await fun _ ht => nomatch ht

end Proc

namespace RelyGuarantee

variable {σ : Type} [Runtime σ] {rg : RelyGuarantee σ}

/-- A cleanup needs to keep the contract only where the process may unwind: by the tokens of
`T`, which include those of the guards around it. -/
theorem Obeys.onAbort_within {me : Nat} {gs : List Nat} {α : Type} {Q : α → σ → Prop}
    {p : Proc σ α} {s : σ} {cleanup : Proc σ Unit} {T : List Nat} (h : rg.Obeys me gs Q p s)
    (hp : p.UnwindsWithin T) (hgs : ∀ t ∈ gs, t ∈ T)
    (hclean : ∀ t ∈ T, ∀ s', Runtime.cancelled s' t = true → rg.settled s' →
      rg.Obeys me gs (fun _ s'' => Runtime.cancelled s'' t = true ∧ rg.settled s'') cleanup s') :
    rg.Obeys me gs Q (Proc.onAbort cleanup p) s := by
  induction h with
  | pure hq => exact .pure hq
  | @abort _ _ _ _ t s' hc hs =>
    cases hp with
    | abort ht => exact (hclean t ht s' hc hs).bind fun _ _ h' => .abort h'.1 h'.2
  | step hs _ ih =>
    cases hp with
    | step hk => exact .step hs (ih (hk _) hgs hclean)
  | block hnow _ hwait _ hready _ ihnow ihabort ihready =>
    cases hp with
    | block hkready hkabort =>
      refine .block hnow (fun v s' hv => ihnow v s' hv (hkready v) hgs hclean) hwait
        (fun s₁ hs₁ hr t ht hct => ihabort s₁ hs₁ hr t ht hct (hkabort t ?_) hgs hclean) hready
        (fun s₁ hs₁ hr hlive v s' hv => ihready s₁ hs₁ hr hlive v s' hv (hkready v) hgs hclean)
      -- an interruption by a guard's token is one by a token of `T`
      rcases List.mem_append.1 ht with ht | ht
      · exact .inr (hgs t ht)
      · exact .inl ht
  | spawn hts ht _ _ ihk =>
    cases hp with
    | spawn hk => exact .spawn hts ht fun i => ihk i (hk i) hgs hclean
  | kill _ ih =>
    cases hp with
    | kill hk => exact .kill (ih hk hgs hclean)
  | current _ ih =>
    cases hp with
    | current hk => exact .current (ih (hk _) hgs hclean)

end RelyGuarantee

end MarketChat
