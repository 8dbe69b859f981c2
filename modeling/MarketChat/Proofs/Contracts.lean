import MarketChat.Runtime.Scheduler
/-!
# Contracts of processes

Processes over a shared state take turns, and a run of steps between two waits is atomic (see
`Run.segment`). They are reasoned about one at a time, in the rely–guarantee style: a
`Contract` names a relation that every atomic step satisfies and an invariant, `settled`, that
holds whenever no process runs. The relation is a preorder, so whatever the other processes do
between two runs of one process is again in it, and a process that waits must cope with every
settled state the relation allows.

`Contract.Obeys gs Q p s`: the process `p`, started in the state `s`, keeps the contract in each
step and ends in `Q`. It ends, unwinds or waits only in a settled state. The list `gs` holds the
tokens of the guards around `p` (`Proc.guardWith`): a resumption after one of them is cancelled
unwinds at once, so only the unwinding has to be considered then.

`Contract.Parked Q p s`: a process put aside in `s` (a task waiting, or not started yet) keeps
the contract from wherever it is resumed.

Main statements: `Contract.Obeys.bind`, `Contract.Obeys.guardWith`, `Contract.Obeys.onAbort`,
`Contract.parked_of_obeys`, and one rule per building block of `Proc`.
-/

namespace MarketChat

/-- What every process over a state promises: each atomic step relates the states before and
after it by `step`, and `settled` holds whenever no process runs. Cancelled tokens stay
cancelled, and time may move while nothing runs. -/
structure Contract (σ : Type) [Runtime σ] where
  /-- Holds whenever no process runs. -/
  settled : σ → Prop
  /-- Relates the states before and after an atomic step. -/
  step : σ → σ → Prop
  step_refl : ∀ s, step s s
  step_trans : ∀ {a b c}, step a b → step b c → step a c
  cancelled_of_step : ∀ {a b t}, step a b → Runtime.cancelled a t = true →
    Runtime.cancelled b t = true
  step_setNow : ∀ s t, step s (Runtime.setNow s t)
  settled_setNow : ∀ {s} t, settled s → settled (Runtime.setNow s t)

namespace Contract

variable {σ : Type} [Runtime σ] (c : Contract σ)

/-- The process `p`, started in `s`, keeps the contract in every step and ends in `Q`; `gs` are
the tokens of the guards around it. -/
inductive Obeys : List Nat → {α : Type} → (α → σ → Prop) → Proc σ α → σ → Prop
  | pure {gs α} {Q : α → σ → Prop} {a : α} {s : σ} : Q a s → Obeys gs Q (.pure a) s
  | abort {gs α} {Q : α → σ → Prop} {t : Nat} {s : σ} :
      Runtime.cancelled s t = true → c.settled s → Obeys gs Q (.abort t) s
  | step {gs α β} {Q : α → σ → Prop} {f : σ → β × σ} {k : β → Proc σ α} {s : σ} :
      c.step s (f s).2 → Obeys gs Q (k (f s).1) (f s).2 → Obeys gs Q (.step f k) s
  | block {gs α β} {Q : α → σ → Prop} {b : Blocker σ β} {k : Wake β → Proc σ α} {s : σ} :
      (∀ v s', b.ready s = some (v, s') → c.step s s') →
      (∀ v s', b.ready s = some (v, s') → Obeys gs Q (k (.ready v)) s') →
      (b.ready s = none → c.settled s) →
      (∀ s₁, c.settled s₁ → c.step s s₁ → ∀ t ∈ gs ++ b.aborts,
        Runtime.cancelled s₁ t = true → Obeys gs Q (k (.aborted t)) s₁) →
      (∀ s₁, c.settled s₁ → c.step s s₁ → (∀ t ∈ gs ++ b.aborts, Runtime.cancelled s₁ t = false) →
        ∀ v s', b.ready s₁ = some (v, s') → c.step s₁ s') →
      (∀ s₁, c.settled s₁ → c.step s s₁ → (∀ t ∈ gs ++ b.aborts, Runtime.cancelled s₁ t = false) →
        ∀ v s', b.ready s₁ = some (v, s') → Obeys gs Q (k (.ready v)) s') →
      Obeys gs Q (.block b k) s
  | spawn {gs α} {Q : α → σ → Prop} {t : Proc σ Unit} {k : Nat → Proc σ α} {s : σ} :
      (∀ s₁, c.settled s₁ → c.step s s₁ → ∀ p s', t.resume s₁ = some (p, s') → c.step s₁ s') →
      (∀ s₁, c.settled s₁ → c.step s s₁ → ∀ p s', t.resume s₁ = some (p, s') →
        Obeys [] (fun _ => c.settled) p s') →
      (∀ i, Obeys gs Q (k i) s) → Obeys gs Q (.spawn t k) s
  | kill {gs α} {Q : α → σ → Prop} {i : Nat} {k : Proc σ α} {s : σ} :
      Obeys gs Q k s → Obeys gs Q (.kill i k) s
  | current {gs α} {Q : α → σ → Prop} {k : Nat → Proc σ α} {s : σ} :
      (∀ i, Obeys gs Q (k i) s) → Obeys gs Q (.current k) s

/-- A process put aside in `s` keeps the contract from every settled state it is resumed in. -/
def Parked {α : Type} (Q : α → σ → Prop) (p : Proc σ α) (s : σ) : Prop :=
  ∀ s₁, c.settled s₁ → c.step s s₁ → ∀ p' s', p.resume s₁ = some (p', s') →
    c.step s₁ s' ∧ Obeys c [] Q p' s'

/-- Where a process that waited may go on: a settled state the contract leads to, in which no
token of the given guards is cancelled. -/
def Resumed (gs : List Nat) (s s₁ : σ) : Prop :=
  c.settled s₁ ∧ c.step s s₁ ∧ ∀ t ∈ gs, Runtime.cancelled s₁ t = false

variable {c}

/-! ## Consequence and sequencing -/

/-- A weaker end condition. -/
theorem Obeys.weaken {gs : List Nat} {α : Type} {Q : α → σ → Prop} {p : Proc σ α} {s : σ}
    (h : c.Obeys gs Q p s) : ∀ {Q' : α → σ → Prop}, (∀ a s', Q a s' → Q' a s') →
      c.Obeys gs Q' p s := by
  induction h with
  | pure hq => exact fun hQ => .pure (hQ _ _ hq)
  | abort hc hs => exact fun _ => .abort hc hs
  | step hs _ ih => exact fun hQ => .step hs (ih hQ)
  | block hnow _ hwait _ hready _ ihnow ihabort ihready =>
    exact fun hQ => .block hnow (fun v s' hv => ihnow v s' hv hQ) hwait
      (fun s₁ hs₁ hstep t ht hct => ihabort s₁ hs₁ hstep t ht hct hQ) hready
      (fun s₁ hs₁ hstep hlive v s' hv => ihready s₁ hs₁ hstep hlive v s' hv hQ)
  | spawn hts ht _ _ ihk => exact fun hQ => .spawn hts ht fun i => ihk i hQ
  | kill _ ih => exact fun hQ => .kill (ih hQ)
  | current _ ih => exact fun hQ => .current fun i => ih i hQ

/-- Sequencing: `p` obeys and ends in `Q`, and what follows obeys from every such end. -/
theorem Obeys.bind {gs : List Nat} {α : Type} {Q : α → σ → Prop} {p : Proc σ α} {s : σ}
    (h : c.Obeys gs Q p s) : ∀ {β : Type} {Q' : β → σ → Prop} {f : α → Proc σ β},
      (∀ a s', Q a s' → c.Obeys gs Q' (f a) s') → c.Obeys gs Q' (p.bind f) s := by
  induction h with
  | pure hq => exact fun hf => hf _ _ hq
  | abort hc hs => exact fun _ => .abort hc hs
  | step hs _ ih => exact fun hf => .step hs (ih hf)
  | block hnow _ hwait _ hready _ ihnow ihabort ihready =>
    exact fun hf => .block hnow (fun v s' hv => ihnow v s' hv hf) hwait
      (fun s₁ hs₁ hstep t ht hct => ihabort s₁ hs₁ hstep t ht hct hf) hready
      (fun s₁ hs₁ hstep hlive v s' hv => ihready s₁ hs₁ hstep hlive v s' hv hf)
  | spawn hts ht _ _ ihk => exact fun hf => .spawn hts ht fun i => ihk i hf
  | kill _ ih => exact fun hf => .kill (ih hf)
  | current _ ih => exact fun hf => .current fun i => ih i hf

/-- `bind` as the monad writes it. -/
theorem Obeys.seq {gs : List Nat} {α β : Type} {Q : α → σ → Prop} {Q' : β → σ → Prop}
    {p : Proc σ α} {f : α → Proc σ β} {s : σ} (h : c.Obeys gs Q p s)
    (hf : ∀ a s', Q a s' → c.Obeys gs Q' (f a) s') : c.Obeys gs Q' (p >>= f) s :=
  h.bind hf

/-- `map` as the monad writes it: the end condition is read through the function. -/
theorem Obeys.map {gs : List Nat} {α β : Type} {Q : β → σ → Prop} {p : Proc σ α} {f : α → β}
    {s : σ} (h : c.Obeys gs (fun a => Q (f a)) p s) : c.Obeys gs Q (f <$> p) s :=
  h.bind fun _ _ hq => .pure hq

/-! ## Guards -/

/-- The end condition of a guarded process: its own when it ran to the end, or the guard's
token cancelled in a settled state when it was cut short. -/
def Caught {α : Type} (tok : Nat) (Q : α → σ → Prop) : Option α → σ → Prop
  | some a, s => Q a s
  | none, s => Runtime.cancelled s tok = true ∧ c.settled s

/-- Guarding by `tok` catches its unwinding: inside the guard, resumptions need only be
considered while `tok` is not cancelled. -/
theorem Obeys.guardWith {gs' : List Nat} {α : Type} {Q : α → σ → Prop} {p : Proc σ α}
    {s : σ} (h : c.Obeys gs' Q p s) : ∀ {tok gs}, gs' = tok :: gs →
      c.Obeys gs (c.Caught tok Q) (p.guardWith tok) s := by
  induction h with
  | pure hq => exact fun _ => .pure hq
  | @abort _ _ _ t _ hc hs =>
    intro tok gs _
    simp only [Proc.guardWith]
    split
    · next ht => subst ht; exact .pure ⟨hc, hs⟩
    · exact .abort hc hs
  | step hs _ ih => exact fun hgs => .step hs (ih hgs)
  | @block gs'' _ _ _ b k _ hnow _ hwait _ hready _ ihnow ihabort ihready =>
    intro tok gs hgs
    subst hgs
    -- the guard's token joins the wait's tokens: the same tokens, in another order
    have hmem : ∀ t, t ∈ gs ++ (tok :: b.aborts) ↔ t ∈ (tok :: gs) ++ b.aborts := by
      intro t
      simp only [List.mem_append, List.mem_cons, or_assoc]
      exact or_left_comm
    have hlive : ∀ {s₁ : σ}, (∀ t ∈ gs ++ (tok :: b.aborts), Runtime.cancelled s₁ t = false) →
        ∀ t ∈ (tok :: gs) ++ b.aborts, Runtime.cancelled s₁ t = false :=
      fun h t ht => h t ((hmem t).2 ht)
    exact .block hnow (fun v s' hv => ihnow v s' hv rfl) hwait
      (fun s₁ hs₁ hstep t ht hct => ihabort s₁ hs₁ hstep t ((hmem t).1 ht) hct rfl)
      (fun s₁ hs₁ hstep hl v s' hv => hready s₁ hs₁ hstep (hlive hl) v s' hv)
      (fun s₁ hs₁ hstep hl v s' hv => ihready s₁ hs₁ hstep (hlive hl) v s' hv rfl)
  | spawn hts ht _ _ ihk => exact fun hgs => .spawn hts ht fun i => ihk i hgs
  | kill _ ih => exact fun hgs => .kill (ih hgs)
  | current _ ih => exact fun hgs => .current fun i => ih i hgs

/-- A cleanup that keeps the contract and leaves the token cancelled in a settled state runs
where the process unwinds. -/
theorem Obeys.onAbort {gs : List Nat} {α : Type} {Q : α → σ → Prop} {p : Proc σ α} {s : σ}
    {cleanup : Proc σ Unit} (h : c.Obeys gs Q p s)
    (hclean : ∀ t s', Runtime.cancelled s' t = true → c.settled s' →
      c.Obeys gs (fun _ s'' => Runtime.cancelled s'' t = true ∧ c.settled s'') cleanup s') :
    c.Obeys gs Q (Proc.onAbort cleanup p) s := by
  induction h with
  | pure hq => exact .pure hq
  | @abort _ _ _ t s' hc hs =>
    exact (hclean t s' hc hs).bind fun _ _ h' => .abort h'.1 h'.2
  | step hs _ ih => exact .step hs (ih hclean)
  | block hnow _ hwait _ hready _ ihnow ihabort ihready =>
    exact .block hnow (fun v s' hv => ihnow v s' hv hclean) hwait
      (fun s₁ hs₁ hstep t ht hct => ihabort s₁ hs₁ hstep t ht hct hclean) hready
      (fun s₁ hs₁ hstep hlive v s' hv => ihready s₁ hs₁ hstep hlive v s' hv hclean)
  | spawn hts ht _ _ ihk => exact .spawn hts ht fun i => ihk i hclean
  | kill _ ih => exact .kill (ih hclean)
  | current _ ih => exact .current fun i => ih i hclean

/-! ## Processes put aside -/

/-- What a parked process needs holds for longer: the others' steps compose. -/
theorem Parked.of_step {α : Type} {Q : α → σ → Prop} {p : Proc σ α} {s s₂ : σ}
    (h : c.Parked Q p s) (hs : c.step s s₂) : c.Parked Q p s₂ :=
  fun s₁ hs₁ hstep => h s₁ hs₁ (c.step_trans hs hstep)

/-- A waiting process that obeys is parked where it waits. -/
theorem Obeys.parked {α β : Type} {Q : α → σ → Prop} {b : Blocker σ β} {k : Wake β → Proc σ α}
    {s : σ} (h : c.Obeys [] Q (.block b k) s) : c.Parked Q (.block b k) s := by
  cases h with
  | block _ _ _ habort hready hkready =>
    intro s₁ hs₁ hstep p' s' hres
    simp only [Proc.resume] at hres
    split at hres
    · next t hfind =>
      cases hres
      have hmem : t ∈ [] ++ b.aborts := by simpa using List.mem_of_find?_eq_some hfind
      exact ⟨c.step_refl _, habort s₁ hs₁ hstep t hmem (List.find?_some hfind)⟩
    · next hfind =>
      have hlive : ∀ t ∈ [] ++ b.aborts, Runtime.cancelled s₁ t = false := by
        intro t ht
        simpa using List.find?_eq_none.1 hfind t (by simpa using ht)
      split at hres
      · next v s'' hv =>
        obtain ⟨rfl, rfl⟩ := Prod.mk.inj (Option.some.inj hres)
        exact ⟨hready s₁ hs₁ hstep hlive v s'' hv, hkready s₁ hs₁ hstep hlive v s'' hv⟩
      · cases hres

/-- A process that obeys from every later settled state is parked. -/
theorem parked_of_obeys {α : Type} {Q : α → σ → Prop} {p : Proc σ α} {s : σ}
    (h : ∀ s₁, c.settled s₁ → c.step s s₁ → c.Obeys [] Q p s₁) : c.Parked Q p s := by
  intro s₁ hs₁ hstep p' s' hres
  cases p with
  | block b k => exact (h s₁ hs₁ hstep).parked s₁ hs₁ (c.step_refl s₁) p' s' hres
  | pure a => cases hres; exact ⟨c.step_refl _, h s₁ hs₁ hstep⟩
  | abort t => cases hres; exact ⟨c.step_refl _, h s₁ hs₁ hstep⟩
  | step f k => cases hres; exact ⟨c.step_refl _, h s₁ hs₁ hstep⟩
  | spawn t k => cases hres; exact ⟨c.step_refl _, h s₁ hs₁ hstep⟩
  | kill i k => cases hres; exact ⟨c.step_refl _, h s₁ hs₁ hstep⟩
  | current k => cases hres; exact ⟨c.step_refl _, h s₁ hs₁ hstep⟩

/-! ## Building blocks -/

theorem Obeys.update {gs : List Nat} {β : Type} {Q : β → σ → Prop} {f : σ → β × σ} {s : σ}
    (hstep : c.step s (f s).2) (hq : Q (f s).1 (f s).2) : c.Obeys gs Q (Proc.update f) s :=
  .step hstep (.pure hq)

theorem Obeys.read {gs : List Nat} {β : Type} {Q : β → σ → Prop} {f : σ → β} {s : σ}
    (hq : Q (f s) s) : c.Obeys gs Q (Proc.read f) s :=
  .step (c.step_refl s) (.pure hq)

theorem Obeys.modify {gs : List Nat} {Q : Unit → σ → Prop} {f : σ → σ} {s : σ}
    (hstep : c.step s (f s)) (hq : Q () (f s)) : c.Obeys gs Q (Proc.modify f) s :=
  .step hstep (.pure hq)

theorem Obeys.stop {gs : List Nat} {Q : Unit → σ → Prop} {i : Nat} {s : σ} (hq : Q () s) :
    c.Obeys gs Q (Proc.stop i) s :=
  .kill (.pure hq)

theorem Obeys.self {gs : List Nat} {Q : Nat → σ → Prop} {s : σ} (hq : ∀ i, Q i s) :
    c.Obeys gs Q Proc.self s :=
  .current fun i => .pure (hq i)

/-! The rules below are for a building block followed by the rest of a process, as `do`
notation writes it. -/

theorem Obeys.update_bind {gs : List Nat} {α β : Type} {Q : α → σ → Prop} {f : σ → β × σ}
    {k : β → Proc σ α} {s : σ} (hstep : c.step s (f s).2) (h : c.Obeys gs Q (k (f s).1) (f s).2) :
    c.Obeys gs Q (Proc.update f >>= k) s :=
  .step hstep h

theorem Obeys.read_bind {gs : List Nat} {α β : Type} {Q : α → σ → Prop} {f : σ → β}
    {k : β → Proc σ α} {s : σ} (h : c.Obeys gs Q (k (f s)) s) :
    c.Obeys gs Q (Proc.read f >>= k) s :=
  .step (c.step_refl s) h

theorem Obeys.modify_bind {gs : List Nat} {α : Type} {Q : α → σ → Prop} {f : σ → σ}
    {k : Unit → Proc σ α} {s : σ} (hstep : c.step s (f s)) (h : c.Obeys gs Q (k ()) (f s)) :
    c.Obeys gs Q (Proc.modify f >>= k) s :=
  .step hstep h

theorem Obeys.self_bind {gs : List Nat} {α : Type} {Q : α → σ → Prop} {k : Nat → Proc σ α}
    {s : σ} (h : ∀ i, c.Obeys gs Q (k i) s) : c.Obeys gs Q (Proc.self >>= k) s :=
  .current h

theorem Obeys.stop_bind {gs : List Nat} {α : Type} {Q : α → σ → Prop} {i : Nat}
    {k : Unit → Proc σ α} {s : σ} (h : c.Obeys gs Q (k ()) s) :
    c.Obeys gs Q (Proc.stop i >>= k) s :=
  .kill h

theorem Obeys.fork_bind {gs : List Nat} {α : Type} {Q : α → σ → Prop} {t : Proc σ Unit}
    {k : Nat → Proc σ α} {s : σ} (ht : c.Parked (fun _ => c.settled) t s)
    (h : ∀ i, c.Obeys gs Q (k i) s) : c.Obeys gs Q (Proc.fork t >>= k) s :=
  .spawn (fun s₁ hs₁ hstep p s' hres => (ht s₁ hs₁ hstep p s' hres).1)
    (fun s₁ hs₁ hstep p s' hres => (ht s₁ hs₁ hstep p s' hres).2) h

/-- Starting a task: it must be parked where it is started. -/
theorem Obeys.fork {gs : List Nat} {Q : Nat → σ → Prop} {t : Proc σ Unit} {s : σ}
    (ht : c.Parked (fun _ => c.settled) t s) (hq : ∀ i, Q i s) : c.Obeys gs Q (Proc.fork t) s :=
  .spawn (fun s₁ hs₁ hstep p s' hres => (ht s₁ hs₁ hstep p s' hres).1)
    (fun s₁ hs₁ hstep p s' hres => (ht s₁ hs₁ hstep p s' hres).2) fun i => .pure (hq i)

/-- A resumption under more guards is one under fewer. -/
theorem Resumed.of_append {gs gs' : List Nat} {s s₁ : σ} (h : c.Resumed (gs ++ gs') s s₁) :
    c.Resumed gs s s₁ :=
  ⟨h.1, h.2.1, fun t ht => h.2.2 t (List.mem_append_left _ ht)⟩

/-- A wait: over at once, or settled while it waits and good wherever it is resumed while the
guards' tokens and its own are not cancelled. -/
theorem Obeys.await {gs : List Nat} {β : Type} {Q : β → σ → Prop} {b : Blocker σ β} {s : σ}
    (hnow : ∀ v s', b.ready s = some (v, s') → c.step s s' ∧ Q v s')
    (hwait : b.ready s = none → c.settled s)
    (hlater : ∀ s₁, c.Resumed (gs ++ b.aborts) s s₁ →
      ∀ v s', b.ready s₁ = some (v, s') → c.step s₁ s' ∧ Q v s') :
    c.Obeys gs Q (Proc.await b) s :=
  .block (fun v s' hv => (hnow v s' hv).1) (fun v s' hv => .pure (hnow v s' hv).2) hwait
    (fun _ hs₁ _ _ _ hct => .abort hct hs₁)
    (fun s₁ hs₁ hstep hlive v s' hv => (hlater s₁ ⟨hs₁, hstep, hlive⟩ v s' hv).1)
    (fun s₁ hs₁ hstep hlive v s' hv => .pure (hlater s₁ ⟨hs₁, hstep, hlive⟩ v s' hv).2)

/-- A wait whose condition, tried where the wait begins or wherever it is resumed, answers
within the contract. -/
theorem Obeys.await_each {gs : List Nat} {β : Type} {Q : β → σ → Prop} {b : Blocker σ β} {s : σ}
    (hwait : b.ready s = none → c.settled s)
    (htry : ∀ s₁, (s₁ = s ∨ c.Resumed (gs ++ b.aborts) s s₁) →
      ∀ v s', b.ready s₁ = some (v, s') → c.step s₁ s' ∧ Q v s') :
    c.Obeys gs Q (Proc.await b) s :=
  Obeys.await (htry s (.inl rfl)) hwait fun s₁ h => htry s₁ (.inr h)

/-- A sleep leaves the state as it is: it ends where it began, or where it is resumed. -/
theorem Obeys.sleep {gs : List Nat} {Q : Unit → σ → Prop} {ms : Nat} {s : σ}
    (hset : c.settled s) (hnow : Q () s) (hlater : ∀ s₁, c.Resumed gs s s₁ → Q () s₁) :
    c.Obeys gs Q (Proc.sleep ms) s := by
  refine .step (c.step_refl s) (Obeys.await ?_ (fun _ => hset) ?_)
  · intro v s' hv
    simp only [Option.ite_none_right_eq_some, Option.some.injEq, Prod.mk.injEq] at hv
    obtain ⟨-, -, rfl⟩ := hv
    exact ⟨c.step_refl s, hnow⟩
  · intro s₁ hres v s' hv
    simp only [Option.ite_none_right_eq_some, Option.some.injEq, Prod.mk.injEq] at hv
    obtain ⟨-, -, rfl⟩ := hv
    exact ⟨c.step_refl s₁, hlater s₁ hres.of_append⟩

/-- A bounded wait for a condition: the condition tried where the wait begins and wherever it
is resumed, and the wait running out there, must each obey. -/
theorem Obeys.waitUntil {gs : List Nat} {β : Type} {Q : Option β → σ → Prop}
    {ready : σ → Option (β × σ)} {limit : Nat} {s : σ} (hset : c.settled s)
    (hready : ∀ s₁, (s₁ = s ∨ c.Resumed gs s s₁) → ∀ v s', ready s₁ = some (v, s') →
      c.step s₁ s' ∧ Q (some v) s')
    (hnone : ∀ s₁, (s₁ = s ∨ c.Resumed gs s s₁) → Q none s₁) :
    c.Obeys gs Q (Proc.waitUntil ready limit) s := by
  refine .step (c.step_refl s) (Obeys.await_each (fun _ => hset) fun s₁ hwhere v s' hv => ?_)
  replace hwhere : s₁ = s ∨ c.Resumed gs s s₁ := hwhere.imp_right Resumed.of_append
  -- the wait's condition tries `ready` first, then the deadline, in the same state
  dsimp only at hv
  split at hv
  · next v' s'' hr =>
    obtain ⟨rfl, rfl⟩ := Prod.mk.inj (Option.some.inj hv)
    exact hready s₁ hwhere v' s'' hr
  · split at hv
    · cases hv; exact ⟨c.step_refl s₁, hnone s₁ hwhere⟩
    · cases hv

/-- A guarded process: cut short at once when the token is already cancelled, else run under
the guard. -/
theorem Obeys.guarded {gs : List Nat} {β : Type} {Q : β → σ → Prop} {p : Proc σ β} {tok : Nat}
    {s : σ} (hcut : Runtime.cancelled s tok = true → c.settled s)
    (hrun : Runtime.cancelled s tok = false → c.Obeys (tok :: gs) Q p s) :
    c.Obeys gs (c.Caught tok Q) (Proc.guarded tok p) s := by
  refine .step (c.step_refl s) ?_
  cases h : Runtime.cancelled s tok with
  | true => exact .pure ⟨h, hcut h⟩
  | false => exact (hrun h).guardWith rfl

end Contract

end MarketChat
