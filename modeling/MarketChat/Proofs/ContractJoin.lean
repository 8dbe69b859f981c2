import MarketChat.Proofs.ContractScheduler
import MarketChat.Runtime.Join
import Mathlib.Data.List.Forall2
/-!
# Joined processes keep a contract

`Proc.both p q` runs two processes in one task: each side runs until it waits, and the joined
process waits until one of them can go on (`Proc.runLeft`, `Proc.runRight`, `Proc.settle`).
When every state is settled and the task runs under no guard, the join keeps a contract as its
sides do: it obeys with both end conditions, provided the others' steps keep each side's end
condition once that side has ended (`Contract.Stable`).

The argument runs over the fuel of the three functions at once. A side that ended is kept by
its end condition, one that waits is parked where it waits (`Contract.SideKept`); a wait of the
join is over when a side's wait is over, and the side then goes on from where it was parked.

Main statements: `Contract.Obeys.both`, `Contract.Obeys.joinAll`.
-/

namespace MarketChat

namespace Contract

variable {σ : Type} [Runtime σ] {c : Contract σ}

/-- An end condition that the steps of the others keep. -/
def Stable {α : Type} (c : Contract σ) (Q : α → σ → Prop) : Prop :=
  ∀ a s s', c.step s s' → Q a s → Q a s'

/-- A side of a join kept by the contract: ended in its end condition, or parked where it
waits. -/
def SideKept {α : Type} (c : Contract σ) (Q : α → σ → Prop) : Proc.Side σ α → σ → Prop
  | .ended a, s => Q a s
  | .waiting b k, s => c.Parked Q (.block b k) s

/-- Both end conditions, of a pair of results. -/
def Both {α β : Type} (Q₁ : α → σ → Prop) (Q₂ : β → σ → Prop) : α × β → σ → Prop :=
  fun ab s => Q₁ ab.1 s ∧ Q₂ ab.2 s

theorem SideKept.of_step {α : Type} {Q : α → σ → Prop} (hQ : Stable c Q) {d : Proc.Side σ α}
    {s s' : σ} (h : SideKept c Q d s) (hs : c.step s s') : SideKept c Q d s' := by
  cases d with
  | ended a => exact hQ a s s' hs h
  | waiting b k => exact Parked.of_step h hs

/-- A wait over in `s` resumes its process as `Proc.wakeOf` says. -/
theorem resume_block_of_wakeOf {α β : Type} {b : Blocker σ β} {k : Wake β → Proc σ α}
    {s s' : σ} {w : Wake β} (h : Proc.wakeOf b s = some (w, s')) :
    (Proc.block b k).resume s = some (k w, s') := by
  unfold Proc.wakeOf at h
  simp only [Proc.resume]
  split
  · next t ht =>
    rw [ht] at h
    obtain ⟨rfl, rfl⟩ := Prod.mk.inj (Option.some.inj h)
    rfl
  · next ht =>
    rw [ht] at h
    obtain ⟨⟨v, s''⟩, hv, hw⟩ := Option.map_eq_some_iff.1 h
    obtain ⟨rfl, rfl⟩ := Prod.mk.inj hw
    rw [hv]

section Settled

variable (hset : ∀ s, c.settled s)
include hset

/-- A parked side whose wait is over goes on by a step of the contract and obeys. -/
theorem SideKept.wake {α β : Type} {Q : α → σ → Prop} {b : Blocker σ β} {k : Wake β → Proc σ α}
    {s s₁ s' : σ} {w : Wake β} (h : c.Parked Q (.block b k) s) (hs : c.step s s₁)
    (hw : Proc.wakeOf b s₁ = some (w, s')) : c.step s₁ s' ∧ c.Obeys [] Q (k w) s' :=
  h s₁ (hset s₁) hs _ _ (resume_block_of_wakeOf hw)

/-- A wait that no token interrupts obeys when every way it can be over obeys, from the state
it begins in or any state the contract leads to. -/
theorem Obeys.block_of {α β : Type} {Q : α → σ → Prop} {b : Blocker σ β}
    {k : Wake β → Proc σ α} {s : σ} (hab : b.aborts = [])
    (h : ∀ s₁, c.step s s₁ → ∀ v s', b.ready s₁ = some (v, s') →
      c.step s₁ s' ∧ c.Obeys [] Q (k (.ready v)) s') :
    c.Obeys [] Q (.block b k) s := by
  refine .block (fun v s' hv => (h s (c.step_refl s) v s' hv).1)
    (fun v s' hv => (h s (c.step_refl s) v s' hv).2) (fun _ => hset s) ?_
    (fun s₁ _ hs₁ _ v s' hv => (h s₁ hs₁ v s' hv).1)
    (fun s₁ _ hs₁ _ v s' hv => (h s₁ hs₁ v s' hv).2)
  intro s₁ _ _ t ht
  simp [hab] at ht

/-- A process that never goes on obeys. -/
theorem Obeys.stuck {α : Type} {Q : α → σ → Prop} {s : σ} :
    c.Obeys [] Q (Proc.stuck : Proc σ α) s :=
  Obeys.block_of hset rfl fun _ _ _ _ hv => by cases hv

variable {α β : Type} {Q₁ : α → σ → Prop} {Q₂ : β → σ → Prop}
  (h₁ : Stable c Q₁) (h₂ : Stable c Q₂)
include h₁ h₂

/-- The three functions of a join obey together, by induction on the fuel: running a side that
obeys beside one that is kept, and settling two kept sides. -/
theorem join_obeys (fuel : Nat) :
    (∀ (p : Proc σ α) (r : Proc.Side σ β) s, c.Obeys [] Q₁ p s → SideKept c Q₂ r s →
      c.Obeys [] (Both Q₁ Q₂) (Proc.runLeft fuel p r) s) ∧
    (∀ (l : Proc.Side σ α) (q : Proc σ β) s, SideKept c Q₁ l s → c.Obeys [] Q₂ q s →
      c.Obeys [] (Both Q₁ Q₂) (Proc.runRight fuel l q) s) ∧
    (∀ (l : Proc.Side σ α) (r : Proc.Side σ β) s, SideKept c Q₁ l s → SideKept c Q₂ r s →
      c.Obeys [] (Both Q₁ Q₂) (Proc.settle fuel l r) s) := by
  induction fuel with
  | zero =>
    refine ⟨fun p r s _ _ => ?_, fun l q s _ _ => ?_, fun l r s _ _ => ?_⟩ <;>
    · simp only [Proc.runLeft, Proc.runRight, Proc.settle]
      exact Obeys.stuck hset
  | succ fuel ih =>
    obtain ⟨ihL, ihR, ihS⟩ := ih
    refine ⟨fun p r s hp hr => ?_, fun l q s hl hq => ?_, fun l r s hl hr => ?_⟩
    · -- the left side runs until it waits or ends
      cases hp with
      | pure hq => exact ihS _ _ s hq hr
      | abort hc hs => exact .abort hc hs
      | step hs hk => exact .step hs (ihL _ _ _ hk (hr.of_step h₂ hs))
      | block hnow hnowk hwait habort hready hreadyk =>
        exact ihS _ _ s (Obeys.parked (.block hnow hnowk hwait habort hready hreadyk)) hr
      | spawn hts ht hk => exact .spawn hts ht fun i => ihL _ _ _ (hk i) hr
      | kill hk => exact .kill (ihL _ _ _ hk hr)
      | current hk => exact .current fun i => ihL _ _ _ (hk i) hr
    · -- the right side runs until it waits or ends
      cases hq with
      | pure hq => exact ihS _ _ s hl hq
      | abort hc hs => exact .abort hc hs
      | step hs hk => exact .step hs (ihR _ _ _ (hl.of_step h₁ hs) hk)
      | block hnow hnowk hwait habort hready hreadyk =>
        exact ihS _ _ s hl (Obeys.parked (.block hnow hnowk hwait habort hready hreadyk))
      | spawn hts ht hk => exact .spawn hts ht fun i => ihR _ _ _ hl (hk i)
      | kill hk => exact .kill (ihR _ _ _ hl hk)
      | current hk => exact .current fun i => ihR _ _ _ hl (hk i)
    · -- both sides ended or wait: end, or wait until a side's wait is over
      cases l with
      | ended a =>
        cases r with
        | ended b => exact .pure ⟨hl, hr⟩
        | waiting br kr =>
          refine Obeys.block_of hset rfl fun s₁ hs₁ v s' hv => ?_
          obtain ⟨hstep, hk⟩ := SideKept.wake hset hr hs₁ hv
          have hl' : Q₁ a s' := h₁ a s s' (c.step_trans hs₁ hstep) hl
          exact ⟨hstep, ihR _ _ _ hl' hk⟩
      | waiting bl kl =>
        cases r with
        | ended b =>
          refine Obeys.block_of hset rfl fun s₁ hs₁ v s' hv => ?_
          obtain ⟨hstep, hk⟩ := SideKept.wake hset hl hs₁ hv
          have hr' : Q₂ b s' := h₂ b s s' (c.step_trans hs₁ hstep) hr
          exact ⟨hstep, ihL _ _ _ hk hr'⟩
        | waiting br kr =>
          refine Obeys.block_of hset rfl fun s₁ hs₁ v s' hv => ?_
          -- the left side is looked at first
          dsimp only at hv
          cases hwl : Proc.wakeOf bl s₁ with
          | some ws =>
            obtain ⟨w, s''⟩ := ws
            rw [hwl] at hv
            obtain ⟨rfl, rfl⟩ := Prod.mk.inj (Option.some.inj hv)
            obtain ⟨hstep, hk⟩ := SideKept.wake hset hl hs₁ hwl
            exact ⟨hstep, ihL _ _ _ hk (Parked.of_step hr (c.step_trans hs₁ hstep))⟩
          | none =>
            rw [hwl] at hv
            obtain ⟨⟨w, s''⟩, hwr, hw⟩ := Option.map_eq_some_iff.1 hv
            obtain ⟨rfl, rfl⟩ := Prod.mk.inj hw
            obtain ⟨hstep, hk⟩ := SideKept.wake hset hr hs₁ hwr
            exact ⟨hstep, ihR _ _ _ (Parked.of_step hl (c.step_trans hs₁ hstep)) hk⟩

/-- **Two processes joined in one task keep the contract.** The left side obeys from where the
join starts, the right side from wherever it is started; the join ends with both results, each
in its side's end condition. -/
theorem Obeys.both {p : Proc σ α} {q : Proc σ β} {s : σ} (fuel : Nat) (hp : c.Obeys [] Q₁ p s)
    (hq : ∀ s₁, c.step s s₁ → c.Obeys [] Q₂ q s₁) :
    c.Obeys [] (Both Q₁ Q₂) (Proc.both fuel p q) s := by
  refine (join_obeys hset h₁ h₂ fuel).1 p _ s hp ?_
  -- the right side waits for nothing: it is started wherever the left side first waits
  intro s₁ _ hs₁ p' s' hres
  simp only [Proc.resume, List.find?_nil, Option.some.injEq, Prod.mk.injEq] at hres
  obtain ⟨rfl, rfl⟩ := hres
  exact ⟨c.step_refl s₁, hq s₁ hs₁⟩

end Settled

/-- The end conditions of the sides of `Proc.joinAll`, one per side, read together. -/
theorem Stable.forall₂ {ι α : Type} {R : ι → α → σ → Prop} (hR : ∀ x, Stable c (R x))
    (xs : List ι) : Stable c fun (as : List α) s => List.Forall₂ (fun x a => R x a s) xs as :=
  fun _ s s' hs h => h.imp fun x a => hR x a s s' hs

/-- **Processes joined in one task keep the contract.** Each side obeys from wherever it is
started; the results stand in the order of the sides, each in its own end condition. -/
theorem Obeys.joinAll {ι α : Type} {R : ι → α → σ → Prop} (hset : ∀ s, c.settled s)
    (hR : ∀ x, Stable c (R x)) (f : ι → Proc σ α) (fuel : Nat) :
    ∀ (xs : List ι) (s : σ), (∀ x ∈ xs, ∀ s₁, c.step s s₁ → c.Obeys [] (R x) (f x) s₁) →
      c.Obeys [] (fun as s' => List.Forall₂ (fun x a => R x a s') xs as)
        (Proc.joinAll fuel (xs.map f)) s
  | [], _, _ => .pure .nil
  | x :: xs, s, hf => by
    have hrest : ∀ s₁, c.step s s₁ → c.Obeys [] (fun as s' => List.Forall₂ (fun x a => R x a s') xs as)
        (Proc.joinAll fuel (xs.map f)) s₁ := fun s₁ hs₁ =>
      Obeys.joinAll hset hR f fuel xs s₁ fun y hy s₂ hs₂ =>
        hf y (List.mem_cons_of_mem x hy) s₂ (c.step_trans hs₁ hs₂)
    refine (Obeys.both hset (hR x) (Stable.forall₂ hR xs) fuel
      (hf x List.mem_cons_self s (c.step_refl s)) hrest).bind ?_
    rintro ⟨a, as⟩ s' ⟨ha, has⟩
    exact .pure (.cons ha has)

end Contract

end MarketChat
