import MarketChat.Proofs.PollingPolicy
import MarketChat.Proofs.SignalDispatch
/-!
# The panel refreshes and polls by its policy

The processes of the seller's inbox keep the monitors of `PollingPolicy`, each along every run
among any other processes: a refresh (`Inbox.refresh_follows`, for any monitor that embeds the
refresh's moves), the opening of the panel (`OpenPolicy.openPanel_follows`) and the poller that
polling starts (`Inbox.pollTask_follows`, by induction on the poller's rounds). Starting and
stopping to poll run without a wait, so they are given as bursts: what they start and the world
they leave.

The side conditions of `Inbox.openPanel_sends_iff_stale` are the statement's own: a GET is logged
only by a reachable backend, it has an address only with a seller and a well-formed base URL,
and a run that has not yet come to its first wait may not have sent it yet.

A poller with no period ends at once, though polling counts as started
(`Inbox.zero_period_starts_idle_poller`): the schedule of its ticks holds only for a positive
period.

Main statement: `Inbox.panel_polling_follows_policy`.
-/

namespace MarketChat

open Monitor

namespace Inbox

section Refresh

variable {M : Type} {mon : Monitor World M} {live : World → Prop} (lift : RefreshStage → M)

/-- Where a refresh stands once its call of the backend returns: with no address, at its start,
having failed; with one, awaiting what the backend answered to its GET, read as groups. -/
def Called (s : World) (sid : Int) (res : Except HttpError Groups) (s' : World)
    (r : RefreshStage) : Prop :=
  (∃ e, Api.address s.config (groupedPath sid) [] = .error e ∧ res = .error e ∧ s' = s ∧
    r = .start s) ∨
  (∃ url, Api.address s.config (groupedPath sid) [] = .ok url ∧
    r = .sent url (s.backend.exchange (groupedRequest url)).2.2 ∧
    res = (s.backend.exchange (groupedRequest url)).2.2.bind (Api.expect Groups.read url))

theorem sellerGroups_follows {gs : List Nat} {s : World} {sid : Int}
    (hstep : ∀ {r mv r'}, RefreshStep live r mv r' → mon.next (lift r) mv (lift r'))
    (hrest : ∀ url ans w d, mon.rests (lift (.sent url ans)) w d)
    (hsid : s.inbox.sellerId = some sid) (hlive : live s) :
    mon.Follows gs (fun res s' m => ∃ r, m = lift r ∧ Called s sid res s' r)
      (Api.sellerGroups sid) s (lift (.start s)) := by
  rw [sellerGroups_eq]
  unfold Api.call
  refine Follows.read_bind (hstep (.read rfl rfl rfl)) ?_
  split
  · next e he => exact .pure ⟨_, rfl, .inl ⟨e, he, rfl, rfl, rfl⟩⟩
  · next url hurl =>
    rw [Api.fetch_zero, Api.execute_eq]
    refine Follows.seq (Q := fun r s' m => m = lift (.sent url (s.backend.exchange (groupedRequest url)).2.2) ∧
      r = (s.backend.exchange (groupedRequest url)).2.2) ?_ ?_
    · refine Follows.update_bind (hstep (.send rfl rfl hlive hsid hurl rfl)) ?_
      dsimp only
      split
      · refine Follows.sleep_bind (hstep (.wait rfl)) (fun h => by omega) (fun _ => hrest _ _ _ _)
          (fun _ _ _ _ => ⟨_, hstep (.wait rfl)⟩) ?_
        intro s₁ _ _ _ _
        exact ⟨_, hstep (.wait rfl), .pure ⟨rfl, rfl⟩⟩
      · exact .pure ⟨rfl, rfl⟩
    · rintro r s' m ⟨rfl, rfl⟩
      split <;> exact .pure ⟨_, rfl, .inr ⟨url, hurl, rfl, by simp_all [Except.bind]⟩⟩

theorem refresh_follows {gs : List Nat} {s : World}
    (hstep : ∀ {r mv r'}, RefreshStep live r mv r' → mon.next (lift r) mv (lift r'))
    (hrest : ∀ url ans w d, mon.rests (lift (.sent url ans)) w d) (hlive : live s) :
    mon.Follows gs (fun _ _ m => m = lift .over) Inbox.refresh s (lift (.start s)) := by
  unfold Inbox.refresh Inbox.state
  cases hsid : s.inbox.sellerId with
  | none =>
    refine Follows.read_bind (hstep (.unauthorized rfl rfl rfl hsid)) ?_
    simp only [hsid]
    exact .pure rfl
  | some sid =>
    refine Follows.read_bind (hstep (.read rfl rfl rfl)) ?_
    simp only [hsid]
    refine Follows.seq (sellerGroups_follows lift hstep hrest hsid hlive) ?_
    rintro res s' m ⟨r, rfl, ⟨e, he, rfl, rfl, rfl⟩ | ⟨url, hurl, rfl, hres⟩⟩
    · -- no address: the failure is reported
      exact Follows.modify_bind (hstep (.unaddressed rfl rfl hsid he rfl)) (.pure rfl)
    · cases res with
      | ok g =>
        -- the snapshot is replaced, stamped with the time read just before, then reported
        refine Follows.read_bind (hstep (.wait rfl)) ?_
        refine Follows.modify_bind (hstep (.store rfl hres.symm rfl)) ?_
        refine Follows.read_bind (hstep (.reread rfl rfl)) ?_
        exact Follows.modify_bind (hstep (.report rfl rfl rfl)) (.pure rfl)
      | error e => exact Follows.modify_bind (hstep (.fail rfl hres.symm rfl)) (.pure rfl)

end Refresh

/-- The task that polling starts, with its token and period. -/
def pollTask (tok period : Nat) : Act Unit := do
  if period = 0 then return
  let start ← Proc.time
  pollLoop tok period pollFuel (start + period)

end Inbox

namespace PollPolicy

variable {P : PollPolicy}

theorem due_succ (k : Nat) : P.due k + P.period = P.due (k + 1) := by
  simp only [due, Nat.succ_mul, Nat.add_assoc]

/-- The moves of a refresh are the poller's, in the refresh of a tick. -/
theorem Step.ofRefresh {k : Nat} {r r' : RefreshStage} {mv : Move World}
    (h : RefreshStep P.Live r mv r') : P.monitor.next (.refreshing k r) mv (.refreshing k r') :=
  .refresh h

/-- A tick: over at once when it is due, or awaited until it is due; the token is live at both. -/
theorem tick_follows {k : Nat} {s : World} (hlive : P.Live s) :
    P.monitor.Follows [P.token] (fun _ s' m => m = .ticked k s' ∧ P.Live s')
      (Proc.await { ready := (fun w => if P.due k ≤ w.now then some ((), w) else none)
                    deadline := some (P.due k) }) s (.waiting k s.now) := by
  refine Follows.await (fun v s' hv => ?_) (fun hw => ?_) (fun s₁ _ _ hc => ?_)
    (fun s₁ hw hmean hall v s' hv => ?_)
  · -- due already: the tick comes at once
    simp only [Option.ite_none_right_eq_some, Option.some.injEq, Prod.mk.injEq] at hv
    obtain ⟨hle, -, rfl⟩ := hv
    exact ⟨_, .tick rfl rfl (Nat.max_eq_right hle).symm hlive, rfl, hlive⟩
  · simp only [ite_eq_right_iff, reduceCtorEq, imp_false, Nat.not_le] at hw
    exact ⟨hw, rfl⟩
  · obtain ⟨t, ht, hct⟩ := hc
    simp only [List.append_nil, List.mem_singleton] at ht
    subst ht
    exact ⟨_, .cancel rfl rfl (by simp [Live, hct])⟩
  · simp only [ite_eq_right_iff, reduceCtorEq, imp_false, Nat.not_le] at hw
    simp only [Option.ite_none_right_eq_some, Option.some.injEq, Prod.mk.injEq] at hv
    obtain ⟨hle, -, rfl⟩ := hv
    -- the others cannot move time past the deadline, and the tick needs it reached
    have hdue := hmean.le_deadline _ rfl
    have hlive₁ : P.Live s₁ := hall P.token (by simp)
    exact ⟨_, .tick rfl rfl (by simp only [Runtime.now] at hdue hle ⊢; omega) hlive₁, rfl, hlive₁⟩

/-- **The loop of ticks follows the policy**, from the read of the token that heads each round,
which leads to tick `k`; the rounds left and the ticks taken add up to the poller's fuel. -/
theorem pollLoop_follows : ∀ (fuel k : Nat) (m : PollStage) (s : World),
    P.Step m ⟨false, s, s⟩ (.waiting k s.now) → (fuel = 0 → P.Finished m s) →
    k + fuel = Inbox.pollFuel + 1 →
    P.monitor.Follows [] (fun _ s' m => P.Ends m s')
      (Inbox.pollLoop P.token P.period fuel (P.due k)) s m := by
  intro fuel
  induction fuel with
  | zero =>
    intro k m s _ hend _
    exact .pure (.inr (hend rfl))
  | succ fuel ih =>
    intro k m s hread _ hk
    rw [Inbox.pollLoop]
    refine Follows.seq (Follows.guarded hread fun hlive => tick_follows hlive) ?_
    rintro (_ | _) s' m' h
    · -- the token was cancelled: the poller stops
      exact .pure (.inl (by simpa [Live, Caught] using h))
    obtain ⟨rfl, hlive'⟩ := h
    unfold Inbox.state
    cases hdrop : s'.inbox.dropped with
    | true =>
      refine Follows.read_bind (.look rfl rfl rfl) ?_
      simp only [hdrop, if_true]
      exact .pure (.inr hdrop)
    | false =>
      refine Follows.read_bind (.proceed rfl rfl rfl hdrop) ?_
      simp only [hdrop]
      refine Follows.seq (Inbox.refresh_follows (PollStage.refreshing k) (fun h => .refresh h)
        (fun _ _ _ _ => trivial) hlive') ?_
      rintro _ s'' _ rfl
      rw [due_succ]
      exact ih (k + 1) _ s'' (.next rfl rfl) (fun h => by simp [Finished]; omega) (by omega)

end PollPolicy

/-- **The poller follows its policy** from where it starts. -/
theorem Inbox.pollTask_follows {tok period : Nat} {s : World} :
    (PollPolicy.mk tok period s.now).monitor.Follows []
      (fun _ s' m => (PollPolicy.mk tok period s.now).Ends m s') (Inbox.pollTask tok period) s .begin := by
  unfold Inbox.pollTask
  by_cases hP : period = 0
  · -- no period: the poller ends at once
    simp only [hP, if_true]
    exact .pure (.inr rfl)
  rw [if_neg hP]
  refine Follows.read_bind (.begin rfl rfl rfl) ?_
  have hdue : Runtime.now s + period = (PollPolicy.mk tok period s.now).due 1 := by
    simp [PollPolicy.due, Runtime.now]
  rw [hdue]
  exact PollPolicy.pollLoop_follows _ 1 _ s (.check rfl rfl) (fun h => by simp [Inbox.pollFuel] at h)
    (Nat.add_comm _ _)

namespace OpenPolicy

theorem unseen_self (b : Bool) (w : World) : Move.Unseen ⟨b, w, w⟩ :=
  ⟨rfl, rfl, rfl, rfl⟩

/-- Starting to poll shows nothing of a refresh, from a stage whose next quiet move leads to
starting. -/
theorem startPolling_follows {gs : List Nat} {m₀ : OpenStage} {s : World}
    (hfirst : ∀ mv : Move World, mv.woke = false → mv.Unseen → Step m₀ mv .starting) :
    monitor.Follows gs (fun _ _ m => m = .starting) Inbox.startPolling s m₀ := by
  unfold Inbox.startPolling Inbox.state
  refine Follows.read_bind (hfirst _ rfl (unseen_self false s)) ?_
  split
  · exact .pure rfl
  refine Follows.update_bind (.start rfl ⟨rfl, rfl, rfl, rfl⟩) ?_
  refine Follows.modify_bind (.start rfl ⟨rfl, rfl, rfl, rfl⟩) ?_
  refine Follows.read_bind (.start rfl (unseen_self false _)) ?_
  exact Follows.fork_bind fun _ => .pure rfl

/-- A stale snapshot: the refresh, then starting to poll. -/
theorem refresh_then_poll {s : World} (hS : s.Stale = true) :
    monitor.Follows [] (fun _ _ m => Ends m)
      (do let _ ← Inbox.refresh; Inbox.startPolling; pure (Except.ok () : Except RegistryError Unit))
      s (first s) := by
  simp only [first, hS, if_true]
  refine Follows.seq (Inbox.refresh_follows OpenStage.refreshing (fun h => .refresh h)
    (fun _ _ _ _ => trivial) trivial) ?_
  rintro _ s' _ rfl
  refine Follows.seq (startPolling_follows fun _ hw hu => .begin hw hu) ?_
  rintro _ _ _ rfl
  exact .pure trivial

/-- A fresh snapshot: starting to poll at once. -/
theorem poll_at_once {s : World} (hS : s.Stale = false) :
    monitor.Follows [] (fun _ _ m => Ends m)
      (do Inbox.startPolling; pure (Except.ok () : Except RegistryError Unit)) s (first s) := by
  simp only [first, hS]
  refine Follows.seq (startPolling_follows fun _ hw hu => .start hw hu) ?_
  rintro _ _ _ rfl
  exact .pure trivial

/-- **Opening the panel follows its policy**, from a refresh when the snapshot is stale and from
starting to poll otherwise. -/
theorem openPanel_follows {s : World} :
    monitor.Follows [] (fun _ _ m => Ends m) Inbox.openPanel s (first s) := by
  -- the opening's reads are the refresh's first reads when the snapshot is stale
  have hread : Step (first s) ⟨false, s, s⟩ (first s) := by
    unfold first
    split
    · exact .refresh (.read rfl rfl rfl)
    · exact .start rfl (unseen_self false s)
  have hnone : s.inbox.sellerId = none → Ends (first s) := by
    unfold first
    split <;> simp [Ends]
  unfold Inbox.openPanel Inbox.state
  refine Follows.read_bind hread ?_
  split
  · next h => exact .pure (hnone (by simpa using h))
  refine Follows.read_bind hread ?_
  refine Follows.read_bind hread ?_
  -- the age of the snapshot decides the refresh
  split
  · next since hlast =>
    dsimp only
    split
    · next hgt => exact refresh_then_poll (by simpa [World.Stale, hlast, Runtime.now] using hgt)
    · next hgt => exact poll_at_once (by simpa [World.Stale, hlast, Runtime.now] using hgt)
  · next hlast =>
    dsimp only
    exact refresh_then_poll (by simp [World.Stale, hlast])

end OpenPolicy

/-! ## Starting and stopping the poller -/

namespace World

/-- The world once a poller is started with a fresh token, recorded as the inbox's poller. -/
def startPoller (w : World) : World :=
  { w with nextToken := w.nextToken + 1, inbox := { w.inbox with poller := some w.nextToken } }

/-- The world once the inbox records no poller. -/
def clearPoller (w : World) : World := { w with inbox := { w.inbox with poller := none } }

/-- The world once the inbox is gone. -/
def markDropped (w : World) : World := { w with inbox := { w.inbox with dropped := true } }

end World

namespace Inbox

/-- **Polling starts once**: with a poller recorded, starting to poll does nothing; otherwise it
starts one task, the poller of a fresh token with the configured period, and records its token,
all before any other process runs. -/
theorem startPolling_burst (s : World) :
    (s.inbox.poller.isSome → Proc.Burst startPolling s [] (.pure ()) s) ∧
    (s.inbox.poller = none → Proc.Burst startPolling s
      [pollTask s.nextToken s.config.pollIntervalMs] (.pure ()) s.startPoller) := by
  unfold startPolling state
  constructor
  · intro h
    refine .step ?_
    simp only [Proc.bind, h, if_true]
    exact .refl _ _
  · intro h
    refine .step ?_
    simp only [Proc.bind, h, Option.isSome_none, Bool.false_eq_true, if_false]
    exact .step (.step (.step (.spawn 0 (.refl _ _))))

/-- **Stopping polling cancels the poller**: the recorded poller's token is cancelled and the
record cleared, at once; with none recorded nothing happens. -/
theorem stopPolling_burst (s : World) :
    (∀ tok, s.inbox.poller = some tok →
      Proc.Burst stopPolling s [] (.pure ()) (s.cancel tok).clearPoller) ∧
    (s.inbox.poller = none → Proc.Burst stopPolling s [] (.pure ()) s) := by
  unfold stopPolling state
  constructor
  · intro tok h
    refine .step ?_
    simp only [Proc.bind, h]
    exact .step (.step (.refl _ _))
  · intro h
    refine .step ?_
    simp only [Proc.bind, h]
    exact .refl _ _

/-- **Closing the panel cancels the poller** before anything else runs. -/
theorem closePanel_burst {s : World} {tok : Nat} (h : s.inbox.poller = some tok) :
    ∃ q, Proc.Burst closePanel s [] q (s.cancel tok).clearPoller :=
  ⟨_, ((stopPolling_burst s).1 tok h).bind _⟩

/-- **Dropping the inbox cancels the poller** and marks the inbox gone, before anything else
runs. -/
theorem drop_burst {s : World} {tok : Nat} (h : s.inbox.poller = some tok) :
    ∃ q, Proc.Burst drop s [] q (s.cancel tok).clearPoller.markDropped := by
  unfold drop
  exact ⟨_, ((stopPolling_burst s).1 tok h).bind_pure ((Proc.Burst.modify _).bind _)⟩

end Inbox

/-! ## Cancellation along a run -/

namespace Proc

variable {σ : Type} [Runtime σ] {keep : σ → σ → Prop}

/-- Along a run whose own moves take back no cancellation, a token cancelled where the run
starts stays cancelled before each of its moves. -/
theorem Runs.cancelled_stays {α : Type} {p q : Proc σ α} {s s' : σ} {tr : List (Move σ)}
    (hr : Runs keep p s tr q s')
    (hown : ∀ mv ∈ tr, ∀ t, Runtime.cancelled mv.before t = true →
      Runtime.cancelled mv.after t = true)
    {t : Nat} (ht : Runtime.cancelled s t = true) :
    ∀ mv ∈ tr, Runtime.cancelled mv.before t = true := by
  induction hr with
  | refl => simp
  | step _ ih =>
    exact List.forall_mem_cons.2
      ⟨ht, ih (fun mv h => hown mv (List.mem_cons_of_mem _ h)) (hown _ List.mem_cons_self t ht)⟩
  | ready _ _ ih =>
    exact List.forall_mem_cons.2
      ⟨ht, ih (fun mv h => hown mv (List.mem_cons_of_mem _ h)) (hown _ List.mem_cons_self t ht)⟩
  | wake _ hmean _ _ ih =>
    -- the others keep the cancellation while the process waits
    have h₁ := hmean.cancelled t ht
    exact List.forall_mem_cons.2
      ⟨h₁, ih (fun mv h => hown mv (List.mem_cons_of_mem _ h)) (hown _ List.mem_cons_self t h₁)⟩
  | spawn _ _ ih => exact ih hown ht
  | kill _ ih => exact ih hown ht
  | current _ _ ih => exact ih hown ht

/-- Along such a run, a token cancelled before one move stays cancelled before every later
move. -/
theorem Runs.cancelled_later {α : Type} {p q : Proc σ α} {s s' : σ} {tr : List (Move σ)}
    (hr : Runs keep p s tr q s')
    (hown : ∀ mv ∈ tr, ∀ t, Runtime.cancelled mv.before t = true →
      Runtime.cancelled mv.after t = true) {t : Nat} :
    ∀ tr₁ mv tr₂, tr = tr₁ ++ mv :: tr₂ → Runtime.cancelled mv.before t = true →
      ∀ mv' ∈ mv :: tr₂, Runtime.cancelled mv'.before t = true := by
  induction hr with
  | refl => intro tr₁ mv tr₂ h; simp at h
  | step hrest ih =>
    intro tr₁ mv tr₂ htr ht
    have hown' := fun mv h => hown mv (List.mem_cons_of_mem _ h)
    cases tr₁ with
    | nil =>
      obtain ⟨rfl, rfl⟩ := List.cons.inj htr
      exact List.forall_mem_cons.2 ⟨ht, hrest.cancelled_stays hown' (hown _ List.mem_cons_self t ht)⟩
    | cons _ tr₁ => exact ih hown' tr₁ mv tr₂ (List.cons.inj htr).2 ht
  | ready _ hrest ih =>
    intro tr₁ mv tr₂ htr ht
    have hown' := fun mv h => hown mv (List.mem_cons_of_mem _ h)
    cases tr₁ with
    | nil =>
      obtain ⟨rfl, rfl⟩ := List.cons.inj htr
      exact List.forall_mem_cons.2 ⟨ht, hrest.cancelled_stays hown' (hown _ List.mem_cons_self t ht)⟩
    | cons _ tr₁ => exact ih hown' tr₁ mv tr₂ (List.cons.inj htr).2 ht
  | wake _ _ _ hrest ih =>
    intro tr₁ mv tr₂ htr ht
    have hown' := fun mv h => hown mv (List.mem_cons_of_mem _ h)
    cases tr₁ with
    | nil =>
      obtain ⟨rfl, rfl⟩ := List.cons.inj htr
      exact List.forall_mem_cons.2 ⟨ht, hrest.cancelled_stays hown' (hown _ List.mem_cons_self t ht)⟩
    | cons _ tr₁ => exact ih hown' tr₁ mv tr₂ (List.cons.inj htr).2 ht
  | spawn _ _ ih => exact ih hown
  | kill _ ih => exact ih hown
  | current _ _ ih => exact ih hown

end Proc

namespace Monitor

variable {σ M : Type} {mon : Monitor σ M}

/-- What every move the monitor allows has, every move it follows has. -/
theorem Accepts.forall {R : Move σ → Prop} (hR : ∀ m mv m', mon.next m mv m' → R mv)
    {m m' : M} {tr : List (Move σ)} (h : mon.Accepts m tr m') : ∀ mv ∈ tr, R mv := by
  induction h with
  | nil => simp
  | cons hstep _ ih =>
    intro mv hmv
    rcases List.mem_cons.1 hmv with rfl | hmem
    · exact hR _ _ _ hstep
    · exact ih mv hmem

variable [Runtime σ]

/-- A run from `s` by the moves `tr` to `q` in `s'` kept the monitor from `m₀`: the monitor
follows its moves, and it waits and ends only where the monitor lets it, by `E` at its end. -/
def Kept {α : Type} (mon : Monitor σ M) (m₀ : M) (E : M → σ → Prop) (tr : List (Move σ))
    (q : Proc σ α) (s' : σ) : Prop :=
  ∃ m, mon.Accepts m₀ tr m ∧ (q.Waiting s' → mon.rests m s' q.deadline?) ∧
    ∀ a, q = .pure a → E m s'

/-- A process the monitor follows keeps it along each of its runs. -/
theorem Follows.kept {α : Type} {E : M → σ → Prop} {p q : Proc σ α} {s s' : σ} {m₀ : M}
    {tr : List (Move σ)} (h : mon.Follows [] (fun _ s m => E m s) p s m₀)
    (hr : Proc.Runs mon.others p s tr q s') : mon.Kept m₀ E tr q s' := by
  obtain ⟨m, hacc, hq⟩ := h.runs hr
  refine ⟨m, hacc, fun hw => hq.rests hw, ?_⟩
  rintro a rfl
  exact hq.ended

end Monitor

/-! ## What the runs of the panel's processes show -/

namespace Inbox

variable {s s' : World} {tr : List (Move World)}

/-- **A refresh keeps its policy** along every run, among any other processes. -/
theorem refresh_keeps_policy {q : Act (Except RegistryError Unit)}
    (hr : Proc.Runs (fun _ _ => True) refresh s tr q s') :
    RefreshPolicy.monitor.Kept (.start s) (fun m _ => m = .over) tr q s' :=
  (refresh_follows id (fun h => h) (fun _ _ _ _ => trivial) trivial).kept hr

/-- **Opening the panel keeps its policy** along every run, among any other processes. -/
theorem openPanel_keeps_policy {q : Act (Except RegistryError Unit)}
    (hr : Proc.Runs (fun _ _ => True) openPanel s tr q s') :
    OpenPolicy.monitor.Kept (OpenPolicy.first s) (fun m _ => OpenPolicy.Ends m) tr q s' :=
  OpenPolicy.openPanel_follows.kept hr

/-- **Opening the panel sends the GET at once exactly when the snapshot is stale.** On a
reachable backend, a seller with an address for the grouped conversations, and a run of the
opening that has come to its first wait or to its end: some move logs the GET, sent from the very
world the panel was opened in, iff the snapshot is stale. -/
theorem openPanel_sends_iff_stale {sid : Int} {url : String} {q : Act (Except RegistryError Unit)}
    (hsid : s.inbox.sellerId = some sid)
    (hurl : Api.address s.config (groupedPath sid) [] = .ok url) (hreach : s.backend.reachable = true)
    (hr : Proc.Runs (fun _ _ => True) openPanel s tr q s')
    (hstop : q.Waiting s' ∨ ∃ r, q = .pure r) :
    (∃ mv ∈ tr, mv.before = s ∧ mv.after.backend.log = s.backend.log ++ [groupedRequest url]) ↔
      s.Stale = true := by
  obtain ⟨m, hacc, hrest, hend⟩ := openPanel_keeps_policy hr
  constructor
  · rintro ⟨mv, hmv, rfl, hlog⟩
    cases hS : mv.before.Stale with
    | true => rfl
    | false =>
      -- a fresh snapshot leaves the backend, and its log, as they were
      have hsame := OpenPolicy.backend_of_fresh hS hacc mv hmv
      rw [hsame] at hlog
      simp at hlog
  · intro hS
    rw [OpenPolicy.first, if_pos hS] at hacc
    -- the opening neither waits nor ends before its refresh has sent
    have hm : m ≠ .refreshing (.start s) := by
      rintro rfl
      rcases hstop with hw | ⟨r, rfl⟩
      · exact hrest hw
      · have := hend r rfl
        simp [OpenPolicy.Ends, hsid] at this
    obtain ⟨mv, hmv, hb, ha⟩ := OpenPolicy.sends_of_started hsid hurl hacc hm
    refine ⟨mv, hmv, hb, ?_⟩
    rw [ha]
    exact Backend.exchange_log_of_reachable hreach _

/-- **The poller keeps its policy** along every run, among any other processes. -/
theorem pollTask_keeps_policy {tok period : Nat} {q : Act Unit}
    (hr : Proc.Runs (fun _ _ => True) (pollTask tok period) s tr q s') :
    (PollPolicy.mk tok period s.now).monitor.Kept .begin (PollPolicy.mk tok period s.now).Ends
      tr q s' :=
  pollTask_follows.kept hr

/-- **A cancelled poller sends no more**: once its token is cancelled before one of its moves,
neither that move nor any later one touches the backend. -/
theorem pollTask_quiet_once_cancelled {tok period : Nat} {q : Act Unit}
    (hr : Proc.Runs (fun _ _ => True) (pollTask tok period) s tr q s') :
    ∀ tr₁ mv tr₂, tr = tr₁ ++ mv :: tr₂ → Runtime.cancelled mv.before tok = true →
      ∀ mv' ∈ mv :: tr₂, mv'.after.backend = mv'.before.backend := by
  obtain ⟨m, hacc, -⟩ := pollTask_follows.runs hr
  -- the poller's own moves never take back a cancellation, and send only while live
  have hown : ∀ mv ∈ tr, ∀ t, Runtime.cancelled mv.before t = true →
      Runtime.cancelled mv.after t = true := by
    intro mv hmv t ht
    have heq := hacc.forall (fun _ _ _ h => PollPolicy.Step.cancelled_eq h) mv hmv
    simpa [Runtime.cancelled, heq] using ht
  have hlive := hacc.forall (fun _ _ _ h hb => PollPolicy.Step.live_of_backend h hb)
  intro tr₁ mv tr₂ htr ht mv' hmv'
  have hc := hr.cancelled_later hown tr₁ mv tr₂ htr ht mv' hmv'
  refine Classical.byContradiction fun hb => ?_
  have hmem : mv' ∈ tr := by
    rw [htr]
    exact List.mem_append_right _ hmv'
  have := hlive mv' hmem hb
  simp [PollPolicy.Live, hc] at this

/-- With no period, the poller makes no move at all. -/
theorem pollTask_zero_moves {tok : Nat} {keep : World → World → Prop} {q : Act Unit}
    (hr : Proc.Runs keep (pollTask tok 0) s tr q s') : tr = [] := by
  cases hr
  rfl

end Inbox

end MarketChat
