import MarketChat.Proofs.CreationSends
import MarketChat.Proofs.SessionRuns
/-!
# A buyer's sends, under every schedule

A buyer's lifetime of session 0 with no conversation yet, whose sends are started as tasks of
their own, joined, and mixed with commands to the world around the client (time passing, the
server's frames and hang-ups, refusals, routes, store reads). Under every schedule of the tasks
and the main process the pool keeps the buying contract (`Buying.BuyerSteps.keeps`), so at
every point of every such run (`Buying.CreationsKept`):

* at most one creation is on its way, and one on its way is the lock holder's;
* every creation is the lifetime's: a POST of `/chat/chats` carrying its listing, seller and
  actor;
* once the chat is attached it stays, and no creation is sent or reported failed after it;
* no connection is tried before the chat is attached.

Main results: `Buying.sessionAct_obeys`, `Buying.BuyerSteps.keeps`,
`Buying.creations_one_at_a_time`.
-/

namespace MarketChat

open RelyGuarantee World

/-- The commands of a buyer's sends: sends started as tasks, joins, actor requests, and
commands to the world around the client. -/
def SessionCommand.buys : SessionCommand → Bool
  | .send _ spawn => spawn
  | .actor | .join | .world _ => true
  | _ => false

/-- Adding a route leaves what the backend receives and whether it is reached alone. -/
theorem World.Apart.route (w : World) (r : Route) :
    w.Apart { w with backend := w.backend.addRoute r } :=
  ⟨rfl, rfl, rfl, rfl, rfl, rfl, rfl, rfl, ⟨[], by simp [Backend.addRoute], by simp⟩,
    ⟨[], by simp, by simp⟩, List.prefix_refl _⟩

namespace Buying

variable {b : Buying} {w : World} {j : Nat}

/-! ## The commands, as the main process -/

/-- A step of the main process's own that leaves creating the conversation alone. -/
theorem update_quiet {gs : List Nat} {β : Type} {f : World → β × World} (hs : b.Settled w)
    (hf : ∀ w₀ : World, w₀.Apart (f w₀).2 ∧ (f w₀).2.sockets.attempts = w₀.sockets.attempts) :
    b.contract.Obeys j gs (fun _ => b.Settled) (Proc.update f) w :=
  .step (Apart.quiet hs (hf w).1 (hf w).2).1 (.pure (Apart.quiet (j := j) hs (hf w).1 (hf w).2).2)

/-- Keeping the book of results leaves creating the conversation alone. -/
theorem results_apart (w : World) (rs : List (Option (Except ChatError Unit))) :
    w.Apart { w with results := rs } ∧
      ({ w with results := rs } : World).sockets.attempts = w.sockets.attempts :=
  ⟨Apart.aside rfl rfl rfl rfl rfl (List.prefix_refl _), rfl⟩

/-- A send started as a task: the task keeps the contract under its own number, which the
pool drew fresh, and so no lock holds. -/
theorem operate_send_obeys (hs : b.Settled w) (text : String) :
    b.contract.Obeys 0 [] (fun _ => b.Settled) (Scene.operate (Session.send 0 text) true) w := by
  unfold Scene.operate
  rw [if_pos rfl]
  refine update_quiet_bind hs (fun w₀ => results_apart w₀ _) fun k w₁ hs₁ => ?_
  refine Obeys.fork_bind (fun i _ hf => parked_of_obeys fun w₂ hs₂ hr => ?_) fun _ => .pure hs₁
  refine (send_obeys hs₂ (b.contract.fresh_of_rely hr hf)).bind fun r w₃ hs₃ => ?_
  -- the result is kept by one step of the task's own
  exact update_quiet (f := fun w₀ => ((), { w₀ with results := w₀.results.set k (some r) })) hs₃
    fun w₀ => results_apart w₀ _

/-- Taking a finished result leaves the world as it is. -/
theorem joinResult_ready {k : Nat} {w₀ w' : World} {v : Except ChatError Unit}
    (hv : (match w₀.results[k]? with
      | some (some r) => some (r, w₀)
      | _ => none) = some (v, w')) : w' = w₀ := by
  split at hv
  · cases hv
    rfl
  · cases hv

/-- Waiting for a result takes nothing from the world, and no token interrupts it. -/
theorem joinResult_obeys (hs : b.Settled w) (k : Nat) :
    b.contract.Obeys 0 [] (fun _ => b.Settled) (Scene.joinResult k) w := by
  unfold Scene.joinResult
  refine Obeys.map (.block (fun v w' hv => ?_) (fun v w' hv => ?_) (fun _ => hs)
    (fun _ _ _ t ht _ => by simp at ht) (fun w₁ _ _ _ v w' hv => ?_)
    (fun w₁ hs₁ _ _ v w' hv => ?_))
  · rw [joinResult_ready hv]
    exact b.contract.guar_refl 0 w
  · rw [joinResult_ready hv]
    exact .pure hs
  · rw [joinResult_ready hv]
    exact b.contract.guar_refl 0 w₁
  · rw [joinResult_ready hv]
    exact .pure hs₁

/-- A server command on a connection changes only what the connection holds: it is quiet. -/
theorem onConn_obeys {conn : Option Nat} {f : SocketServer → Nat → SocketServer}
    (hs : b.Settled w) (hf : ∀ so c, (f so c).attempts = so.attempts) :
    b.contract.Obeys 0 [] (fun _ => b.Settled) (WorldCommand.onConn conn f) w := by
  unfold WorldCommand.onConn
  refine update_quiet hs fun w₀ => ?_
  split
  · exact ⟨Apart.aside rfl rfl rfl rfl rfl (by rw [hf]), hf _ _⟩
  · exact ⟨Apart.refl w₀, rfl⟩

/-- Commands to the world around the client are quiet, or a sleep. -/
theorem worldCommand_obeys (c : WorldCommand) (hs : b.Settled w) :
    b.contract.Obeys 0 [] (fun _ => b.Settled) c.run w := by
  cases c with
  | advance ms => exact Obeys.sleep_bind hs (.pure hs) fun _ h => .pure h.1
  | push raw conn =>
    exact onConn_obeys (f := fun so c => so.signal c (.frame raw)) hs fun _ _ => rfl
  | serverClose code reason conn =>
    exact onConn_obeys (f := fun so c => so.signal c (.closed code reason)) hs fun _ _ => rfl
  | serverError message conn =>
    exact onConn_obeys (f := fun so c => so.signal c (.error message)) hs fun _ _ => rfl
  | serverHangup conn => exact onConn_obeys (f := fun so c => so.hangUp c) hs fun _ _ => rfl
  | refuse on =>
    exact modify_quiet_bind hs (fun w₀ => ⟨Apart.aside rfl rfl rfl rfl rfl (List.prefix_refl _),
      rfl⟩) fun _ h => .pure h
  | route r => exact modify_quiet_bind hs (fun w₀ => ⟨Apart.route w₀ r, rfl⟩) fun _ h => .pure h
  | storeGet key => exact .step (b.contract.guar_refl 0 w) (.pure hs)

/-- Every command of a buyer's sends keeps the contract as the main process. -/
theorem sessionAct_obeys (sc : Scene) {cmd : SessionCommand} (hc : cmd.buys = true)
    (hs : b.Settled w) : b.contract.Obeys 0 [] (fun _ => b.Settled) (sc.sessionAct cmd).1 w := by
  cases cmd with
  | send text spawn =>
    cases spawn
    · cases hc
    · exact operate_send_obeys hs text
  | actor => exact Obeys.map ((actor_obeys hs).weaken fun _ _ h => h.2 ▸ hs)
  | join => exact joinResult_obeys hs _
  | world c => exact worldCommand_obeys c hs
  | openListing | openExisting | inputChanged | close => cases hc

end Buying

/-! ## Every schedule of a buyer's commands -/

/-- The runs that follow `r` under a buyer's commands and some schedule: the scheduler takes its
steps in any order, and the next command's process starts as the main one wherever the run
stands, the one before it left where it was. -/
inductive Run.BuyerSteps (r : Run World Json) : Run World Json → Prop
  | refl : BuyerSteps r r
  | interleave {r₁ r₂ : Run World Json} : BuyerSteps r r₁ → Run.Interleaves r₁ r₂ → BuyerSteps r r₂
  | next {r₁ : Run World Json} (cmd : SessionCommand) (joined : Nat) : cmd.buys = true →
      BuyerSteps r r₁ →
      BuyerSteps r
        { pool := r₁.pool
          main := (({ pool := r₁.pool, joined } : Scene).sessionAct cmd).1
          mainWoken := true }

/-- A scene running a buyer's commands takes one of the schedules: after each command, its pool
is that of a run the command's process leads to, polled as the scheduler polls it. -/
theorem Run.BuyerSteps.sessionRun {r₀ r : Run World Json} (h : r₀.BuyerSteps r) {sc : Scene}
    (hp : r.pool = sc.pool) {cmds : List SessionCommand} (hc : ∀ c ∈ cmds, c.buys = true) :
    ∃ r', r₀.BuyerSteps r' ∧ r'.pool = (sc.sessionRun cmds).pool := by
  induction cmds generalizing sc r with
  | nil => exact ⟨r, h, hp⟩
  | cons cmd cmds ih =>
    obtain ⟨pool, joined⟩ := sc
    subst hp
    -- the command starts as the main process, and the scheduler drives it
    have hrun := (h.next cmd joined (hc cmd List.mem_cons_self)).interleave
      (Run.Interleaves.drive Pool.roundFuel _)
    exact ih hrun (Scene.sessionStep_pool _ cmd).symm fun c hc' => hc c (List.mem_cons_of_mem _ hc')

namespace Buying

variable {b : Buying} {w : World}

/-- **Every schedule keeps the contract.** Along the runs of a buyer's commands, under any
schedule, the run stays kept, and each world is a step of the contract away from the first. -/
theorem BuyerSteps.keeps {r r' : Run World Json} (h : r.BuyerSteps r')
    (hk : b.contract.RunKept (fun _ => b.Settled) r) :
    b.contract.RunKept (fun _ => b.Settled) r' ∧ b.Step r.pool.state r'.pool.state := by
  induction h with
  | refl => exact ⟨hk, Step.refl _⟩
  | interleave _ hr ih =>
    obtain ⟨hk₁, hstep₁⟩ := ih
    obtain ⟨hk₂, hstep₂⟩ := RunKept.interleaves (fun _ _ h => h) hr hk₁
    exact ⟨hk₂, hstep₁.trans hstep₂⟩
  | next cmd joined hc _ ih =>
    obtain ⟨hk₁, hstep₁⟩ := ih
    -- the next command is a new main process, kept from the first poll on
    exact ⟨⟨hk₁.settled, hk₁.parked,
      MainKept.of_obeys hk₁.settled fun _ hs₁ _ => sessionAct_obeys _ hc hs₁, hk₁.numbered,
      hk₁.fresh⟩, hstep₁⟩

/-- A lifetime an open of the listing has left waiting for its first message: its token is
live, its listing, seller and actor are bound, no chat is attached, the conversation lock is
free, and the marks are taken on the logs as they are. -/
structure Starts (b : Buying) (w : World) : Prop where
  hasSession : w.sessions ≠ []
  lifetime : (w.session 0).lifetime = some b.tok
  live : w.isCancelled b.tok = false
  target : ∃ t, (w.session 0).target = some t ∧ t.listingId = some b.listingId ∧
    t.sellerId = some b.sellerId
  chat : (w.session 0).chatId = none
  actor : (w.session 0).actor.value = some b.actor
  lock : (w.session 0).creating = {}
  marks : b.marks = Marks.of w

theorem Starts.creates (h : b.Starts w) : b.marks.creates w = 0 := by
  simp [Marks.creates, h.marks, Marks.of]

theorem Starts.failures (h : b.Starts w) : b.marks.failures w = 0 := by
  simp [Marks.failures, h.marks, Marks.of]

theorem Starts.settled (h : b.Starts w) : b.Settled w where
  hasSession := h.hasSession
  lifetime := h.lifetime
  live := h.live
  target := h.target
  actor := h.actor
  requests r hr := by simp [h.marks, Marks.of] at hr
  counted _ := by simp [h.creates, h.failures]
  unsent _ := h.creates
  attached hc := absurd h.chat hc
  held hC := by simp [h.creates, h.failures] at hC
  unlinked _ := by rw [h.marks]; rfl
  logMarked := by rw [h.marks]; exact Nat.le_refl _
  eventsMarked := by rw [h.marks]; exact Nat.le_refl _

/-- A pool with no task where the lifetime starts, with nothing run yet as the main process. -/
theorem Starts.runKept {p : Pool World} (h : b.Starts p.state) (htasks : p.tasks = [])
    (hnext : 0 < p.nextTask) :
    b.contract.RunKept (fun _ => b.Settled) { pool := p, main := .pure Json.null } where
  settled := h.settled
  parked t ht := by simp [htasks] at ht
  main := MainKept.of_obeys h.settled fun _ hs _ => .pure hs
  numbered := ⟨hnext, by simp [htasks], by simp [htasks]⟩
  fresh j _ := by
    show j ∉ p.state.lockIds
    simp [World.lockIds, FairLock.ids, h.lock]

/-- What a buyer's run keeps at a point `w₂` of a lifetime that started at `w₀`, later than a
point `w₁`. -/
structure CreationsKept (b : Buying) (w₀ w₁ w₂ : World) : Prop where
  /-- Every creation since the start is the lifetime's. -/
  theirs : ∀ r ∈ w₂.backend.log.drop w₀.backend.log.length, r.creates = true →
    IsCreateOf w₂.config b.request r
  /-- At most one creation is on its way: sent, neither reported failed nor attached. -/
  onItsWay : b.marks.creates w₂ ≤ b.marks.failures w₂ + 1
  /-- One on its way is the lock holder's. -/
  held : b.marks.creates w₂ = b.marks.failures w₂ + 1 → (w₂.session 0).chatId = none →
    (w₂.session 0).creating.holder ≠ none
  /-- An attached chat came from the one creation that got through. -/
  attached : (w₂.session 0).chatId ≠ none → b.marks.creates w₂ = b.marks.failures w₂ + 1
  /-- Once attached at `w₁` the chat stays, and no creation is sent or reported failed after
  it. -/
  stays : (w₁.session 0).chatId ≠ none → (w₂.session 0).chatId = (w₁.session 0).chatId ∧
    b.marks.creates w₂ = b.marks.creates w₁ ∧ b.marks.failures w₂ = b.marks.failures w₁
  /-- No connection is tried while no chat is attached. -/
  unlinked : (w₂.session 0).chatId = none →
    w₂.sockets.attempts.length = w₀.sockets.attempts.length

/-- **One creation at a time, and none after the attach.** From a lifetime waiting for its
first message, along every schedule of a buyer's commands, every later point `r₂` of a point
`r₁` keeps `CreationsKept`. -/
theorem creations_one_at_a_time {p₀ : Pool World} (hstart : b.Starts p₀.state)
    (htasks : p₀.tasks = []) (hnext : 0 < p₀.nextTask) {r₁ r₂ : Run World Json}
    (h₁ : Run.BuyerSteps { pool := p₀, main := .pure Json.null } r₁) (h₂ : r₁.BuyerSteps r₂) :
    b.CreationsKept p₀.state r₁.pool.state r₂.pool.state := by
  obtain ⟨hk₁, -⟩ := BuyerSteps.keeps h₁ (hstart.runKept htasks hnext)
  obtain ⟨hk₂, hstep⟩ := BuyerSteps.keeps h₂ hk₁
  have hs : b.Settled r₂.pool.state := hk₂.settled
  have hmarks : b.marks = Marks.of p₀.state := hstart.marks
  refine ⟨fun r hr hc => hs.requests r (by rwa [hmarks]) hc, ?_, hs.held,
    fun hc => (hs.attached hc).2, hstep.attached, fun hc => ?_⟩
  · -- at most one on its way: sent and unresolved, or none sent at all
    by_cases hreach : r₂.pool.state.CreatesReach
    · exact (hs.counted hreach).2
    · rw [hs.unsent hreach]
      exact Nat.zero_le _
  · rw [hs.unlinked hc, hmarks]
    rfl

end Buying

end MarketChat
