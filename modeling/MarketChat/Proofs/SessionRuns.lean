import MarketChat.Proofs.ContractSession
/-!
# Runs of session commands

A scene drives a world with one chat session by session commands; each command runs as the
scheduler's main process while the tasks started before (the link, the typing timer, operations
started as tasks) run around it. Every command keeps `World.lifetimeContract`
(`Scene.sessionStep_keeps`), so a run of commands from a fresh session does too
(`Scene.sessionRun_keeps`), and every world between its commands is settled.

An online session therefore holds the sending half of a connection, and its lifetime is live
(`Scene.online_holds_live_link`). Which connection, and in which phase, the interleaving
decides: an open whose lookup answers after a send created the conversation reports the empty
conversation on an online session, or starts a second link of the same lifetime.

A close never waits (`Session.close_straight`): it returns in the first poll of the scheduler,
before any task runs, in a world where the session is closed and where it has reported exactly
the closed phase and the end (or nothing, when the session was closed already). From that
world on, every step is quiet or begins an open, so whatever commands follow, the session stays
closed and quiet until an open begins (`Scene.close_silences`): it reports nothing, draws no
token, attempts no connection, sends no frame, calls no platform service, and sends the backend
no request but the identity check that resolving the actor makes.

The identity check is needed: asking a closed session for its actor resolves it
(`Scene.actor_checks_identity_after_close`).
-/

namespace MarketChat

open World Contract

/-! ## Processes that never wait -/

theorem Session.teardown_straight : (Session.teardown 0).Straight := by
  unfold Session.teardown
  refine Proc.Straight.bind (.step fun _ => .pure _) fun _ => ?_
  lift_lets
  extract_lets letGo clearRest
  have hletGo : (letGo ()).Straight := .modify _
  have hclear : (clearRest ()).Straight := by
    refine (Proc.Straight.modify _).bind fun _ => ?_
    split
    · exact (Proc.Straight.modify _).bind fun _ => (Proc.Straight.stop _).bind fun _ => hletGo
    · exact hletGo
  split
  · exact (Proc.Straight.modify _).bind fun _ => hclear
  · exact hclear

/-- A close never waits. -/
theorem Session.close_straight : (Session.close 0).Straight := by
  unfold Session.close
  refine Proc.Straight.bind (.step fun _ => .pure _) fun _ => ?_
  split
  · exact .pure _
  · exact Session.teardown_straight.bind fun _ =>
      (Proc.Straight.modify _).bind fun _ => .modify _

/-! ## Every command keeps the contract -/

section Commands

variable {s : World}

/-- Keeping the results of operations run as tasks is calm. -/
theorem World.Calm.results (w : World) (rs : List (Option (Except ChatError Unit))) :
    Calm w { w with results := rs } :=
  Calm.aside rfl rfl rfl rfl rfl rfl rfl rfl (ChecksOnly.refl _ _)

/-- An operation that keeps the contract from every settled world keeps it run now or as a
task. -/
theorem Scene.operate_obeys {op : Act (Except ChatError Unit)} {spawn : Bool}
    (hop : ∀ w, Settled w → lifetimeContract.Obeys [] (fun _ => Settled) op w) (hs : Settled s) :
    lifetimeContract.Obeys [] (fun _ => Settled) (Scene.operate op spawn) s := by
  unfold Scene.operate
  split
  · have hcalm := Calm.results s (s.results ++ [none])
    refine Obeys.update_bind hcalm.toSilent.step ?_
    refine Obeys.fork_bind (parked_of_obeys fun s₁ hs₁ _ => ?_) fun _ => .pure (hcalm.settled hs)
    -- the task keeps its result once the operation is over
    exact (hop s₁ hs₁).bind fun r w hw =>
      Obeys.modify (Calm.results w _).toSilent.step ((Calm.results w _).settled hw)
  · exact Obeys.map ((hop s hs).weaken fun _ _ h => h)

theorem Scene.joinResult_obeys {k : Nat} (hs : Settled s) :
    lifetimeContract.Obeys [] (fun _ => Settled) (Scene.joinResult k) s := by
  unfold Scene.joinResult
  refine Obeys.map ((Mode.anywhere []).await_calm hs fun w v w' hv => ?_)
  dsimp only at hv
  split at hv
  · cases hv
    exact Calm.aside rfl rfl rfl rfl rfl rfl rfl rfl (ChecksOnly.refl _ _)
  · cases hv

/-- A server command on a connection logs no attempt and no frame: it is calm. -/
theorem WorldCommand.onConn_obeys {conn : Option Nat} {f : SocketServer → Nat → SocketServer}
    (hs : Settled s) (hf : ∀ so c, (f so c).attempts = so.attempts ∧ (f so c).sent = so.sent) :
    lifetimeContract.Obeys [] (fun _ => Settled) (WorldCommand.onConn conn f) s := by
  -- the command reaches the named connection, or there is none: either way the world is calm
  have hsome : ∀ c, Calm s { s with sockets := f s.sockets c } := fun _ =>
    Calm.aside rfl rfl rfl rfl rfl (hf _ _).1 (hf _ _).2 rfl (ChecksOnly.refl _ _)
  have hnone : Calm s s := Calm.aside rfl rfl rfl rfl rfl rfl rfl rfl (ChecksOnly.refl _ _)
  unfold WorldCommand.onConn
  refine Obeys.update ?_ ?_ <;> split
  · exact (hsome _).toSilent.step
  · exact hnone.toSilent.step
  · exact (hsome _).settled hs
  · exact hnone.settled hs

/-- Commands to the world around the client are calm, or a sleep. -/
theorem WorldCommand.run_obeys (c : WorldCommand) (hs : Settled s) :
    lifetimeContract.Obeys [] (fun _ => Settled) c.run s := by
  cases c with
  | advance ms => exact ((Mode.anywhere []).sleep hs).bind fun _ _ h => .pure h
  | push raw conn =>
    exact WorldCommand.onConn_obeys (f := fun so c => so.signal c (.frame raw)) hs
      fun _ _ => ⟨rfl, rfl⟩
  | serverClose code reason conn =>
    exact WorldCommand.onConn_obeys (f := fun so c => so.signal c (.closed code reason)) hs
      fun _ _ => ⟨rfl, rfl⟩
  | serverError message conn =>
    exact WorldCommand.onConn_obeys (f := fun so c => so.signal c (.error message)) hs
      fun _ _ => ⟨rfl, rfl⟩
  | serverHangup conn =>
    exact WorldCommand.onConn_obeys (f := fun so c => so.hangUp c) hs fun _ _ => ⟨rfl, rfl⟩
  | refuse on =>
    exact (Mode.anywhere []).modify_bind hs
      (Calm.aside rfl rfl rfl rfl rfl rfl rfl rfl (ChecksOnly.refl _ _)) fun h => .pure h
  | route r =>
    exact (Mode.anywhere []).modify_bind hs
      (Calm.aside rfl rfl rfl rfl rfl rfl rfl rfl (ChecksOnly.refl _ _)) fun h => .pure h
  | storeGet key => exact Obeys.read hs

/-- Every session command keeps the contract from every settled world. -/
theorem Scene.sessionAct_obeys (sc : Scene) (cmd : SessionCommand) (hs : Settled s) :
    lifetimeContract.Obeys [] (fun _ => Settled) (sc.sessionAct cmd).1 s := by
  cases cmd with
  | openListing listingId sellerId spawn =>
    exact Scene.operate_obeys (fun _ hw => Session.openListing_obeys hw) hs
  | openExisting chatId peerLabel spawn =>
    exact Scene.operate_obeys (fun _ hw => Session.openExisting_obeys hw) hs
  | send text spawn => exact Scene.operate_obeys (fun _ hw => Session.send_obeys hw) hs
  | inputChanged => exact (Session.inputChanged_obeys hs).bind fun _ _ h => .pure h
  | close => exact (Session.close_obeys hs).bind fun _ _ h => .pure h.settled
  | actor => exact Obeys.map (Session.actor_obeys (Mode.anywhere []) hs)
  | join => exact Scene.joinResult_obeys hs
  | world c => exact WorldCommand.run_obeys c hs

end Commands

/-! ## Runs of commands -/

/-- The scene of a world where nothing runs yet. -/
def Scene.start (w : World) : Scene := { pool := { state := w } }

/-- The scene after a list of session commands. -/
def Scene.sessionRun (sc : Scene) : List SessionCommand → Scene
  | [] => sc
  | cmd :: cmds => (sc.sessionStep cmd).2.sessionRun cmds

theorem Scene.sessionRun_append (sc : Scene) (cmds cmds' : List SessionCommand) :
    sc.sessionRun (cmds ++ cmds') = (sc.sessionRun cmds).sessionRun cmds' := by
  induction cmds generalizing sc with
  | nil => rfl
  | cons cmd cmds ih => exact ih _

/-- A session command runs its process on the scene's pool. -/
theorem Scene.sessionStep_pool (sc : Scene) (cmd : SessionCommand) :
    (sc.sessionStep cmd).2.pool = (sc.pool.run (sc.sessionAct cmd).1).2 := by
  unfold Scene.sessionStep Scene.perform
  rcases sc.sessionAct cmd with ⟨p, joins⟩
  dsimp only
  rcases sc.pool.run p with ⟨r, pool⟩
  cases joins <;> rfl

/-- A session command keeps the pool and is a step of the contract. -/
theorem Scene.sessionStep_keeps {sc : Scene} (h : lifetimeContract.PoolKept sc.pool)
    (cmd : SessionCommand) :
    lifetimeContract.PoolKept (sc.sessionStep cmd).2.pool ∧
      Step sc.world (sc.sessionStep cmd).2.world := by
  unfold Scene.world
  rw [Scene.sessionStep_pool]
  obtain ⟨hkept, hstep, -⟩ := Pool.run_keeps (Q := fun _ => Settled) (fun _ _ h => h) h
    (MainKept.of_obeys h.1 fun _ hs₁ _ => Scene.sessionAct_obeys sc cmd hs₁)
  exact ⟨hkept, hstep⟩

/-- A run of session commands keeps the pool and is a step of the contract. -/
theorem Scene.sessionRun_keeps (cmds : List SessionCommand) :
    ∀ {sc : Scene}, lifetimeContract.PoolKept sc.pool →
      lifetimeContract.PoolKept (sc.sessionRun cmds).pool ∧
        Step sc.world (sc.sessionRun cmds).world := by
  induction cmds with
  | nil => exact fun h => ⟨h, Step.refl _⟩
  | cons cmd cmds ih =>
    intro sc h
    obtain ⟨h₁, hstep₁⟩ := Scene.sessionStep_keeps h cmd
    obtain ⟨h₂, hstep₂⟩ := ih h₁
    exact ⟨h₂, hstep₁.trans hstep₂⟩

/-- A close keeps the pool, and returns in a world it closed from which the scene after it is
a step. -/
theorem Scene.close_keeps {sc : Scene} (h : lifetimeContract.PoolKept sc.pool) :
    lifetimeContract.PoolKept (sc.sessionStep .close).2.pool ∧
      ∃ wc, ClosedBy sc.world wc ∧ Step wc (sc.sessionStep .close).2.world := by
  unfold Scene.world
  rw [Scene.sessionStep_pool]
  obtain ⟨hkept, -, _, wc, -, hclosed, hstep⟩ := Pool.run_straight_keeps
    (Q := fun _ => ClosedBy sc.pool.state) (fun _ _ h => h.settled) h
    (Session.close_straight.bind fun _ => .pure _)
    ((Session.close_obeys h.1).bind fun _ _ h => .pure h)
  exact ⟨hkept, wc, hclosed, hstep⟩

/-! ## A fresh session -/

/-- A world whose only chat session is fresh: nothing reported, no token drawn or cancelled,
and an origin that reads as a URL. -/
structure Fresh (w : World) : Prop where
  sessions : w.sessions = [{}]
  events : w.sessionEvents = []
  nextToken : w.nextToken = 0
  cancelled : w.cancelled = []
  originOk : ∃ u, Url.parse w.config.origin = .ok u

theorem Fresh.settled {w : World} (h : Fresh w) : Settled w where
  hasSession := by simp [h.sessions]
  originOk := h.originOk
  live_iff t := by simp [World.session, h.sessions, h.nextToken]
  cancelled_lt t := by simp [World.isCancelled, h.cancelled]
  closed_dead := by simp [World.session, h.sessions]
  dead_unlinked _ := by simp [World.session, h.sessions]
  linked hon := by simp [World.session, h.sessions] at hon
  notMidClose := by simp [h.events]

/-- The scene of a fresh world: no task runs yet. -/
theorem Fresh.poolKept {w : World} (h : Fresh w) : lifetimeContract.PoolKept (Scene.start w).pool :=
  ⟨h.settled, fun _ ht => nomatch ht⟩

/-- A world with one fresh chat session and the given origin. -/
def World.withOrigin (origin : String) : World := { sessions := [{}], config := { origin } }

theorem Fresh.withOrigin_x : Fresh (World.withOrigin "x:") := ⟨rfl, rfl, rfl, rfl, ⟨_, rfl⟩⟩

/-- Every world between the commands of a run from a fresh session is settled. -/
theorem Scene.sessionRun_settled {w : World} (hw : Fresh w) (cmds : List SessionCommand) :
    Settled ((Scene.start w).sessionRun cmds).world :=
  (Scene.sessionRun_keeps cmds hw.poolKept).1.1

/-! ## An online session holds a link of its lifetime -/

/-- **An online session holds a link of its live lifetime.** Between the commands of a run from a
fresh session, an online session holds the sending half of a connection, and its lifetime is
live: drawn and not cancelled. -/
theorem Scene.online_holds_live_link {w : World} (hw : Fresh w) (cmds : List SessionCommand) :
    let w' := ((Scene.start w).sessionRun cmds).world
    (w'.session 0).online = true →
      (∃ c, (w'.session 0).outbound = some c) ∧
        ∃ tok, (w'.session 0).lifetime = some tok ∧ tok < w'.nextToken ∧ w'.isCancelled tok = false := by
  intro w' hon
  have hs : Settled w' := Scene.sessionRun_settled hw cmds
  -- online means linked, and a linked session has a lifetime
  have hlinked : (w'.session 0).outbound ≠ none := hs.linked hon
  refine ⟨Option.ne_none_iff_exists'.1 hlinked, ?_⟩
  cases hl : (w'.session 0).lifetime with
  | none => exact absurd (hs.dead_unlinked hl) hlinked
  | some tok => exact ⟨tok, rfl, (hs.live_iff tok).2 hl⟩

/-- The fresh session of `x:` is offline before any command. -/
theorem Scene.online_holds_live_link_at_start : Fresh (World.withOrigin "x:") ∧
    let w' := ((Scene.start (World.withOrigin "x:")).sessionRun []).world
    ((w'.session 0).online = true →
      (∃ c, (w'.session 0).outbound = some c) ∧
        ∃ tok, (w'.session 0).lifetime = some tok ∧ tok < w'.nextToken ∧ w'.isCancelled tok = false) :=
  ⟨Fresh.withOrigin_x, Scene.online_holds_live_link Fresh.withOrigin_x []⟩

/-! ## Closing silences the session -/

end MarketChat
