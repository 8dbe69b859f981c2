import MarketChat.Proofs.AloneRuns
import MarketChat.Proofs.Reconnection
import MarketChat.Sim.Services
import Mathlib
/-!
# Remembering the signed-in actor

Identity calls made one at a time, with nothing else running, against a backend they reach
and at an address of `/auth/me` that reads as a URL (`Scene.Resolvable`):

* a resolution answers a registered actor remembered less than the configured lifetime ago
  (`Identity.Recalls`), and sends nothing;
* otherwise it sends the identity check (`Identity.check`: `GET /auth/me` with credentials)
  once. An answer that names a user (`Identity.Names`: a success whose body reads as a JSON
  value whose `id` is a number, named by its JSON text, or a non-empty string) gives that
  registered actor, remembered from when the answer came; any other answer gives the anonymous
  visitor, with the anonymous id, and what is remembered stays as it was;
* forgetting drops the remembered actor; waiting moves the clock, and a new route changes the
  backend's answers; the other commands leave what is remembered alone.

Each command runs on its own to its end (`Proc.Alone`, `Pool.run_alone`), so one step of the
identity world is a step of `Identity.Step`, and `Scene.identity_calls_follow` shows every run
of commands is made of such steps. What is remembered is therefore exactly what the last
resolution that got a name from the backend remembered, unless forgotten since.

An address that does not read as a URL makes the check fail before it is sent: a resolution
with nothing remembered then sends nothing (`Scene.resolve_sends_nothing_without_address`).

Main definitions: `Identity.Names`, `Identity.Recalls`, `Identity.Resolves`, `Identity.Step`,
`Identity.Follows`.
-/

namespace MarketChat

/-! ## Requests and waits on their own -/

/-- The world once the backend's answer to `req` has come: the exchange made, and the clock past
the route's delay. -/
def World.answered (w : World) (req : HttpRequest) : World :=
  { w.exchanged req with now := w.now + (w.backend.exchange req).2.1 }

/-- A reachable backend logs every request it receives. -/
theorem Backend.exchange_log_of_reachable {b : Backend} (h : b.reachable = true)
    (req : HttpRequest) : (b.exchange req).1.log = b.log ++ [req] := by
  simp only [Backend.exchange, h, Bool.not_true, Bool.false_eq_true, if_false]
  split
  · rfl
  · split <;> rfl

/-- Exchanges do not change whether the backend is reached. -/
theorem Backend.exchange_reachable (b : Backend) (req : HttpRequest) :
    (b.exchange req).1.reachable = b.reachable := by
  simp only [Backend.exchange]
  split
  · rfl
  · split
    · rfl
    · split <;> rfl

/-- Waiting on its own moves the clock by the wait, in one round when the wait is positive. -/
theorem Proc.sleep_alone (w : World) (ms : Nat) :
    Proc.Alone (Proc.sleep ms) w (if 0 < ms then 1 else 0) () { w with now := w.now + ms } := by
  cases ms with
  | zero => exact .step (.ready (by simp [Runtime.now]) .pure)
  | succ ms =>
    have hmax : max (w.now + (ms + 1)) w.now = w.now + (ms + 1) := by omega
    refine .step (.timed (d := w.now + (ms + 1)) ?_ rfl (by simp) ?_ .pure)
    · simp [Runtime.now]
    · simp [Proc.atDeadline, Runtime.now, Runtime.setNow, hmax]

/-- A request on its own: sent by one step, answered after the route's delay. -/
theorem Api.execute_alone (w : World) (req : HttpRequest) :
    Proc.Alone (Api.execute req) w (if 0 < (w.backend.exchange req).2.1 then 1 else 0)
      (w.backend.exchange req).2.2 (w.answered req) := by
  rw [Api.execute_eq]
  refine .step ?_
  simp only [Proc.bind]
  by_cases hpos : 0 < (w.backend.exchange req).2.1
  · have h := (Proc.sleep_alone (w.exchanged req) (w.backend.exchange req).2.1).bind
      (f := fun _ => (pure (w.backend.exchange req).2.2 : Act _)) .pure
    simp only [hpos, if_true, Nat.add_zero] at h ⊢
    exact h
  · have hzero : (w.backend.exchange req).2.1 = 0 := by omega
    simp only [hpos, if_false]
    rw [World.answered, hzero]
    exact .pure

/-! ## The identity check -/

namespace Identity

/-- The identity check sent to `url`. -/
def check (url : String) : HttpRequest := { method := .get, url, credentials := true }

/-- The answer to the identity check names the user `uid`: a success whose body reads as a
JSON value whose `id` is a number, named by its JSON text, or a non-empty string. -/
inductive Names : Except HttpError HttpResponse → String → Prop
  | number {resp : HttpResponse} {v : Json} {n : JsonNumber} : resp.isSuccess = true →
      Reader.run Reader.value resp.body = .ok v → v.member? "id" = some (.num n) →
      Names (.ok resp) n.text
  | text {resp : HttpResponse} {v : Json} {s : String} : resp.isSuccess = true →
      Reader.run Reader.value resp.body = .ok v → v.member? "id" = some (.str s) → s ≠ "" →
      Names (.ok resp) s

/-- An answer names a user exactly when it reads, as the check reads it, as a body with a
registered id. -/
theorem names_iff {answer : Except HttpError HttpResponse} {uid : String} (url : String) :
    Names answer uid ↔ ∃ body, (answer >>= fun resp => resp.decodeOnSuccess url Reader.value) =
      .ok body ∧ registeredId body = some uid := by
  constructor
  · intro h
    cases h with
    | @number resp v n hs hv hid =>
      exact ⟨v, by simp [Bind.bind, Except.bind, HttpResponse.decodeOnSuccess,
        HttpResponse.ensureSuccess, HttpResponse.decode, hs, hv], by simp [registeredId, hid]⟩
    | @text resp v s hs hv hid hne =>
      exact ⟨v, by simp [Bind.bind, Except.bind, HttpResponse.decodeOnSuccess,
        HttpResponse.ensureSuccess, HttpResponse.decode, hs, hv],
        by simp [registeredId, hid, String.isEmpty_iff, hne]⟩
  · rintro ⟨body, hbody, hid⟩
    cases answer with
    | error e => cases hbody
    | ok resp =>
      have hs : resp.isSuccess = true := by
        cases hs : resp.isSuccess
        · simp [Bind.bind, Except.bind, HttpResponse.decodeOnSuccess, HttpResponse.ensureSuccess,
            hs] at hbody
        · rfl
      have hv : Reader.run Reader.value resp.body = .ok body := by
        simp only [Bind.bind, Except.bind, HttpResponse.decodeOnSuccess, HttpResponse.ensureSuccess,
          hs, if_true, HttpResponse.decode] at hbody
        split at hbody <;> simp_all
      unfold registeredId at hid
      split at hid
      · next n hn => cases hid; exact .number hs hv hn
      · next s hn =>
        split at hid
        · cases hid
        · next hne => cases hid; exact .text hs hv hn (by simpa [String.isEmpty_iff] using hne)
      · cases hid

/-- The identity check on its own, at an address that reads as a URL: sent once, its answer
read as a JSON value when it is a success. -/
theorem currentUser_alone {w : World} {url : String}
    (hurl : Api.address w.config "/auth/me" [] = .ok url) :
    Proc.Alone Api.currentUser w (if 0 < (w.backend.exchange (check url)).2.1 then 1 else 0)
      ((w.backend.exchange (check url)).2.2 >>= fun resp => resp.decodeOnSuccess url Reader.value)
      (w.answered (check url)) := by
  unfold Api.currentUser Api.call
  refine .read_bind ?_
  simp only [hurl]
  rw [Api.fetch_zero]
  show Proc.Alone _ w ((if 0 < (w.backend.exchange (check url)).2.1 then 1 else 0) + 0) _ _
  refine (Api.execute_alone w (check url)).bind ?_
  generalize (w.backend.exchange (check url)).2.2 = answer
  cases answer <;> exact .pure

/-- The world remembers the registered actor `a`, resolved less than the configured lifetime
ago. -/
def Recalls (w : World) (a : Actor) : Prop :=
  ∃ t₀, w.identity = some (a, t₀) ∧ w.now - t₀ < w.config.authCacheTtlMs

/-- One resolution of the actor from `w`, with the check's address `url`: the requests it sends,
the actor it gives, and the world after. -/
inductive Resolves (url : String) (w : World) : List HttpRequest → Actor → World → Prop
  /-- A remembered actor is given; nothing is sent and nothing changes. -/
  | recalled {a : Actor} : Recalls w a → Resolves url w [] a w
  /-- Otherwise the check is sent once; an answer naming a user gives that registered actor,
  remembered from when the answer came. -/
  | registered {uid : String} : (∀ a, ¬ Recalls w a) →
      Names (w.backend.exchange (check url)).2.2 uid →
      Resolves url w [check url] ⟨uid, true⟩
        { w.answered (check url) with
          identity := some (⟨uid, true⟩, (w.answered (check url)).now) }
  /-- Any other answer gives the anonymous visitor, with the anonymous id, and what is
  remembered stays. -/
  | anonymous : (∀ a, ¬ Recalls w a) →
      (∀ uid, ¬ Names (w.backend.exchange (check url)).2.2 uid) →
      Resolves url w [check url] ⟨(anonymousIdIn (w.answered (check url))).1, false⟩
        (anonymousIdIn (w.answered (check url))).2

/-- A fresh id is drawn and stored when the store allows: nothing but the store and the count
of drawn UUIDs changes. -/
theorem freshStored_frame (w : World) :
    ∃ st n, (freshStored w).2 = { w with store := st, uuids := n } := by
  unfold freshStored World.freshUuid
  dsimp only
  split
  · exact ⟨_, _, rfl⟩
  · exact ⟨w.store, _, rfl⟩

/-- The anonymous id is read, or drawn and stored: nothing but the store and the count of drawn
UUIDs changes. -/
theorem anonymousIdIn_frame (w : World) :
    ∃ st n, (anonymousIdIn w).2 = { w with store := st, uuids := n } := by
  unfold anonymousIdIn
  split
  · split
    · exact freshStored_frame w
    · exact ⟨w.store, w.uuids, rfl⟩
  · exact freshStored_frame w
  · exact ⟨w.store, _, rfl⟩

/-- Nothing recalled: the resolution finds no fresh actor to give. -/
theorem fresh_ne_some {w : World} (h : ∀ a, ¬ Recalls w a) (a : Actor) :
    (match w.identity with
      | some (a, since) => if w.now - since < w.config.authCacheTtlMs then some a else none
      | none => none) ≠ some a := by
  cases hid : w.identity with
  | none => simp
  | some p =>
    obtain ⟨a', t₀⟩ := p
    have hlt : ¬ w.now - t₀ < w.config.authCacheTtlMs := fun hlt => h a' ⟨t₀, hid, hlt⟩
    simp [hlt]

/-- **One resolution on its own.** At an address that reads as a URL, a resolution runs to its
end, with at most one wait, as `Resolves` says. -/
theorem resolve_alone {w : World} {url : String}
    (hurl : Api.address w.config "/auth/me" [] = .ok url) :
    ∃ n sent a w', n ≤ 1 ∧ Proc.Alone resolve w n a w' ∧ Resolves url w sent a w' := by
  by_cases hrec : ∃ a, Recalls w a
  · obtain ⟨a, t₀, hid, hlt⟩ := hrec
    refine ⟨0, [], a, w, Nat.zero_le _, .read_bind ?_, .recalled ⟨t₀, hid, hlt⟩⟩
    simp only [id, hid, hlt, if_true]
    exact .pure
  · have hnot : ∀ a, ¬ Recalls w a := fun a ha => hrec ⟨a, ha⟩
    have hcheck := currentUser_alone hurl
    have hwait : (if 0 < (w.backend.exchange (check url)).2.1 then 1 else 0) ≤ 1 := by
      split <;> omega
    -- the check is sent; what follows depends on whether its answer names a user
    by_cases hnames : ∃ uid, Names (w.backend.exchange (check url)).2.2 uid
    · obtain ⟨uid, hn⟩ := hnames
      obtain ⟨body, hbody, hid⟩ := (names_iff url).1 hn
      refine ⟨_, _, _, _, hwait, .read_bind ?_, .registered hnot hn⟩
      simp only [id]
      split
      · next _ a heq => exact absurd heq (fresh_ne_some hnot a)
      show Proc.Alone _ w (_ + 0) _ _
      refine hcheck.bind ?_
      simp only [hbody, hid]
      exact .modify_bind .pure
    · have hnone : ∀ uid, ¬ Names (w.backend.exchange (check url)).2.2 uid :=
        fun uid hn => hnames ⟨uid, hn⟩
      refine ⟨_, _, _, _, hwait, .read_bind ?_, .anonymous hnot hnone⟩
      simp only [id]
      split
      · next _ a heq => exact absurd heq (fresh_ne_some hnot a)
      show Proc.Alone _ w (_ + 0) _ _
      refine hcheck.bind ?_
      -- no body with a registered id: the answer gives the anonymous visitor
      cases hbody : ((w.backend.exchange (check url)).2.2 >>= fun resp =>
          resp.decodeOnSuccess url Reader.value) with
      | error e =>
        simp only
        exact .update_bind .pure
      | ok body =>
        cases hid : registeredId body with
        | none =>
          simp only [hid]
          exact .update_bind .pure
        | some uid => exact absurd ((names_iff url).2 ⟨body, hbody, hid⟩) (hnone uid)

/-! ## The identity commands -/

/-- The reply to a resolution, as the identity world gives it: the actor, and the requests the
resolution sent. -/
def actorReply (a : Actor) (sent : List HttpRequest) : Json :=
  .obj [("id", .str a.id), ("is_registered", .bool a.isRegistered),
    ("uuid_v4", .bool (isUuidV4 a.id)), ("requests", .arr (sent.map HttpRequest.toJson))]

/-- One identity command from `w`, with the check's address `url`: its reply and the world
after. A resolution is one of `Resolves`, and sends what it says; forgetting drops the
remembered actor; waiting moves the clock; a route is added to the backend; the anonymous id
is read or drawn; the stored id is looked at. -/
inductive Step (url : String) (w : World) : IdentityCommand → Json → World → Prop
  | resolve {sent : List HttpRequest} {a : Actor} {w' : World} : Resolves url w sent a w' →
      w'.backend.log = w.backend.log ++ sent → Step url w .resolve (actorReply a sent) w'
  | forget {j : Json} : Step url w .forget j { w with identity := none }
  | advance {ms : Nat} {j : Json} : Step url w (.advance ms) j { w with now := w.now + ms }
  | route {r : Route} {j : Json} :
      Step url w (.route r) j { w with backend := w.backend.addRoute r }
  | anonymousId {j : Json} : Step url w .anonymousId j (anonymousIdIn w).2
  | stored {j : Json} : Step url w .stored j w

/-- A resolution changes neither the configuration nor whether the backend is reached. -/
theorem Resolves.keeps {url : String} {w w' : World} {sent : List HttpRequest} {a : Actor}
    (h : Resolves url w sent a w') :
    w'.config = w.config ∧ w'.backend.reachable = w.backend.reachable := by
  cases h with
  | recalled => exact ⟨rfl, rfl⟩
  | registered => exact ⟨rfl, Backend.exchange_reachable _ _⟩
  | anonymous =>
    obtain ⟨st, n, hw⟩ := anonymousIdIn_frame (w.answered (check url))
    rw [hw]
    exact ⟨rfl, Backend.exchange_reachable _ _⟩

/-- A resolution with a reachable backend sends exactly what it says. -/
theorem Resolves.log {url : String} {w w' : World} {sent : List HttpRequest} {a : Actor}
    (h : Resolves url w sent a w') (hr : w.backend.reachable = true) :
    w'.backend.log = w.backend.log ++ sent := by
  cases h with
  | recalled => simp
  | registered => exact Backend.exchange_log_of_reachable hr _
  | anonymous =>
    obtain ⟨st, n, hw⟩ := anonymousIdIn_frame (w.answered (check url))
    rw [hw]
    exact Backend.exchange_log_of_reachable hr _

/-- A step changes neither the configuration nor whether the backend is reached. -/
theorem Step.keeps {url : String} {w w' : World} {c : IdentityCommand} {j : Json}
    (h : Step url w c j w') : w'.config = w.config ∧ w'.backend.reachable = w.backend.reachable := by
  cases h with
  | resolve hr _ => exact hr.keeps
  | anonymousId =>
    obtain ⟨st, n, hw⟩ := anonymousIdIn_frame w
    rw [hw]
    exact ⟨rfl, rfl⟩
  | _ => exact ⟨rfl, rfl⟩

/-- What is remembered changes only by forgetting, which drops it, and by a resolution whose
answer named a user, which remembers that registered actor from the time the step ends. -/
theorem Step.remembered {url : String} {w w' : World} {c : IdentityCommand} {j : Json}
    (h : Step url w c j w') :
    w'.identity = w.identity ∨ (c = .forget ∧ w'.identity = none) ∨
      (c = .resolve ∧ ∃ a : Actor, a.isRegistered = true ∧ w'.identity = some (a, w'.now)) := by
  cases h with
  | resolve hr _ =>
    cases hr with
    | recalled => exact .inl rfl
    | registered => exact .inr (.inr ⟨rfl, _, rfl, rfl⟩)
    | anonymous =>
      obtain ⟨st, n, hw⟩ := anonymousIdIn_frame (w.answered (check url))
      rw [hw]
      exact .inl rfl
  | forget => exact .inr (.inl ⟨rfl, rfl⟩)
  | anonymousId =>
    obtain ⟨st, n, hw⟩ := anonymousIdIn_frame w
    rw [hw]
    exact .inl rfl
  | _ => exact .inl rfl

end Identity

namespace Scene

open Identity

/-- A scene where identity calls run one at a time, with nothing else running, against a
backend they reach, with the identity check's address `url`. -/
structure Resolvable (s : Scene) (url : String) : Prop where
  tasks : s.pool.tasks = []
  queue : s.pool.queue = []
  reachable : s.world.backend.reachable = true
  address : Api.address s.world.config "/auth/me" [] = .ok url

/-- A process that runs on its own from the scene's world, with fewer waits than the scheduler
has rounds, ends in its run's world and leaves no task. -/
theorem perform_alone {α : Type} {s : Scene} {p : Act α} {n : Nat} {a : α} {w' : World}
    (ht : s.pool.tasks = []) (hq : s.pool.queue = []) (hnb : p.isBlocked = false)
    (h : Proc.Alone p s.world n a w') (hn : n < Pool.roundFuel) :
    (s.perform p).1 = some a ∧ (s.perform p).2.world = w' ∧ (s.perform p).2.pool.tasks = [] ∧
      (s.perform p).2.pool.queue = [] := by
  have hrun := Pool.run_alone ht hq hnb h hn
  unfold perform
  generalize s.pool.run p = q at hrun
  obtain ⟨r, pool⟩ := q
  exact hrun

/-- An identity command that runs on its own, with at most one wait: its reply adds the
requests it sent, and no task is left. -/
theorem identityStep_alone {s : Scene} {c : IdentityCommand} {n : Nat} {j : Json} {w' : World}
    (ht : s.pool.tasks = []) (hq : s.pool.queue = []) (h : Proc.Alone (identityAct c) s.world n j w')
    (hn : n ≤ 1) :
    (s.identityStep c).1 = withMembers j [("requests", (Marks.of s.world).requests? w')] ∧
      (s.identityStep c).2.world = w' ∧ (s.identityStep c).2.pool.tasks = [] ∧
      (s.identityStep c).2.pool.queue = [] := by
  have hnb : (identityAct c).isBlocked = false := by cases c <;> rfl
  have hfuel : n < Pool.roundFuel := by unfold Pool.roundFuel; omega
  obtain ⟨h1, h2, h3, h4⟩ := perform_alone ht hq hnb h hfuel
  unfold identityStep
  generalize s.perform (identityAct c) = q at h1 h2 h3 h4
  obtain ⟨r, s'⟩ := q
  simp only at h1 h2 h3 h4 ⊢
  subst h1 h2
  exact ⟨rfl, rfl, h3, h4⟩

/-- **One identity command.** From a resolvable scene, a command runs to its end as a step of
the identity calls, and the scene after is resolvable again. -/
theorem identityStep_follows {s : Scene} {url : String} (hs : s.Resolvable url)
    (c : IdentityCommand) :
    Step url s.world c (s.identityStep c).1 (s.identityStep c).2.world ∧
      (s.identityStep c).2.Resolvable url := by
  -- every command runs on its own; the resolution is the one that may send
  have hrun : ∃ n j w', n ≤ 1 ∧ Proc.Alone (identityAct c) s.world n j w' ∧
      Step url s.world c (withMembers j [("requests", (Marks.of s.world).requests? w')]) w' := by
    cases c with
    | resolve =>
      obtain ⟨n, sent, a, w', hn, halone, hres⟩ := resolve_alone hs.address
      have hlog := hres.log hs.reachable
      refine ⟨n + 0, _, w', hn, halone.bind .pure, ?_⟩
      have hreply : withMembers (.obj [("id", .str a.id), ("is_registered", .bool a.isRegistered),
          ("uuid_v4", .bool (isUuidV4 a.id))]) [("requests", (Marks.of s.world).requests? w')] =
          actorReply a sent := by
        simp [withMembers, Marks.requests?, Marks.of, hlog, actorReply]
      rw [hreply]
      exact .resolve hres hlog
    | forget => exact ⟨0, _, _, Nat.zero_le _, .modify_bind .pure, .forget⟩
    | advance ms =>
      refine ⟨_ + 0, _, _, ?_, (Proc.sleep_alone s.world ms).bind .pure, .advance⟩
      split <;> omega
    | route r => exact ⟨0, _, _, Nat.zero_le _, .modify_bind .pure, .route⟩
    | anonymousId => exact ⟨0, _, _, Nat.zero_le _, .update_bind .pure, .anonymousId⟩
    | stored => exact ⟨0, _, _, Nat.zero_le _, .step .pure, .stored⟩
  obtain ⟨n, j, w', hn, halone, hstep⟩ := hrun
  obtain ⟨h1, h2, h3, h4⟩ := identityStep_alone hs.tasks hs.queue halone hn
  obtain ⟨hcfg, hreach⟩ := hstep.keeps
  refine ⟨h1 ▸ h2 ▸ hstep, h3, h4, ?_, ?_⟩
  · rw [h2, hreach]; exact hs.reachable
  · rw [h2, hcfg]; exact hs.address

end Scene

namespace Identity

/-- Every step of the run of `cmds` from `s`, one command at a time, is a step of the identity
calls. -/
def Follows (url : String) : Scene → List IdentityCommand → Prop
  | _, [] => True
  | s, c :: cs =>
    Step url s.world c (s.identityStep c).1 (s.identityStep c).2.world ∧
      Follows url (s.identityStep c).2 cs

end Identity

/-- **The identity calls remember the signed-in actor.** From a scene where identity calls run
one at a time against a backend they reach, at an address of `/auth/me` that reads as a URL,
every run of identity commands is made of steps of the identity calls: a resolution sends the
check exactly when no registered actor is remembered from less than the lifetime ago, gives the
remembered actor when it sends nothing, and otherwise gives the user the answer names,
remembered from when the answer came, or the anonymous visitor, leaving what is remembered as
it was; only forgetting drops what is remembered. -/
theorem Scene.identity_calls_follow {s : Scene} {url : String} (hs : s.Resolvable url)
    (cmds : List IdentityCommand) : Identity.Follows url s cmds := by
  induction cmds generalizing s with
  | nil => trivial
  | cons c cs ih =>
    obtain ⟨hstep, hs'⟩ := Scene.identityStep_follows hs c
    exact ⟨hstep, ih hs'⟩

/-- A fresh identity world with origin `x:`: resolving, forgetting, waiting and resolving again
are steps of the identity calls. -/
theorem Scene.identity_calls_follow_from_start :
    let s : Scene := { pool := { state := { config := ChatConfig.withOrigin "x:" } } }
    s.Resolvable "x:/api/v1/auth/me" ∧
      Identity.Follows "x:/api/v1/auth/me" s [.resolve, .forget, .advance 1, .resolve] :=
  have hs : Scene.Resolvable { pool := { state := { config := ChatConfig.withOrigin "x:" } } }
      "x:/api/v1/auth/me" := ⟨rfl, rfl, rfl, by cbv⟩
  ⟨hs, Scene.identity_calls_follow hs _⟩

/-- An origin that does not read as a URL: with nothing remembered, a resolution sends no
identity check at all, and gives the anonymous visitor with the stored id, although the
backend would name user 3. -/
theorem Scene.resolve_sends_nothing_without_address :
    let s : Scene := { pool := { state := {
      config := ChatConfig.withOrigin "not a url"
      store := { entries := [(Identity.anonymousKey, "a")] }
      backend := { routes := [{ fragment := "/auth/me", body := "\x7b\"id\":3\x7d" }] } } } }
    s.world.identity = none ∧ (s.perform Identity.resolve).1 = some ⟨"a", false⟩ ∧
      (s.perform Identity.resolve).2.world.backend.log.length = 0 := by
  decide +kernel

end MarketChat
