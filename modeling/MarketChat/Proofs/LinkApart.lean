import MarketChat.Proofs.CreationContract
import MarketChat.Proofs.ContractLink
import MarketChat.Proofs.ActorMemory
/-!
# The link stays apart from creating the conversation

Once a buyer's conversation is attached, what its first send still does (load the history,
start the link and wait for it) and everything the link does (connect, read, report, mark read,
notify, reconnect) sends no creation, reports no failed creation and leaves the session's
lifetime, target, actor and lock alone: each of its steps is `World.Apart`, wherever it runs.

`World.KeepsApart p` says so of a process `p`, for every task number, every guard and every
state it may start in. It is built up from the building blocks of `Proc`, one lemma each, so
the proofs of the session's processes follow their text. `World.KeepsApart.buying` carries it
to the contract of a buyer's lifetime: from a settled state with the chat attached, such a
process keeps the contract and the chat stays attached.

Main statements: `Session.loadHistory_keepsApart`, `Session.startLink_keepsApart`,
`World.KeepsApart.buying`.
-/

namespace MarketChat

open RelyGuarantee

/-! ## Steps apart from the creation -/

namespace World.Apart

/-- Sending anything but a creation is apart: a reachable backend logs it, an unreachable one
logs nothing. -/
theorem exchanged (w : World) {req : HttpRequest} (h : req.creates = false) :
    Apart w (w.exchanged req) where
  sessions := rfl
  lifetime := rfl
  target := rfl
  actor := rfl
  creating := rfl
  cancelled := rfl
  config := rfl
  reachable := Backend.exchange_reachable _ _
  log := by
    rcases Backend.exchange_log w.backend req with hl | hl
    · exact ⟨[], by rw [World.exchanged, hl, List.append_nil], by simp⟩
    · exact ⟨[req], by rw [World.exchanged, hl], by simpa using h⟩
  events := ⟨[], by simp [World.exchanged], by simp⟩
  attempts := List.prefix_refl _

/-- Letting go of a socket's sending half is apart. -/
theorem releaseIn (w : World) (o : Option Nat) : Apart w (Session.releaseIn w o) := by
  cases o with
  | none => exact refl w
  | some c =>
    refine aside rfl rfl rfl rfl rfl ?_
    show w.sockets.attempts <+: (w.sockets.release c).attempts
    unfold SocketServer.release
    split
    · split
      · exact List.prefix_refl _
      · exact List.prefix_refl _
    · exact List.prefix_refl _

theorem setPhase (w : World) (p : SessionPhase) :
    Apart w (if (w.session 0).phase = p then w
      else (w.modifySession 0 fun s => { s with phase := p }).emit 0 (.phaseChanged p)) := by
  split
  · exact refl w
  · exact (modifySession w (fun s => { s with phase := p }) fun _ => ⟨rfl, rfl, rfl, rfl⟩).trans
      (emit _ rfl)

theorem setOnline (w : World) (online : Bool) (outbound : Option Nat) :
    Apart w (let s := w.session 0
      let w := Session.releaseIn w s.outbound
      let w := w.modifySession 0 fun s => { s with outbound, online }
      if s.online ≠ online then w.emit 0 (.connectionChanged online) else w) := by
  have hmod := (releaseIn w (w.session 0).outbound).trans
    (modifySession (Session.releaseIn w (w.session 0).outbound)
      (fun s => { s with outbound, online }) fun _ => ⟨rfl, rfl, rfl, rfl⟩)
  dsimp only
  split
  · exact hmod.trans (emit _ rfl)
  · exact hmod

/-- A step apart keeps cancelled tokens cancelled. -/
theorem cancelled_of {w w' : World} {t : Nat} (h : Apart w w')
    (hc : Runtime.cancelled w t = true) : Runtime.cancelled w' t = true :=
  (h.isCancelled t).trans hc

end World.Apart

/-! ## Processes apart from the creation -/

/-- The contract of processes whose steps are apart from the creation, wherever they run. -/
def World.apartContract : RelyGuarantee World :=
  anywhere World.Apart World.Apart.refl World.Apart.cancelled_of fun h => h

/-- Every step of `p` is apart from the creation, whatever task runs it, under whatever
guards, from whatever state. -/
def World.KeepsApart {α : Type} (p : Act α) : Prop :=
  ∀ me gs s, World.apartContract.Obeys me gs (fun _ _ => True) p s

namespace World.KeepsApart

variable {α β : Type}

theorem pure (a : α) : KeepsApart (Proc.pure a : Act α) :=
  fun _ _ _ => .pure trivial

theorem bind {p : Act α} {k : α → Act β} (hp : KeepsApart p) (hk : ∀ a, KeepsApart (k a)) :
    KeepsApart (p >>= k) :=
  fun me gs s => (hp me gs s).bind fun a s' _ => hk a me gs s'

theorem update {f : World → β × World} (hf : ∀ w, Apart w (f w).2) :
    KeepsApart (Proc.update f) :=
  fun _ _ s => .step (hf s) (.pure trivial)

theorem read (f : World → β) : KeepsApart (Proc.read f) :=
  fun _ _ s => .step (Apart.refl s) (.pure trivial)

theorem modify {f : World → World} (hf : ∀ w, Apart w (f w)) : KeepsApart (Proc.modify f) :=
  fun _ _ s => .step (hf s) (.pure trivial)

/-- A wait whose taking is apart. -/
theorem await {b : Blocker World β} (hb : ∀ w v w', b.ready w = some (v, w') → Apart w w') :
    KeepsApart (Proc.await b) :=
  fun _ _ s => .block (fun v s' hv => hb s v s' hv) (fun _ _ _ => .pure trivial)
    (fun _ => trivial) (fun _ _ _ _ _ hct => .abort hct trivial)
    (fun s₁ _ _ _ v s' hv => hb s₁ v s' hv) fun _ _ _ _ _ _ _ => .pure trivial

theorem sleep (ms : Nat) : KeepsApart (Proc.sleep ms : Act Unit) :=
  (read _).bind fun _ => await fun w v w' hv => by
    simp only [Option.ite_none_right_eq_some, Option.some.injEq, Prod.mk.injEq] at hv
    rw [← hv.2.2]
    exact Apart.refl w

theorem waitUntil {ready : World → Option (β × World)} (limit : Nat)
    (hready : ∀ w v w', ready w = some (v, w') → Apart w w') :
    KeepsApart (Proc.waitUntil ready limit) :=
  (read _).bind fun _ => await fun w v w' hv => by
    dsimp only at hv
    split at hv
    · next v' w'' hr =>
      obtain ⟨-, rfl⟩ := Prod.mk.inj (Option.some.inj hv)
      exact hready w v' w'' hr
    · split at hv
      · cases hv
        exact Apart.refl w
      · cases hv

theorem guarded {p : Act β} (tok : Nat) (h : KeepsApart p) : KeepsApart (Proc.guarded tok p) :=
  fun me gs s => (Obeys.guarded (fun _ => trivial) fun _ => h me (tok :: gs) s).weaken
    fun _ _ _ => trivial

/-- A started task whose steps are apart. -/
theorem fork {t : Act Unit} (ht : KeepsApart t) : KeepsApart (Proc.fork t) := fun _ _ s =>
  have hp : ∀ j, World.apartContract.Parked j (fun _ _ => True) t s := fun j =>
    parked_of_obeys fun s₁ _ _ => ht j [] s₁
  .spawn (fun j _ _ s₁ hs₁ hr p s' hres => (hp j s₁ hs₁ hr p s' hres).1)
    (fun j _ _ s₁ hs₁ hr p s' hres => (hp j s₁ hs₁ hr p s' hres).2) fun _ => .pure trivial

theorem ite {c : Prop} [Decidable c] {p q : Act α} (hp : KeepsApart p) (hq : KeepsApart q) :
    KeepsApart (if c then p else q) := by
  split
  · exact hp
  · exact hq

end World.KeepsApart

open World

/-! ## Reports and the session's connection -/

theorem Session.emit_keepsApart {e : SessionEvent} (he : e.failedCreate = false) :
    KeepsApart (Session.emit 0 e) :=
  KeepsApart.modify fun w => Apart.emit w (by simp [failedCreateOf, he])

theorem Session.setPhase_keepsApart (p : SessionPhase) : KeepsApart (Session.setPhase 0 p) :=
  KeepsApart.modify fun w => Apart.setPhase w p

theorem Session.setOnline_keepsApart (online : Bool) (outbound : Option Nat) :
    KeepsApart (Session.setOnline 0 online outbound) :=
  KeepsApart.modify fun w => Apart.setOnline w online outbound

/-! ## Requests other than the creation -/

theorem Api.execute_keepsApart {req : HttpRequest} (h : req.creates = false) :
    KeepsApart (Api.execute req) := by
  unfold Api.execute
  refine (KeepsApart.update fun w => ?_).bind fun _ => ?_
  · rcases hex : w.backend.exchange req with ⟨b, delay, answer⟩
    have hb : w.exchanged req = { w with backend := b } := by simp [World.exchanged, hex]
    simpa [hex, hb] using Apart.exchanged w h
  · exact .ite ((KeepsApart.sleep _).bind fun _ => .pure _) (.pure _)

theorem Api.fetch_keepsApart {req : HttpRequest} (ttl : Nat) (h : req.creates = false) :
    KeepsApart (Api.fetch req ttl) := by
  unfold Api.fetch
  have hcache : ∀ (w : World) c st, Apart w { w with cache := c, store := st } :=
    fun _ _ _ => Apart.aside rfl rfl rfl rfl rfl (List.prefix_refl _)
  split
  · exact Api.execute_keepsApart h
  · -- a cache read, then the request unless the cache answered, then perhaps a cache write
    refine (KeepsApart.update fun w => hcache w _ _).bind fun v => ?_
    split
    · exact .pure _
    · refine (Api.execute_keepsApart h).bind fun answer => ?_
      have hwrite : ∀ data, KeepsApart
          (Api.cacheSet (cacheKey req.method req.url) data ttl >>= fun _ => pure answer) :=
        fun _ => (KeepsApart.modify fun w => hcache w _ _).bind fun _ => .pure _
      split
      · split
        · split
          · exact hwrite _
          · exact .pure _
        · exact .pure _
      · exact .pure _

theorem Api.call_keepsApart {α : Type} {path : String} {params : List (String × String)}
    {request : String → HttpRequest} {ttl : Nat}
    {answer : String → HttpResponse → Except HttpError α}
    (h : ∀ url, (request url).creates = false) :
    KeepsApart (Api.call path params request ttl answer) := by
  unfold Api.call
  refine (KeepsApart.read _).bind fun c => ?_
  split
  · exact .pure _
  · refine (Api.fetch_keepsApart ttl (h _)).bind fun r => ?_
    split
    · exact .pure _
    · exact .pure _

/-! ## The history -/

theorem Session.loadHistory_keepsApart (chatId : Int) (tok : Nat) (a : Actor) :
    KeepsApart (Session.loadHistory 0 chatId tok a) := by
  unfold Session.loadHistory
  refine (KeepsApart.guarded tok (Api.call_keepsApart fun _ => rfl)).bind fun r => ?_
  cases r with
  | none => exact .pure _
  | some result =>
    refine (Session.emit_keepsApart rfl).bind fun _ => ?_
    exact (KeepsApart.guarded tok (Api.call_keepsApart fun _ => rfl)).bind fun _ => .pure _

/-! ## Connecting and reading -/

theorem Session.connect_keepsApart (url : String) : KeepsApart (Session.connect url) := by
  unfold Session.connect
  have haccept : KeepsApart (Proc.update fun w : World =>
      ((Except.ok (w.sockets.accept url).1 : Except TransportError Nat),
        { w with sockets := (w.sockets.accept url).2 })) :=
    KeepsApart.update fun _ => Apart.aside rfl rfl rfl rfl rfl (List.prefix_refl _)
  refine (KeepsApart.update fun w => ?_).bind fun refused => ?_
  · exact Apart.aside rfl rfl rfl rfl rfl (List.prefix_append _ _)
  refine (KeepsApart.read _).bind fun delay => ?_
  dsimp only
  -- the wait for the server's delay, then the refusal or the connection
  refine .ite ((KeepsApart.sleep _).bind fun _ => ?_) ?_ <;> exact .ite (.pure _) haccept

theorem Session.receive_keepsApart (conn : Nat) : KeepsApart (Session.receive conn) :=
  KeepsApart.await fun w v w' hv => by
    simp only [Option.map_eq_some_iff] at hv
    obtain ⟨⟨sig, so⟩, hso, hv⟩ := hv
    obtain ⟨-, rfl⟩ := Prod.mk.inj hv
    exact Apart.aside rfl rfl rfl rfl rfl (by simp [(SocketServer.receive_logs hso).1])

/-! ## Reports of received frames -/

theorem Session.incoming_keepsApart (chatId : Int) (tok : Nat) (a : Actor) (text : String) :
    KeepsApart (Session.incoming 0 chatId tok a text) := by
  unfold Session.incoming
  have hnotify : ∀ label, KeepsApart (Bridge.notify label text chatId) := fun label =>
    KeepsApart.update fun w => by
      rw [Bridge.notifyIn_platform]
      exact Apart.aside rfl rfl rfl rfl rfl (List.prefix_refl _)
  refine (KeepsApart.fork ((KeepsApart.guarded tok
    (Api.call_keepsApart fun _ => rfl)).bind fun _ => .pure _)).bind fun _ => ?_
  refine (KeepsApart.read _).bind fun notifying => ?_
  split
  · refine (KeepsApart.read _).bind fun s => ?_
    exact (KeepsApart.fork ((KeepsApart.guarded tok (hnotify _)).bind fun _ => .pure _)).bind
      fun _ => .pure _
  · exact .pure _

theorem Session.dispatch_keepsApart (chatId : Int) (tok : Nat) (a : Actor)
    (frame : InboundFrame) : KeepsApart (Session.dispatch 0 chatId tok a frame) := by
  cases frame with
  | message m =>
    refine (Session.emit_keepsApart rfl).bind fun _ => ?_
    exact .ite (Session.incoming_keepsApart chatId tok a _) (.pure _)
  | typing u b => exact .ite (Session.emit_keepsApart rfl) (.pure _)
  | onlineUsers us => exact Session.emit_keepsApart rfl
  | messagesRead n _ => exact Session.emit_keepsApart rfl
  | userDisconnected u => exact Session.emit_keepsApart rfl
  | unknown => exact .pure _

theorem Session.pump_keepsApart (chatId : Int) (tok : Nat) (a : Actor) (conn : Nat)
    (fuel : Nat) : KeepsApart (Session.pump 0 chatId tok a conn fuel) := by
  induction fuel with
  | zero => exact .pure _
  | succ fuel ih =>
    rw [Session.pump]
    refine (KeepsApart.guarded tok (Session.receive_keepsApart conn)).bind fun r => ?_
    cases r with
    | none => exact .pure _
    | some signal =>
      dsimp only
      -- a frame is reported when it decodes, an error takes the session offline
      split
      · split
        · exact (Session.dispatch_keepsApart chatId tok a _).bind fun _ => ih
        · exact ih
      · exact (Session.setOnline_keepsApart _ _).bind fun _ => ih
      · exact .pure _
      · exact .pure _

/-! ## The link -/

/-- The connect–read–reconnect loop: by induction on its rounds. -/
theorem Session.linkLoop_keepsApart (chatId : Int) (tok : Nat) (a : Actor) (url : String)
    (ceiling delay fuel : Nat) : ∀ attempts reconnecting,
      KeepsApart (Session.linkLoop 0 chatId tok a url ceiling delay fuel attempts reconnecting) := by
  induction fuel with
  | zero => exact fun _ _ => .pure _
  | succ fuel ih =>
    intro attempts reconnecting
    rw [Session.linkLoop]
    refine (KeepsApart.guarded tok (Session.connect_keepsApart url)).bind fun r => ?_
    cases r with
    | none => exact .pure _
    | some result =>
      dsimp -zeta only
      lift_lets
      intro after
      -- after an attempt the loop checks the token, then gives up or waits and reconnects
      have hafter : ∀ n, KeepsApart (after n) := by
        intro n
        refine (KeepsApart.read _).bind fun _ => .ite (.pure _) (.ite ?_ ?_)
        · exact (Session.setPhase_keepsApart _).bind fun _ => .pure _
        · refine (Session.setPhase_keepsApart _).bind fun _ => ?_
          refine (KeepsApart.guarded tok (KeepsApart.sleep delay)).bind fun r => ?_
          cases r with
          | none => exact .pure _
          | some _ => exact ih _ _
      cases result with
      | error _ => exact (KeepsApart.pure _).bind hafter
      | ok conn =>
        dsimp only
        refine (KeepsApart.read _).bind fun _ => .ite ?_ ?_
        · exact (KeepsApart.modify fun w => Apart.releaseIn w _).bind fun _ => .pure _
        refine (Session.setOnline_keepsApart _ _).bind fun _ => ?_
        refine (Session.setPhase_keepsApart _).bind fun _ => ?_
        -- the history is reloaded on a reconnection, then the connection is read
        refine .ite ((Session.loadHistory_keepsApart _ _ _).bind fun _ => ?_) ?_
        all_goals
          refine (Session.pump_keepsApart _ _ _ _ _).bind fun _ => ?_
          refine (KeepsApart.read _).bind fun _ => .ite (.pure _) ?_
          exact (Session.setOnline_keepsApart _ _).bind fun _ => (KeepsApart.pure _).bind hafter

theorem Session.link_keepsApart (chatId : Int) (tok : Nat) (a : Actor) :
    KeepsApart (Session.link 0 chatId tok a) := by
  unfold Session.link
  refine (KeepsApart.read _).bind fun c => ?_
  split
  · exact Session.setPhase_keepsApart _
  · exact Session.linkLoop_keepsApart _ _ _ _ _ _ _ _ _

theorem Session.startLink_keepsApart (chatId : Int) (tok : Nat) (a : Actor) :
    KeepsApart (Session.startLink 0 chatId tok a) :=
  (KeepsApart.fork (Session.link_keepsApart chatId tok a)).bind fun _ => .pure _

/-! ## In a buyer's lifetime -/

/-- From a settled state of a buyer's lifetime with the chat attached, a process apart from the
creation keeps the lifetime's contract, and the chat stays attached: the others keep an attached
chat as it is (`Buying.Step.attached`). -/
theorem World.KeepsApart.buying {α : Type} {p : Act α} (h : KeepsApart p) {b : Buying}
    {me : Nat} {gs : List Nat} {w : World} (hs : b.Settled w) (hc : (w.session 0).chatId ≠ none) :
    b.contract.Obeys me gs (fun _ w' => b.Settled w' ∧ (w'.session 0).chatId ≠ none) p w := by
  have hkept : b.contract.Obeys me gs
      (fun a w' => _ ∧ b.contract.settled w' ∧ (w'.session 0).chatId ≠ none) p w :=
    (h me gs w).transfer_on
      (fun j _ _ _ _ hN => Buying.Apart.guar hN j)
      (fun _ _ hs hp hN => ⟨Buying.Apart.settled hs hp hN, hN.chatId ▸ hp⟩)
      (fun _ _ _ hr hp => (hr.1.attached hp).1 ▸ hp) hs hc
  exact hkept.weaken fun _ _ h => h.2

end MarketChat
