import MarketChat.Proofs.ContractClient
/-!
# The socket link keeps the lifetime contract

The link task of a lifetime connects, reads signals, reloads the history and reconnects. Each
of its steps that reports or sends comes right after a guarded wait or a read of its token, so
it is taken while its lifetime is live; everything else it does is calm. Its specification is
stated for a drawn lifetime (`World.Drawn`): wherever it runs, whether or not the lifetime
has ended meanwhile.

The tasks a received message starts (marking the chat read, notifying the user) are guarded by
the same token.

Main statements: `Session.loadHistory_obeys`, `Session.pump_obeys`, `Session.linkLoop_obeys`,
`Session.startLink_obeys`.
-/

namespace MarketChat

open World Contract

/-! ## Steps of a live lifetime -/

section LiveSteps

variable {tok : Nat} {gs : List Nat} {α : Type} {Q : α → World → Prop} {s : World}

theorem World.Live.modify_bind {f : World → World} {k : Unit → Proc World α} (hl : Live tok s)
    (hact : Acting s (f s)) (h : Live tok (f s) → lifetimeContract.Obeys gs Q (k ()) (f s)) :
    lifetimeContract.Obeys gs Q (Proc.modify f >>= k) s :=
  .modify_bind (hact.step hl) (h (hact.live hl))

theorem World.Live.update_bind {β : Type} {f : World → β × World} {k : β → Proc World α}
    (hl : Live tok s) (hact : Acting s (f s).2)
    (h : Live tok (f s).2 → lifetimeContract.Obeys gs Q (k (f s).1) (f s).2) :
    lifetimeContract.Obeys gs Q (Proc.update f >>= k) s :=
  .update_bind (hact.step hl) (h (hact.live hl))

theorem Session.emit_bind {e : SessionEvent} {k : Unit → Proc World α} (hl : Live tok s)
    (he : e ≠ .phaseChanged .closed)
    (h : ∀ s', Live tok s' → lifetimeContract.Obeys gs Q (k ()) s') :
    lifetimeContract.Obeys gs Q (Session.emit 0 e >>= k) s :=
  hl.modify_bind (Acting.emit s he) (h _)

theorem Session.setPhase_bind {p : SessionPhase} {k : Unit → Proc World α} (hl : Live tok s)
    (hp : p ≠ .closed) (h : ∀ s', Live tok s' → lifetimeContract.Obeys gs Q (k ()) s') :
    lifetimeContract.Obeys gs Q (Session.setPhase 0 p >>= k) s :=
  hl.modify_bind (Acting.setPhase s hp) (h _)

/-- Going online with a sending half, or offline, is an action. -/
theorem Session.setOnline_bind {online : Bool} {outbound : Option Nat} {k : Unit → Proc World α}
    (hl : Live tok s) (hon : online = true → outbound ≠ none)
    (h : ∀ s', Live tok s' → lifetimeContract.Obeys gs Q (k ()) s') :
    lifetimeContract.Obeys gs Q (Session.setOnline 0 online outbound >>= k) s :=
  hl.modify_bind (Acting.setOnline s hon) (h _)

/-- Sending a frame on the held socket is an action. -/
theorem Session.sendFrame_bind {frame : String} {k : Bool → Proc World α} (hl : Live tok s)
    (h : ∀ b s', Live tok s' → lifetimeContract.Obeys gs Q (k b) s') :
    lifetimeContract.Obeys gs Q (Session.sendFrame 0 frame >>= k) s := by
  refine hl.update_bind ?_ (h _ _)
  dsimp only
  split
  · exact Acting.aside rfl rfl rfl rfl rfl
  · split <;> exact Acting.aside rfl rfl rfl rfl rfl

end LiveSteps

/-! ## Guarded parts of a lifetime -/

section Guarded

variable {tok : Nat} {gs : List Nat} {s : World}

/-- A guarded part of a lifetime's process: cut short once the lifetime has ended, run while it
is live otherwise. -/
theorem Session.guarded_obeys {β : Type} {p : Proc World β} {Q : β → World → Prop}
    (hs : Drawn tok s)
    (hp : Live tok s → lifetimeContract.Obeys (tok :: gs) Q p s) :
    lifetimeContract.Obeys gs (lifetimeContract.Caught tok Q) (Proc.guarded tok p) s :=
  Obeys.guarded (fun _ => hs.settled) fun hc => hp (hs.live hc)

/-- However a guarded part of a live lifetime ends, the lifetime is still drawn. -/
theorem Session.caught_drawn {β : Type} {r : Option β} {w : World}
    (h : lifetimeContract.Caught tok (fun _ => Live tok) r w) : Drawn tok w := by
  cases r with
  | some _ => exact Live.toDrawn h
  | none => exact Drawn.of_cancelled h.2 h.1

end Guarded

/-! ## The history -/

section History

variable {tok : Nat} {gs : List Nat} {s : World}

/-- Loading the history reports it only while the lifetime is live. -/
theorem Session.loadHistory_obeys {chatId : Int} {a : Actor} (hs : Drawn tok s) :
    lifetimeContract.Obeys gs (fun _ => Drawn tok)
      (Session.loadHistory 0 chatId tok a) s := by
  unfold Session.loadHistory
  refine (Session.guarded_obeys hs fun hl =>
    Api.messages_live (List.mem_cons_self ..) hl).bind fun r s₁ h₁ => ?_
  cases r with
  | none => exact .pure (Session.caught_drawn h₁)
  | some result =>
    refine Session.emit_bind h₁ (by simp) fun s₂ hl₂ => ?_
    exact (Session.guarded_obeys hl₂.toDrawn fun hl =>
      Api.markRead_live (List.mem_cons_self ..) hl).bind fun _ _ h₃ =>
        .pure (Session.caught_drawn h₃)

end History

/-! ## Connecting and reading -/

/-- Receiving a signal logs nothing. -/
theorem SocketServer.receive_logs {so so' : SocketServer} {i : Nat} {sig : Option SocketSignal}
    (h : so.receive i = some (sig, so')) : so'.attempts = so.attempts ∧ so'.sent = so.sent := by
  unfold SocketServer.receive at h
  split at h
  · cases h; exact ⟨rfl, rfl⟩
  · split at h
    · cases h; exact ⟨rfl, rfl⟩
    · split at h
      · cases h
      · cases h; exact ⟨rfl, rfl⟩

section Socket

variable {tok : Nat} {gs : List Nat} (hg : tok ∈ gs) {s : World}
include hg

/-- Connecting logs the attempt and takes the connection, both while live. -/
theorem Session.connect_obeys {url : String} (hl : Live tok s) :
    lifetimeContract.Obeys gs (fun _ => Live tok) (Session.connect url) s := by
  unfold Session.connect
  refine hl.update_bind (by dsimp only; exact Acting.aside rfl rfl rfl rfl rfl) fun hl₁ => ?_
  refine Obeys.read_bind ?_
  have haccept : ∀ s', Live tok s' → lifetimeContract.Obeys gs (fun _ => Live tok)
      (Proc.update fun w : World => ((Except.ok (w.sockets.accept url).1 : Except TransportError Nat),
        { w with sockets := (w.sockets.accept url).2 })) s' := by
    intro s' hl'
    have hact : Acting s' { s' with sockets := (s'.sockets.accept url).2 } :=
      Acting.aside rfl rfl rfl rfl rfl
    exact Obeys.update (hact.step hl') (hact.live hl')
  dsimp only
  split
  · refine ((Mode.live tok gs hg).sleep hl₁).bind fun _ s₂ hl₂ => ?_
    split
    · exact .pure hl₂
    · simpa using haccept s₂ hl₂
  · split
    · exact .pure hl₁
    · simpa using haccept _ hl₁

/-- Receiving takes the next signal: calm. -/
theorem Session.receive_obeys {conn : Nat} (hl : Live tok s) :
    lifetimeContract.Obeys gs (fun _ => Live tok) (Session.receive conn) s := by
  refine (Mode.live tok gs hg).await_calm hl fun w v w' hv => ?_
  simp only [Option.map_eq_some_iff] at hv
  obtain ⟨⟨sig, so⟩, hso, hv⟩ := hv
  obtain ⟨-, rfl⟩ := Prod.mk.inj hv
  obtain ⟨ha, hsent⟩ := SocketServer.receive_logs hso
  exact Calm.aside rfl rfl rfl rfl rfl ha hsent rfl (ChecksOnly.refl _ _)

end Socket

/-! ## Reports of received frames -/

/-- Notifying the user changes only the platform. -/
theorem Bridge.notifyIn_platform (w : World) (label text : String) (chatId : Int) :
    (Bridge.notifyIn w label text chatId).2 =
      { w with platform := (Bridge.notifyIn w label text chatId).2.platform } := by
  unfold Bridge.notifyIn
  split
  · rfl
  · split
    · rfl
    · -- asking for permission, then showing, each changes the platform only
      cases w.platform.permission <;> dsimp only <;> (try split) <;> (try split) <;>
        (try split) <;> rfl

theorem Bridge.notifyIn_acting (w : World) (label text : String) (chatId : Int) :
    Acting w (Bridge.notifyIn w label text chatId).2 := by
  rw [Bridge.notifyIn_platform]
  exact Acting.aside rfl rfl rfl rfl rfl

section Dispatch

variable {tok : Nat} {gs : List Nat} {s : World}

/-- A task of the lifetime `tok` guarded by its token, started while it is drawn, is parked. -/
theorem Session.guardedTask_parked {β : Type} {p : Proc World β}
    (hs : Drawn tok s)
    (hp : ∀ s', Live tok s' → lifetimeContract.Obeys [tok] (fun _ => Live tok) p s') :
    lifetimeContract.Parked (fun _ => lifetimeContract.settled)
      (do let _ ← Proc.guarded tok p; pure ()) s :=
  parked_of_obeys fun s₁ hs₁ hstep =>
    (Session.guarded_obeys (hs.later hs₁ hstep) fun hl => hp s₁ hl).bind fun _ _ h =>
      .pure (Session.caught_drawn h).settled

/-- A message from the peer starts the read receipt and the notification as guarded tasks. -/
theorem Session.incoming_obeys {chatId : Int} {a : Actor} {text : String} (hl : Live tok s) :
    lifetimeContract.Obeys gs (fun _ => Live tok) (Session.incoming 0 chatId tok a text) s := by
  unfold Session.incoming
  refine Obeys.fork_bind (Session.guardedTask_parked hl.toDrawn fun _ hl' =>
    Api.markRead_live (List.mem_singleton_self _) hl') fun _ => Obeys.read_bind ?_
  split
  · refine Obeys.read_bind ?_
    refine Obeys.fork_bind (Session.guardedTask_parked hl.toDrawn fun s' hl' => ?_) fun _ => .pure hl
    exact Obeys.update ((Bridge.notifyIn_acting s' _ _ _).step hl')
      ((Bridge.notifyIn_acting s' _ _ _).live hl')
  · exact .pure hl

/-- Reporting a frame is an action of the live lifetime. -/
theorem Session.dispatch_obeys {chatId : Int} {a : Actor} {frame : InboundFrame}
    (hl : Live tok s) :
    lifetimeContract.Obeys gs (fun _ => Live tok) (Session.dispatch 0 chatId tok a frame) s := by
  have hemit : ∀ e, e ≠ .phaseChanged .closed →
      lifetimeContract.Obeys gs (fun _ => Live tok) (Session.emit 0 e) s := fun e he =>
    Obeys.modify ((Acting.emit s he).step hl) ((Acting.emit s he).live hl)
  cases frame with
  | message m =>
    refine Session.emit_bind hl (by simp) fun s' hl' => ?_
    split
    · exact Session.incoming_obeys hl'
    · exact .pure hl'
  | typing u b =>
    simp only [Session.dispatch]
    split
    · exact hemit _ (by simp)
    · exact .pure hl
  | onlineUsers us => exact hemit _ (by simp)
  | messagesRead n _ => exact hemit _ (by simp)
  | userDisconnected u => exact hemit _ (by simp)
  | unknown => exact .pure hl

/-- Reading a connection reports and goes offline only while the lifetime is live. -/
theorem Session.pump_obeys {chatId : Int} {a : Actor} {conn : Nat} (fuel : Nat) :
    ∀ {s}, Drawn tok s →
      lifetimeContract.Obeys gs (fun _ => Drawn tok)
        (Session.pump 0 chatId tok a conn fuel) s := by
  induction fuel with
  | zero => exact fun hs => .pure hs
  | succ fuel ih =>
    intro s hs
    rw [Session.pump]
    refine (Session.guarded_obeys hs fun hl =>
      Session.receive_obeys (List.mem_cons_self ..) hl).bind fun r s₁ h₁ => ?_
    cases r with
    | none => exact .pure (Session.caught_drawn h₁)
    | some signal =>
      have hl₁ : Live tok s₁ := h₁
      dsimp only
      -- a frame is reported when it decodes, an error takes the session offline
      split
      · split
        · exact (Session.dispatch_obeys hl₁).bind fun _ _ hl₂ => ih hl₂.toDrawn
        · exact ih hl₁.toDrawn
      · exact Session.setOnline_bind hl₁ (by simp) fun _ hl₂ => ih hl₂.toDrawn
      · exact .pure hl₁.toDrawn
      · exact .pure hl₁.toDrawn

end Dispatch

/-! ## The link -/

section Link

variable {tok : Nat} {gs : List Nat} {s : World}

/-- After an attempt to connect, the loop checks the token, then gives up or waits and
reconnects: this keeps the lifetime drawn when the next round of the loop does. -/
theorem Session.afterAttempt_obeys {chatId : Int} {a : Actor} {url : String}
    {ceiling delay fuel : Nat}
    (ih : ∀ {attempts : Nat} {reconnecting : Bool} {s}, Drawn tok s →
      lifetimeContract.Obeys gs (fun _ => Drawn tok)
        (Session.linkLoop 0 chatId tok a url ceiling delay fuel attempts reconnecting) s)
    (n : Nat) (hs : Drawn tok s) :
    lifetimeContract.Obeys gs (fun _ => Drawn tok)
      (do
        let cancelled ← Session.cancelled tok
        if cancelled = true then pure ()
        else if n ≥ ceiling then do
          Session.setPhase 0 SessionPhase.disconnected
          pure ()
        else do
          Session.setPhase 0 SessionPhase.reconnecting
          let slept ← Proc.guarded tok (Proc.sleep delay)
          match slept with
          | some _ => Session.linkLoop 0 chatId tok a url ceiling delay fuel (n + 1) true
          | _ => pure ()) s := by
  refine Obeys.read_bind ?_
  cases hc : s.isCancelled tok with
  | true => exact .pure hs
  | false =>
    have hl := hs.live hc
    simp only [Bool.false_eq_true, if_false]
    split
    · exact Session.setPhase_bind hl (by simp) fun _ hl₂ => .pure hl₂.toDrawn
    · refine Session.setPhase_bind hl (by simp) fun s₂ hl₂ => ?_
      refine (Session.guarded_obeys hl₂.toDrawn fun hl =>
        (Mode.live tok (tok :: gs) (List.mem_cons_self ..)).sleep hl).bind
          fun r s₃ h₃ => ?_
      cases r with
      | none => exact .pure (Session.caught_drawn h₃)
      | some _ => exact ih (Session.caught_drawn h₃)

/-- The connect–read–reconnect loop reports and sends only while its lifetime is live: after a
connection it checks the token before going online, and after the reading ends it checks it
before going offline, giving up or waiting to reconnect. -/
theorem Session.linkLoop_obeys {chatId : Int} {a : Actor} {url : String} {ceiling delay : Nat}
    (fuel : Nat) : ∀ {attempts : Nat} {reconnecting : Bool} {s}, Drawn tok s →
      lifetimeContract.Obeys gs (fun _ => Drawn tok)
        (Session.linkLoop 0 chatId tok a url ceiling delay fuel attempts reconnecting) s := by
  induction fuel with
  | zero => exact fun hs => .pure hs
  | succ fuel ih =>
    intro attempts reconnecting s hs
    rw [Session.linkLoop]
    refine (Session.guarded_obeys hs fun hl =>
      Session.connect_obeys (List.mem_cons_self ..) hl).bind fun r s₁ h₁ => ?_
    cases r with
    | none => exact .pure (Session.caught_drawn h₁)
    | some result =>
      have hl₁ : Live tok s₁ := h₁
      dsimp only
      split
      · -- connected: the token was live when the connection was taken
        refine Obeys.read_bind ?_
        simp only [Session.cancelled, hl₁.notCancelled, Bool.false_eq_true, if_false]
        refine Session.setOnline_bind hl₁ (by simp) fun s₂ hl₂ => ?_
        refine Session.setPhase_bind hl₂ (by simp) fun s₃ hl₃ => ?_
        -- the history is reloaded on a reconnection, then the connection is read
        have hjoin : ∀ P : Proc World Unit,
            (∀ s₄, Drawn tok s₄ → lifetimeContract.Obeys gs (fun _ => Drawn tok) P s₄) →
            lifetimeContract.Obeys gs (fun _ => Drawn tok)
              (if reconnecting = true then Session.loadHistory 0 chatId tok a >>= fun _ => P
               else P) s₃ := by
          intro P hP
          split
          · exact (Session.loadHistory_obeys hl₃.toDrawn).bind fun _ s₄ hs₄ => hP s₄ hs₄
          · exact hP s₃ hl₃.toDrawn
        refine hjoin _ fun s₄ hs₄ => ?_
        refine (Session.pump_obeys Session.linkFuel hs₄).bind fun stopped s₅ hs₅ => ?_
        refine Obeys.read_bind ?_
        cases hc : s₅.isCancelled tok with
        | true => simp only [Bool.or_true, if_true]; exact .pure hs₅
        | false =>
          cases stopped with
          | true => exact .pure hs₅
          | false =>
            simp only [Bool.or_false, Bool.false_eq_true, if_false]
            exact Session.setOnline_bind (hs₅.live hc) (by simp) fun s₆ hl₆ =>
              Session.afterAttempt_obeys ih 0 hl₆.toDrawn
      · exact Session.afterAttempt_obeys ih attempts hl₁.toDrawn

/-- A socket address can be built from every origin that reads as a URL. -/
theorem Api.socketUrl_ok {c : ChatConfig} {u : Url} (hu : Url.parse c.origin = .ok u)
    (chatId : Int) (userId : String) : ∃ url, Api.socketUrl c chatId userId = .ok url := by
  have hsock : ∃ v, c.socketUrl chatId userId = .ok v := by
    unfold ChatConfig.socketUrl
    rw [hu]
    exact ⟨_, rfl⟩
  obtain ⟨v, hv⟩ := hsock
  unfold Api.socketUrl
  rw [hv]
  exact ⟨_, rfl⟩

/-- The link task: the socket address is built from an origin that reads as a URL. -/
theorem Session.link_obeys {chatId : Int} {a : Actor} (hs : Drawn tok s) :
    lifetimeContract.Obeys gs (fun _ => Drawn tok) (Session.link 0 chatId tok a) s := by
  unfold Session.link
  refine Obeys.read_bind ?_
  obtain ⟨u, hu⟩ := hs.settled.originOk
  obtain ⟨url, hurl⟩ := Api.socketUrl_ok hu chatId a.id
  simp only [hurl]
  exact Session.linkLoop_obeys _ hs

/-- Starting the link while the lifetime is drawn parks it. -/
theorem Session.startLink_obeys {α : Type} {Q : α → World → Prop} {chatId : Int} {a : Actor}
    {k : Unit → Proc World α} (hs : Drawn tok s)
    (h : lifetimeContract.Obeys gs Q (k ()) s) :
    lifetimeContract.Obeys gs Q (Session.startLink 0 chatId tok a >>= k) s := by
  show lifetimeContract.Obeys gs Q (Proc.fork (Session.link 0 chatId tok a) >>= fun _ => k ()) s
  refine Obeys.fork_bind (parked_of_obeys fun s₁ hs₁ hstep => ?_) fun _ => h
  exact (Session.link_obeys (hs.later hs₁ hstep)).weaken fun _ _ h => h.settled

end Link

end MarketChat
