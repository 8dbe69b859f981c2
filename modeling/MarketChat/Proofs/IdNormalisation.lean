import MarketChat.Client.Identity
import MarketChat.Session.Event
/-!
# One user, one id text

The backend names users by ids that it writes as strings or as numbers, and the client turns
such an id into text in three places:

* the signed-in user's id, from the answer about the current user (`Identity.registeredId`),
  is a number's JSON text or a non-empty string;
* the sender of a message and the buyer of a conversation are read leniently: a string as it
  is, a number as its identifier text (`idFromTree` on a document, `Reader.identifier` on
  text), where a double is written positionally (`Binary64.plainText`);
* the user of a typing signal or an online list is any JSON value's text (`Json.userIdText`),
  where a double is written as JSON writes it (`Binary64.jsonText`).

On strings and integers the three agree, so the actor recognises its own messages and its own
typing signals. On doubles they part: the lenient text of `12.0` is `12`, while the other two
give `12.0`.

Main statements: `Identity.ids_agree_on_strings_and_integers` and
`Identity.double_ids_part`.
-/

namespace MarketChat

/-- An id the backend writes as a non-empty string or as an integer. -/
def Json.IsPlainId : Json → Prop
  | .str s => s ≠ ""
  | .num (.nat _) => True
  | .num (.negInt _) => True
  | _ => False

/-! ## Reading a lexeme twice -/

namespace Reader

theorem bind_ok {α β : Type} {x : Reader α} {k : α → Reader β} {c c' : Cursor} {b : β}
    (h : EStateM.bind x k c = .ok b c') : ∃ a c₁, x c = .ok a c₁ ∧ k a c₁ = .ok b c' := by
  simp only [EStateM.bind] at h
  cases hx : x c with
  | ok a s => rw [hx] at h; exact ⟨a, s, rfl, h⟩
  | error e s => rw [hx] at h; cases h

theorem pure_ok {α : Type} {a b : α} {c c' : Cursor} (h : (pure a : Reader α) c = .ok b c') :
    a = b ∧ c = c' := by
  simpa only [pure, EStateM.pure, EStateM.Result.ok.injEq] using h

/-- A reader that ends by returning a function of what it read. -/
theorem ok_of_bind_pure {α β : Type} {x : Reader α} {f : α → β} {c c' : Cursor} {b : β}
    (h : EStateM.bind x (fun a => pure (f a)) c = .ok b c') : ∃ a, x c = .ok a c' ∧ f a = b := by
  obtain ⟨a, c₁, hx, hk⟩ := bind_ok h
  obtain ⟨rfl, rfl⟩ := pure_ok hk
  exact ⟨a, hx, rfl⟩

/-- **The lenient reader reads what the document reader reads.** Where a document is read as a
string or a number, the identifier reader reads the same text, stops at the same place, and
gives the value's lenient text. -/
theorem identifier_of_document {d : Nat} {c c' : Cursor} {v : Json} {t : String}
    (h : document d c = .ok v c') (ht : idFromTree v = .ok (.text t)) :
    identifier c = .ok t c' := by
  unfold identifier placing
  rw [document.eq_def] at h
  simp only [bind, EStateM.bind, skipBlank] at h ⊢
  generalize c.skipBlank = c₀ at h ⊢
  generalize c₀.peek = p at h ⊢
  -- a literal, an array and an object are no ids
  have hlit : ∀ {x y : Reader Unit} {j : Json} {c₁ : Cursor},
      EStateM.bind x (fun _ => EStateM.bind y fun _ => pure j) c₁ = .ok v c' →
      (∀ f, idFromTree j ≠ .ok f) → False := by
    intro x y j c₁ hxy hj
    obtain ⟨_, _, _, hy⟩ := bind_ok hxy
    obtain ⟨_, _, _, hp⟩ := bind_ok hy
    obtain ⟨rfl, -⟩ := pure_ok hp
    exact hj _ ht
  have hnest : ∀ {α : Type} {r : Reader α} {wrap : α → Json},
      (∀ a f, idFromTree (wrap a) ≠ .ok f) →
      EStateM.bind bump (fun _ => EStateM.bind budget fun _ => EStateM.bind r fun a =>
        pure (wrap a)) c₀ = .ok v c' → False := by
    intro α r wrap hw hb
    obtain ⟨_, _, _, hk⟩ := bind_ok hb
    obtain ⟨_, _, _, hk⟩ := bind_ok hk
    obtain ⟨a, -, rfl⟩ := ok_of_bind_pure hk
    exact hw a _ ht
  cases p with
  | none => simp [failNext] at h
  | some ch =>
    by_cases hn : ch = 'n'
    · subst hn; exact (hlit h fun _ => by simp [idFromTree]).elim
    by_cases htr : ch = 't'
    · subst htr; exact (hlit h fun _ => by simp [idFromTree]).elim
    by_cases hf : ch = 'f'
    · subst hf; exact (hlit h fun _ => by simp [idFromTree]).elim
    by_cases hm : ch = '-'
    · subst hm
      simp only at h ⊢
      obtain ⟨_, c₁, hb, hk⟩ := bind_ok h
      obtain ⟨n, hnum, rfl⟩ := ok_of_bind_pure hk
      simp only [idFromTree, Except.ok.injEq, FieldValue.text.injEq] at ht
      simp only [EStateM.bind, hb, hnum, pure, EStateM.pure, ht]
    by_cases hq : ch = '"'
    · subst hq
      simp only at h ⊢
      obtain ⟨_, c₁, hb, hk⟩ := bind_ok h
      obtain ⟨s, hs, rfl⟩ := ok_of_bind_pure hk
      simp only [idFromTree, Except.ok.injEq, FieldValue.text.injEq] at ht
      simp only [EStateM.bind, hb, hs, ht]
    by_cases hs : ch = '['
    · subst hs
      rcases d with _ | _ | e
      · simp [failNext] at h
      · simp [failNext] at h
      · exact (hnest (fun _ _ => by simp [idFromTree]) h).elim
    by_cases hc : ch = '{'
    · subst hc
      rcases d with _ | _ | e
      · simp [failNext] at h
      · simp [failNext] at h
      · exact (hnest (fun _ _ => by simp [idFromTree]) h).elim
    -- what is left is a number without a sign, or no value
    simp only at h ⊢
    by_cases hd : ch.isDigit = true
    · simp only [hd, if_true] at h ⊢
      obtain ⟨n, hnum, rfl⟩ := ok_of_bind_pure h
      simp only [idFromTree, Except.ok.injEq, FieldValue.text.injEq] at ht
      simp only [EStateM.bind, hnum, pure, EStateM.pure, ht]
    · simp [hd, failNext] at h

end Reader

/-! ## The three texts of an id -/

/-- A number's text as any JSON value is its JSON text. -/
@[simp] theorem Json.userIdText_num (n : JsonNumber) : Json.userIdText (.num n) = n.text := rfl

/-- The signed-in user named by a number is the number's JSON text. -/
theorem Identity.registeredId_num (n : JsonNumber) :
    Identity.registeredId (.obj [("id", .num n)]) = some n.text := by
  simp [Identity.registeredId, Json.member?]

/-- The signed-in user named by a non-empty string is that string. -/
theorem Identity.registeredId_str {s : String} (hs : s ≠ "") :
    Identity.registeredId (.obj [("id", .str s)]) = some s := by
  simp [Identity.registeredId, Json.member?, hs]

/-- **On strings and integers the three id texts agree.** For an id the backend writes as a
non-empty string or an integer, the signed-in user's id taken from an answer naming it, its
lenient text (on a document, and on text: what the identifier reader reads wherever the
document reader reads it), and its text as a user of a typing signal or an online list are one
text. So a message whose sender is written as the actor's id was is the actor's own, and a
typing signal from that user is the actor's own. -/
theorem Identity.ids_agree_on_strings_and_integers (v : Json) (hv : v.IsPlainId) :
    Identity.registeredId (.obj [("id", v)]) = some v.userIdText ∧
      idFromTree v = .ok (.text v.userIdText) ∧
      (∀ d c c', Reader.document d c = .ok v c' → Reader.identifier c = .ok v.userIdText c') ∧
      ∀ m : Message, m.senderId = v.userIdText →
        (DisplayMessage.forActor m ⟨v.userIdText, true⟩).own = true := by
  have hlenient : idFromTree v = .ok (.text v.userIdText) := by
    match v, hv with
    | .str s, _ => rfl
    | .num (.nat n), _ => rfl
    | .num (.negInt i), _ => rfl
  refine ⟨?_, hlenient, fun d c c' h => Reader.identifier_of_document h hlenient, ?_⟩
  · match v, hv with
    | .str s, hs => exact Identity.registeredId_str hs
    | .num (.nat n), _ => exact Identity.registeredId_num _
    | .num (.negInt i), _ => exact Identity.registeredId_num _
  · intro m hm
    simp [DisplayMessage.forActor, Message.isFrom, hm]

/-- The id `12`, written as a number. -/
theorem Identity.ids_agree_on_twelve : (Json.num (.nat 12)).IsPlainId ∧
    Identity.registeredId (.obj [("id", .num (.nat 12))]) = some (Json.num (.nat 12)).userIdText ∧
      idFromTree (.num (.nat 12)) = .ok (.text (Json.num (.nat 12)).userIdText) ∧
      (∀ d c c', Reader.document d c = .ok (.num (.nat 12)) c' →
        Reader.identifier c = .ok (Json.num (.nat 12)).userIdText c') ∧
      ∀ m : Message, m.senderId = (Json.num (.nat 12)).userIdText →
        (DisplayMessage.forActor m ⟨(Json.num (.nat 12)).userIdText, true⟩).own = true :=
  ⟨trivial, Identity.ids_agree_on_strings_and_integers _ trivial⟩

/-- **On doubles the lenient text parts from the other two.** A double id is the JSON text of
the double for the signed-in user and for typing and online users, and its positional text
when read leniently. -/
theorem Identity.double_ids_part (x : Binary64) :
    Identity.registeredId (.obj [("id", .num (.float x))]) = some x.jsonText ∧
      Json.userIdText (.num (.float x)) = x.jsonText ∧
      idFromTree (.num (.float x)) = .ok (.text x.plainText) :=
  ⟨Identity.registeredId_num _, rfl, rfl⟩

end MarketChat
