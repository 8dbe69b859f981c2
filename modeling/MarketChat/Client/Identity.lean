import MarketChat.Client.Api
/-!
# Who is acting

The actor is the signed-in user when the backend names one, else an anonymous visitor.

* The backend's answer names a user when its `id` is a number (kept as its JSON text) or a
  non-empty string. A registered actor is remembered for the configured lifetime.
* The anonymous id is kept in the store under `anonymous_user_id`. A missing or empty id is
  replaced by a fresh UUID, which is stored when the store allows; when the store cannot be
  read, a fresh UUID is used and not stored.

Main definitions: `Identity.resolve`, `Identity.anonymousId`, `Identity.registeredId`.
-/

namespace MarketChat

namespace Identity

/-- The store key of the anonymous id. -/
def anonymousKey : String := "anonymous_user_id"

/-- The id of a registered user in the backend's answer: a number's text or a non-empty
string. -/
def registeredId (body : Json) : Option String :=
  match body.member? "id" with
  | some (.num n) => some n.text
  | some (.str s) => if s.isEmpty then none else some s
  | _ => none

/-- A fresh id, stored when the store allows. -/
def freshStored (w : World) : String × World :=
  let (id, w) := w.freshUuid
  match w.store.set anonymousKey id with
  | .ok s => (id, { w with store := s })
  | .error _ => (id, w)

/-- The anonymous id: the stored one, or a fresh one. -/
def anonymousIdIn (w : World) : String × World :=
  match w.store.get anonymousKey with
  | .ok (some id) => if id.isEmpty then freshStored w else (id, w)
  | .ok none => freshStored w
  | .error _ => w.freshUuid

/-- The anonymous id. -/
def anonymousId : Act String := Proc.update anonymousIdIn

/-- The acting user: the remembered registered actor while it is fresh, else the backend's
user, else the anonymous visitor. -/
def resolve : Act Actor := do
  let w ← Proc.read id
  let fresh := match w.identity with
    | some (a, since) => if w.now - since < w.config.authCacheTtlMs then some a else none
    | none => none
  match fresh with
  | some a => return a
  | none =>
    let answer ← Api.currentUser
    let registered := match answer with
      | .ok body => registeredId body
      | .error _ => none
    match registered with
    | some uid =>
      let a : Actor := ⟨uid, true⟩
      Proc.modify fun w => { w with identity := some (a, w.now) }
      return a
    | none => return ⟨← anonymousId, false⟩

/-- Forget the remembered actor. -/
def forget : Act Unit := Proc.modify fun w => { w with identity := none }

end Identity

end MarketChat
