import MarketChat.Sim.World
/-!
# Notifying the user

A message from the peer is announced unless the client is visible and focused. An
unsupported platform cannot announce; an undecided permission is asked for first (a failed
request fails the notification); a permission other than granted denies it. A click dismisses
the notification, then closes it, focuses a window already at its address, or opens one.

Whether to prompt for permission: only on a supported platform with an undecided permission,
and only until the prompt was recorded in the store under `notification_permission_asked`.

Main definitions: `Bridge.notify`, `Bridge.click`, `Bridge.shouldPrompt`,
`Bridge.markPrompted`.
-/

namespace MarketChat

namespace Bridge

/-- The store key recording that the user was prompted. -/
def promptedKey : String := "notification_permission_asked"

/-- Announce a message from `label` in a chat. -/
def notifyIn (w : World) (label text : String) (chatId : Int) : NotifyOutcome × World :=
  if w.focus.visible && w.focus.focused then (.suppressed, w)
  else if !w.platform.supported then (.unsupported, w)
  else
    let (perm, w) := match w.platform.permission with
      | .default =>
        let (r, p) := w.platform.requestPermission
        (r, { w with platform := p })
      | p => (.ok p, w)
    match perm with
    | .error e => (.failed e.message, w)
    | .ok p =>
      if p ≠ .granted then (.permissionDenied, w)
      else
        let (r, p) := w.platform.present (Notification.build w.config label text chatId)
        let w := { w with platform := p }
        match r with
        | .ok _ => (.shown, w)
        | .error e => (.failed e.message, w)

/-- Announce a message from `label` in a chat. -/
def notify (label text : String) (chatId : Int) : Act NotifyOutcome :=
  Proc.update fun w => notifyIn w label text chatId

/-- Handle a click on a notification, with the action clicked if any. -/
def click (w : World) (n : Notification) (action : Option NotificationAction) :
    Except NotifyError ClickOutcome × World :=
  let (r, p) := w.platform.dismiss n.tag
  let w := { w with platform := p }
  match r with
  | .error e => (.error e, w)
  | .ok _ =>
    if action = some .close then (.ok .dismissed, w)
    else if w.windows.urls.contains n.url then
      let (r, ws) := w.windows.focus n.url
      (r.map fun _ => .focused n.url, { w with windows := ws })
    else
      let (r, ws) := w.windows.openUrl n.url
      (r.map fun _ => .opened n.url, { w with windows := ws })

/-- Whether to prompt the user for permission. -/
def shouldPrompt (w : World) : Bool :=
  if !w.platform.supported || w.platform.permission ≠ .default then false
  else
    match w.store.get promptedKey with
    | .ok flag => flag.isNone
    | .error _ => false

/-- Record that the user was prompted, when the store allows. -/
def markPrompted (w : World) : World :=
  match w.store.set promptedKey "true" with
  | .ok s => { w with store := s }
  | .error _ => w

end Bridge

end MarketChat
