import MarketChat.Notify.Basic
/-!
# A scripted notification platform, focus and windows

The platform says whether notifications are supported and what the permission is; a request
for permission answers a scripted permission, which becomes the current one, or fails. Showing
or dismissing may be scripted to fail. A shown notification replaces an earlier one with the
same tag; dismissing removes the tag. A platform without its own dismissal does nothing and
logs nothing when asked to dismiss.

Successful calls are logged in order: permission requests, shown notifications, dismissed
tags. The windows are a list of open addresses; focusing and opening may be scripted to fail,
and successful calls are logged.

Main definitions: `Platform`, `Focus`, `Windows`.
-/

namespace MarketChat

/-- A logged platform call. -/
inductive PlatformCall where
  | requestPermission
  | present (n : Notification)
  | dismiss (tag : String)
  deriving Repr

/-- The JSON of a platform call. -/
def PlatformCall.toJson : PlatformCall → Json
  | .requestPermission => .obj [("request_permission", .bool true)]
  | .present n => .obj [("show", n.toJson)]
  | .dismiss t => .obj [("dismiss", .str t)]

/-- The notification platform. -/
structure Platform where
  supported : Bool := true
  permission : Permission := .granted
  /-- What a permission request answers: a permission, or the platform's failure. -/
  request : Except String Permission := .ok .granted
  showError : Option String := none
  dismissError : Option String := none
  /-- The platform dismisses notifications itself. -/
  ownDismiss : Bool := true
  shown : List Notification := []
  calls : List PlatformCall := []
  deriving Repr

namespace Platform

/-- Ask for permission. -/
def requestPermission (p : Platform) : Except NotifyError Permission × Platform :=
  let p := { p with calls := p.calls ++ [PlatformCall.requestPermission] }
  match p.request with
  | .ok perm => (.ok perm, { p with permission := perm })
  | .error msg => (.error (.platform msg), p)

/-- Show a notification, replacing one with the same tag. -/
def present (p : Platform) (n : Notification) : Except NotifyError Unit × Platform :=
  match p.showError with
  | some msg => (.error (.platform msg), p)
  | none =>
    (.ok (), { p with
      shown := p.shown.filter (·.tag ≠ n.tag) ++ [n]
      calls := p.calls ++ [PlatformCall.present n] })

/-- Dismiss the notification with a tag. -/
def dismiss (p : Platform) (tag : String) : Except NotifyError Unit × Platform :=
  if !p.ownDismiss then (.ok (), p)
  else
    match p.dismissError with
    | some msg => (.error (.platform msg), p)
    | none =>
      (.ok (), { p with
        shown := p.shown.filter (·.tag ≠ tag)
        calls := p.calls ++ [PlatformCall.dismiss tag] })

end Platform

/-- Whether the client is visible and has the focus. -/
structure Focus where
  visible : Bool := false
  focused : Bool := false
  deriving Repr

/-- A logged window call. -/
inductive WindowCall where
  | focus (url : String)
  | openUrl (url : String)
  deriving Repr

/-- The JSON of a window call. -/
def WindowCall.toJson : WindowCall → Json
  | .focus u => .obj [("focus", .str u)]
  | .openUrl u => .obj [("open", .str u)]

/-- The client's windows. -/
structure Windows where
  urls : List String := []
  focusError : Option String := none
  openError : Option String := none
  calls : List WindowCall := []
  deriving Repr

namespace Windows

/-- Focus the window at an address. -/
def focus (w : Windows) (url : String) : Except NotifyError Unit × Windows :=
  match w.focusError with
  | some msg => (.error (.platform msg), w)
  | none => (.ok (), { w with calls := w.calls ++ [.focus url] })

/-- Open a window at an address. -/
def openUrl (w : Windows) (url : String) : Except NotifyError Unit × Windows :=
  match w.openError with
  | some msg => (.error (.platform msg), w)
  | none => (.ok (), { w with urls := w.urls ++ [url], calls := w.calls ++ [.openUrl url] })

end Windows

end MarketChat
