import MarketChat.Terminal.Arguments
import MarketChat.Terminal.Machine
import MarketChat.Terminal.Print
import MarketChat.Sim.Seller
/-!
# A run of the terminal client

One run of `lais`: read the command line, load the configuration, create the data
directory, open the database, and run the command.

* `cache` opens the response cache over the database and clears it, clears the responses
  holding user data, or sweeps the expired ones, printing how many went.
* `whoami` resolves the actor and prints who it is.
* `chat` opens the conversation of a listing with its seller, prints a prompt, and then
  reads lines: `/quit` (or `/q`) leaves, `/away` and `/back` set whether the user is at the
  terminal (away, new messages raise notifications), `/goto` follows the latest
  notification, and any other line is typed and sent.
* `seller` opens the seller's panel, prints the grouped conversations and a prompt, and
  reads lines: the shared commands above, then `/list`, `/refresh`, `/open <chat>`,
  `/toggle <listing>`, `/delete`, and text to send to the open conversation.

Lines are read from the bytes typed, up to each newline; a line that is not UTF-8 ends the
input. Lines are trimmed and blank ones skipped. The interactive commands end when the input
ends, on `/quit`, on an interrupt (printing a goodbye), or, for `chat`, when the session
closes; the conversation is closed on the way out.

While a command runs, the client's world goes on: what the session and the panel report is
printed as it happens, and so are notifications and opened addresses. The surroundings act
between lines (the server pushes, closes, time passes).

A failure before the interactive loop ends the run with status 1 and a report on standard
error: what failed, and the chain of causes. A command line that does not read ends it with
status 2 (`Terminal.readCommandLine`).

Main definitions: `Environment`, `Happening`, `Failure`, `Outcome`, `Terminal.run`.
-/

namespace MarketChat

namespace Terminal

/-- Where the run finds its default data directory: the data home, else the home
directory's `.local/share`. -/
structure Environment where
  home : Option String := none
  dataHome : Option String := none
  deriving Repr

/-- A path below a directory. -/
def joinPath (dir name : String) : String :=
  if dir.isEmpty then name else if dir.endsWith "/" then dir ++ name else dir ++ "/" ++ name

/-- The data directory of a configuration without one: `lais` in the platform's data
directory. -/
def Environment.dataDir (e : Environment) : String :=
  let base := match e.dataHome, e.home with
    | some d, _ => if d.isEmpty then none else some d
    | none, some h => if h.isEmpty then none else some (joinPath h ".local/share")
    | none, none => none
  joinPath (base.getD ".") "lais"

/-- Something that happens while the client runs, in order. -/
inductive Happening where
  /-- Bytes typed on standard input. -/
  | typed (bytes : List UInt8)
  /-- The user presses Ctrl-C. -/
  | interrupt
  /-- The surroundings act: the server, the network, or time passing. -/
  | surroundings (c : WorldCommand)
  /-- Time passes until `count` printed lines contain `text`, for two seconds at most. -/
  | waitFor (text : String) (count : Nat)
  deriving Repr

/-- A report of a failed run: what failed, then the chain of causes. -/
structure Failure where
  context : String
  causes : List String
  deriving Repr

/-- The report's lines: one cause is printed alone, several are numbered. -/
def Failure.lines (f : Failure) : List String :=
  ("Error: " ++ f.context) :: match f.causes with
    | [] => []
    | [c] => ["", "Caused by:", "    " ++ c]
    | cs => ["", "Caused by:"] ++ cs.zipIdx.map fun (c, i) => "    " ++ toString i ++ ": " ++ c

/-- The chain of an HTTP error: its sentence, then what caused it. -/
def httpCauses : HttpError → List String
  | .request d => ["Request error: " ++ d, d]
  | .decode e => ["Decode error: " ++ e.message, e.message]
  | .invalidUrl e => ["Invalid URL: " ++ e.message, e.message]
  | e => [e.message]

/-- The chain of a chat error. -/
def chatCauses : ChatError → List String
  | .http e => ("HTTP error: " ++ e.message) :: httpCauses e
  | .serialization d => ["Serialization error: " ++ d, d]
  | e => [e.message]

/-- The chain of a registry error. -/
def registryCauses : RegistryError → List String
  | .http e => ("HTTP error: " ++ e.message) :: httpCauses e
  | .chat e => ("Chat error: " ++ e.message) :: chatCauses e
  | e => [e.message]

/-- The chain of a configuration error. -/
def configCauses : ConfigError → List String
  | .io d => ["IO error: " ++ d, d]
  | .parse e => ["Parse error: " ++ e.message, e.message]
  | .invalidOrigin e => ["Invalid origin: " ++ e.message, e.message]

/-- The chain of a database that would not open. -/
def openCauses : Machine.OpenError → List String
  | .unableToOpen =>
    let m := "(code: 14) unable to open database file"
    ["Database error: Connection Error: error returned from database: " ++ m,
     "Connection Error: error returned from database: " ++ m,
     "error returned from database: " ++ m, "error returned from database: " ++ m, m]
  | .notADatabase =>
    let m := "(code: 26) file is not a database"
    ["Database error: Execution Error: error returned from database: " ++ m,
     "Execution Error: error returned from database: " ++ m,
     "error returned from database: " ++ m, "error returned from database: " ++ m, m]

/-- How a run ended: its exit status (`none` when it never ends), what it printed on each
stream, and the machine and world after it. -/
structure Outcome where
  exitCode : Option Nat
  stdout : List String
  stderr : List String
  machine : Machine
  world : World

/-- Which interactive command runs. -/
inductive Mode where
  | chat
  | seller
  deriving Repr, DecidableEq

/-- The peer's name in printed messages. -/
def Mode.peer : Mode → String
  | .chat => "Seller"
  | .seller => "Buyer"

/-- The terminal while an interactive command runs: what it printed, the bytes typed that
do not end a line yet, the latest notification, how much of the world's logs it printed,
and whether the command ended (or is stuck). -/
structure Console where
  out : List String := []
  buffer : List UInt8 := []
  last : Option Notification := none
  events : Nat := 0
  inboxEvents : Nat := 0
  calls : Nat := 0
  windowCalls : Nat := 0
  done : Bool := false
  stuck : Bool := false
  deriving Repr

namespace Console

/-- Print lines. -/
def say (c : Console) (ls : List String) : Console := { c with out := c.out ++ ls }

/-- Print a session event: in `chat`, the session closing ends the command. -/
def sessionEvent (mode : Mode) (c : Console) (e : SessionEvent) : Console :=
  if c.done then c
  else match mode, e with
    | .chat, .closed => { c with done := true }
    | _, _ => c.say (eventLines mode.peer e)

/-- Print a panel event. -/
def inboxEvent (w : World) (c : Console) : InboxEvent → Console
  | .groupsUpdated _ =>
    match badgeLabel w.inbox.unreadTotal with
    | some b => c.say ["📬 " ++ b ++ " unread"]
    | none => c
  | .refreshFailed _ => c
  | .error m => c.say ["❌ " ++ m]

/-- Print a platform call: shown notifications print and become the latest; dismissing the
latest forgets it. -/
def platformCall (c : Console) : PlatformCall → Console
  | .present n => { c.say (notificationLines n) with last := some n }
  | .dismiss tag => if (c.last.map (·.tag)) = some tag then { c with last := none } else c
  | .requestPermission => c

/-- Print a window call: opening an address prints it. -/
def windowCall (c : Console) : WindowCall → Console
  | .openUrl u => c.say ["🔗 " ++ u]
  | .focus _ => c

/-- Print what happened in the world since the last look. -/
def catchUp (mode : Mode) (w : World) (c : Console) : Console :=
  let newEvents : List (Nat × SessionEvent) := w.sessionEvents.drop c.events
  let shownEvents : List SessionEvent := match mode with
    | .chat => newEvents.map fun p => p.2
    | .seller => newEvents.filterMap fun p => (w.inbox.forwards.lookup p.1).map fun _ => p.2
  let c' := shownEvents.foldl (sessionEvent mode) c
  let c' := (w.inboxEvents.drop c.inboxEvents).foldl (inboxEvent w) c'
  let c' := (w.platform.calls.drop c.calls).foldl platformCall c'
  let c' := (w.windows.calls.drop c.windowCalls).foldl windowCall c'
  { c' with events := w.sessionEvents.length, inboxEvents := w.inboxEvents.length,
            calls := w.platform.calls.length, windowCalls := w.windows.calls.length }

/-- The number of printed lines containing a text. -/
def countLines (c : Console) (text : String) : Nat := (c.out.filter (Text.occursIn text ·)).length

end Console

/-- A terminal and the client's world under its scheduler. -/
structure Screen where
  console : Console
  scene : Scene

namespace Screen

/-- Run a process, then print what happened; a process that never ends leaves the client
stuck. -/
def perform {α : Type} (mode : Mode) (t : Screen) (p : Act α) : Option α × Screen :=
  let (r, scene) := t.scene.perform p
  let c := t.console.catchUp mode scene.world
  let c := if r.isNone then { c with done := true, stuck := true } else c
  (r, { console := c, scene })

/-- Print lines. -/
def say (t : Screen) (ls : List String) : Screen := { t with console := t.console.say ls }

/-- End the command. -/
def finish (t : Screen) : Screen := { t with console := { t.console with done := true } }

/-- Let time pass. -/
def pause (mode : Mode) (t : Screen) (ms : Nat) : Screen := (t.perform mode (Proc.sleep ms)).2

/-- Let time pass in steps of ten milliseconds, at most `steps` of them, until `count`
printed lines contain `text`. -/
def waitFor (mode : Mode) (text : String) (count : Nat) : Nat → Screen → Screen
  | 0, t => t
  | steps + 1, t =>
    if t.console.done || t.console.countLines text ≥ count then t
    else waitFor mode text count steps (t.pause mode 10)

/-- Set whether the user is at the terminal. -/
def setAway (t : Screen) (away : Bool) : Screen :=
  let (_, scene) := t.scene.perform (Proc.modify fun w => { w with focus := ⟨true, !away⟩ })
  { t with scene }

/-- The commands both interactive modes share: `none` when the line is not one of them. -/
def common (mode : Mode) (t : Screen) (line : String) : Option Screen :=
  if line = "/quit" || line = "/q" then some t.finish
  else if line = "/away" then some ((t.setAway true).say ["💤 Away, new messages will notify"])
  else if line = "/back" then some ((t.setAway false).say ["👀 Back"])
  else if line = "/goto" then
    match t.console.last with
    | none => some (t.say ["No notification to follow"])
    | some n =>
      let (r, t) := t.perform mode (Proc.update fun w => Bridge.click w n none)
      match r with
      | some (.error e) => some (t.say ["❌ " ++ e.message])
      | _ => some t
  else none

/-- Type a line in `chat`: report the input, then send it. -/
def chatLine (t : Screen) (line : String) : Screen :=
  let (r, t) := t.perform .chat (do Session.inputChanged 0; Session.send 0 line)
  match r with
  | some (.error e) => t.say ["❌ " ++ e.message]
  | _ => t

/-- Print the seller's groups. -/
def printGroups (t : Screen) : Screen :=
  let (views, t) := t.perform .seller Inbox.groupViews
  match views with
  | some vs => t.say (groupLines vs)
  | none => t

/-- Print a panel operation's failure. -/
def panelResult (t : Screen) (r : Option (Except RegistryError Unit)) (ok : Screen → Screen) :
    Screen :=
  match r with
  | some (.ok _) => ok t
  | some (.error e) => t.say ["❌ " ++ e.message]
  | none => t

/-- A seller's command: the word before the first space, and the rest, trimmed. -/
def sellerLine (t : Screen) (line : String) : Screen :=
  let cs := line.toList
  let command := String.ofList (cs.takeWhile (· ≠ ' '))
  let arg := match cs.dropWhile (· ≠ ' ') with
    | _ :: rest => some (Text.trimSpace (String.ofList rest))
    | [] => none
  match command, arg with
  | "/list", _ => t.printGroups
  | "/refresh", _ =>
    let (r, t) := t.perform .seller Inbox.refresh
    t.panelResult r printGroups
  | "/open", some id =>
    match Text.readInt64 id with
    | .error _ => t.say ["❌ Usage: /open <chat id>"]
    | .ok chatId =>
      let (r, t) := t.perform .seller (Inbox.select chatId)
      t.panelResult r (·.say ["💬 Conversation #" ++ toString chatId])
  | "/toggle", some id =>
    match Text.readInt64 id with
    | .error _ => t.say ["❌ Usage: /toggle <listing id>"]
    | .ok listingId =>
      let (r, t) := t.perform .seller (Inbox.toggleGroup listingId)
      match r with
      | some collapsed =>
        t.say ["Listing #" ++ toString listingId ++ " " ++ (if collapsed then "collapsed" else "expanded")]
      | none => t
  | "/delete", _ =>
    let (r, t) := t.perform .seller Inbox.deleteSelected
    t.panelResult r (·.say ["🗑️ Conversation deleted"])
  | _, _ =>
    if line.startsWith "/" then t.say ["Unknown command: " ++ command]
    else
      let (r, t) := t.perform .seller (do Inbox.inputChanged; Inbox.send line)
      t.panelResult r fun t => t

/-- Handle one line read from the input. -/
def line (mode : Mode) (t : Screen) (raw : String) : Screen :=
  let l := Text.trimSpace raw
  if t.console.done || l.isEmpty then t
  else match t.common mode l with
    | some t => t
    | none =>
      match mode with
      | .chat => t.chatLine l
      | .seller => t.sellerLine l

/-- Split bytes at newlines: the complete lines, each with its newline, and what is left. -/
def splitLines : List UInt8 → List (List UInt8) × List UInt8
  | [] => ([], [])
  | b :: bs =>
    let (ls, rest) := splitLines bs
    if b = 10 then ([b] :: ls, rest)
    else match ls with
      | l :: more => ((b :: l) :: more, rest)
      | [] => ([], b :: rest)

/-- Read lines of bytes: a line that is not UTF-8 ends the input. -/
def readLines (mode : Mode) : List (List UInt8) → Screen → Screen
  | [], t => t
  | l :: ls, t =>
    if t.console.done then t
    else match String.fromUTF8? (ByteArray.mk l.toArray) with
      | some text => readLines mode ls (t.line mode text)
      | none => t.finish

/-- Take typed bytes: every completed line is read. -/
def typed (mode : Mode) (t : Screen) (bytes : List UInt8) : Screen :=
  let (ls, rest) := splitLines (t.console.buffer ++ bytes)
  let t := { t with console := { t.console with buffer := rest } }
  readLines mode ls t

/-- The input ends: a last line without newline is still read. -/
def endOfInput (mode : Mode) (t : Screen) : Screen :=
  let t := if t.console.buffer.isEmpty then t else readLines mode [t.console.buffer] t
  t.finish

/-- How long output must stay quiet after each happening, in milliseconds. -/
def quietMs : Nat := 60

/-- How long the input stays open after the last happening, in milliseconds. -/
def lingerMs : Nat := 250

/-- Let one thing happen, then let the quiet time pass. -/
def happen (mode : Mode) (t : Screen) : Happening → Screen
  | .typed bytes => (t.typed mode bytes).pause mode quietMs
  | .interrupt => (t.say ["", "👋 Goodbye!"]).finish
  | .surroundings cmd => ((t.perform mode cmd.run).2).pause mode quietMs
  | .waitFor text count => (t.waitFor mode text count 200).pause mode quietMs

/-- Let everything happen in order, until the command ends; then the input ends. -/
def loop (mode : Mode) : List Happening → Screen → Screen
  | [], t => if t.console.done then t else (t.pause mode lingerMs).endOfInput mode
  | h :: hs, t => if t.console.done then t else loop mode hs (t.happen mode h)

end Screen

/-- The world of a client that connected: the configuration, the database and the cache
over it, a terminal that always may notify, and the focus the user starts with. A user
never prompted for notifications is marked prompted. -/
def connectedWorld (surroundings : World) (config : ChatConfig) (store : KvStore)
    (startMillis : Int) (away : Bool) : World :=
  let (cache, store) := ResponseCache.ofStore store startMillis config.cacheTtlMs
  let w : World := { surroundings with
    config, store, cache, cacheClock := .shifted startMillis, platform := {}, windows := {},
    focus := ⟨true, !away⟩, notifications := true, sessions := [{}] }
  if Bridge.shouldPrompt w then Bridge.markPrompted w else w

/-- What a command that ran prints and how it ends: status, standard output, standard
error, and the world after it. -/
structure Ran where
  exitCode : Option Nat
  stdout : List String
  stderr : List String
  world : World

/-- A command that failed before its loop. -/
def Ran.failed (f : Failure) (out : List String) (w : World) : Ran := ⟨some 1, out, f.lines, w⟩

/-- Run `cache`. -/
def runCache (action : CacheAction) (w : World) : Ran :=
  let (c, store) := ResponseCache.ofStore w.store w.cacheNow defaultCacheTtl
  match action with
  | .clearUserData =>
    let (n, _, store) := c.clearUserData store
    ⟨some 0, ["🧹 Removed " ++ toString n ++ " cached responses with user data"], [],
      { w with store }⟩
  | .clear =>
    let (_, store) := c.clear store
    ⟨some 0, ["🧹 Cache cleared"], [], { w with store }⟩
  | .sweep =>
    let (n, c, store) := c.cleanExpired store w.cacheNow
    ⟨some 0, ["🧹 Removed " ++ toString n ++ " expired responses, " ++ toString c.size ++ " left"],
      [], { w with store }⟩

/-- The end of an interactive command: the loop's output, or the run stuck. -/
def Screen.ran (t : Screen) : Ran :=
  ⟨if t.console.stuck then none else some 0, t.console.out, [], t.scene.world⟩

/-- Run `whoami`. -/
def runWhoami (w : World) : Ran :=
  let (a, scene) := Scene.perform { pool := { state := w } } Identity.resolve
  match a with
  | some a =>
    let line := if a.isRegistered then "👤 Registered user " ++ a.id else "👤 Anonymous visitor " ++ a.id
    ⟨some 0, [line], [], scene.world⟩
  | none => ⟨none, [], [], scene.world⟩

/-- The prompt of `chat`. -/
def chatPrompt : String := "💬 Type a message and press enter. /away, /back, /goto, /quit"

/-- The prompt of `seller`. -/
def sellerPrompt : String :=
  "📖 /list, /open <chat>, /toggle <listing>, /delete, /refresh, /away, /back, /goto, /quit"

/-- Run `chat`. -/
def runChat (listing seller : Option Int) (happenings : List Happening) (w : World) : Ran :=
  let t : Screen := { console := {}, scene := { pool := { state := w } } }
  let (r, t) := t.perform .chat (Session.openListing 0 listing seller)
  match r with
  | none => t.ran
  | some (.error e) => Ran.failed ⟨"Failed to open chat", chatCauses e⟩ [] t.scene.world
  | some (.ok _) =>
    let t := t.say [chatPrompt]
    let t := (t.pause .chat Screen.quietMs).loop .chat happenings
    let stuck := t.console.stuck
    let (_, t) := t.perform .chat (Session.close 0)
    let t := { t with console := { t.console with stuck := stuck || t.console.stuck } }
    t.ran

/-- Run `seller`. -/
def runSeller (happenings : List Happening) (w : World) : Ran :=
  let t : Screen := { console := {}, scene := { pool := { state := w } } }
  let (r, t) := t.perform .seller Inbox.init
  match r with
  | none => t.ran
  | some (.error e) =>
    Ran.failed ⟨"The seller panel needs a signed-in account", registryCauses e⟩ [] t.scene.world
  | some (.ok _) =>
    let (r, t) := t.perform .seller Inbox.openPanel
    match r with
    | none => t.ran
    | some (.error e) =>
      Ran.failed ⟨"Failed to load conversations", registryCauses e⟩ t.console.out t.scene.world
    | some (.ok _) =>
      let t := t.printGroups.say [sellerPrompt]
      let t := (t.pause .seller Screen.quietMs).loop .seller happenings
      let stuck := t.console.stuck
      let (_, t) := t.perform .seller Inbox.closePanel
      let t := { t with console := { t.console with stuck := stuck || t.console.stuck } }
      t.ran

/-- The configuration a command line loads, with its `--origin`, and the data directory it
names. -/
def loadConfig (env : Environment) (machine : Machine) (args : Args) :
    Except Failure (ChatConfig × String) := do
  let config ← match args.config with
    | none => pure {}
    | some path =>
      let context := "Failed to load config from " ++ path
      match machine.readFile path with
      | .error e => throw ⟨context, configCauses (.io e.message)⟩
      | .ok text =>
        match ChatConfig.load text with
        | .error e => throw ⟨context, configCauses e⟩
        | .ok c => pure c
  let config := match args.origin with
    | some o => { config with origin := o }
    | none => config
  pure (config, config.dataDir.getD env.dataDir)

/-- Run the command of a command line that reads. -/
def runArgs (env : Environment) (machine : Machine) (surroundings : World) (startMillis : Int)
    (happenings : List Happening) (args : Args) : Outcome :=
  let fail (f : Failure) (m : Machine) : Outcome := ⟨some 1, [], f.lines, m, surroundings⟩
  match loadConfig env machine args with
  | .error f => fail f machine
  | .ok (config, dir) =>
    match machine.createDirAll dir with
    | .error e => fail ⟨"Failed to create " ++ dir, [e.message]⟩ machine
    | .ok machine =>
      let dbPath := ChatConfig.databaseIn dir
      match machine.openDatabase dbPath with
      | .error e => fail ⟨"Failed to open local database", openCauses e⟩ machine
      | .ok (store, machine) =>
        let ran := match args.command with
          | .cache action =>
            runCache action { surroundings with config, store, cacheClock := .shifted startMillis }
          | command =>
            let w := connectedWorld surroundings config store startMillis args.away
            match command with
            | .whoami => runWhoami w
            | .chat listing seller => runChat listing seller happenings w
            | .seller => runSeller happenings w
            | .cache _ => ⟨some 0, [], [], w⟩
        let machine := machine.put dbPath (.database { ran.world.store with quota := none })
        ⟨ran.exitCode, ran.stdout, ran.stderr, machine, ran.world⟩

/-- Run the client on a command line. `surroundings` is the world around it (the backend,
the socket server), and `startMillis` the wall clock when it starts. -/
def run (env : Environment) (machine : Machine) (surroundings : World) (startMillis : Int)
    (words : List String) (happenings : List Happening) : Outcome :=
  match readCommandLine words with
  | .print lines => ⟨some 0, lines, [], machine, surroundings⟩
  | .refuse lines => ⟨some 2, [], lines, machine, surroundings⟩
  | .run args => runArgs env machine surroundings startMillis happenings args

end Terminal

end MarketChat
