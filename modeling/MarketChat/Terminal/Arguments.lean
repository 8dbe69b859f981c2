import MarketChat.Terminal.Grammar
import MarketChat.Text.Decimal
import MarketChat.Text.Similarity
/-!
# Reading the command line

The arguments are read left to right, one command at a time. Within a command:

* a word naming one of its subcommands starts that subcommand, which reads the rest; the
  word `help` instead prints the help page of the command the following words name;
* `--` ends the options: every later word is an operand;
* `--name` or `--name=value` is a long option, `-abc` a cluster of short ones, where an
  option taking a value takes the rest of the cluster (less a leading `=`) or, when nothing
  is left, the next word;
* any other word is an operand, which no command here accepts.

An option that takes its value from the next word takes that word whatever it is, a
subcommand's name included, unless it starts with `-`. Such a value is *held*: it is
settled (a second occurrence of the option refused, a number checked to be a 64-bit integer)
only when the next option, `--` or subcommand is read, or when the words run out; an option
still waiting for its value then fails. A word that is refused outright (an unknown option,
an operand, a value given to a switch) drops the held value unchecked, so its own report is
the one shown. An attached value (`--listing=7`, `-l7`) is settled at once. Help and version
are answered as soon as they are read, after any held value is settled.

Once a command's words are read, a command that needs a subcommand shows its help when it got
no words, and otherwise says a subcommand is missing.

Every refusal is a short report: `error: ` and the problem, tips, the usage line when it
helps, and a pointer to `--help`. Unknown words get a tip naming the most similar option or
subcommand (`Text.similarTo`); the usage line of an unknown option or of a value given to a
switch names the options settled so far.

Main definitions: `Command`, `Args`, `Decision`, `Terminal.readCommandLine`.
-/

namespace MarketChat

namespace Terminal

/-- What the `cache` command does. -/
inductive CacheAction where
  | clearUserData
  | clear
  | sweep
  deriving Repr, DecidableEq

/-- The command to run. -/
inductive Command where
  | whoami
  | chat (listing seller : Option Int)
  | seller
  | cache (action : CacheAction)
  deriving Repr, DecidableEq

/-- A command line that reads as a command: the global options and the command. -/
structure Args where
  origin : Option String := none
  config : Option String := none
  away : Bool := false
  command : Command
  deriving Repr

/-- What the command line decides: print a text and succeed, refuse with a report, or run
a command. -/
inductive Decision where
  | print (lines : List String)
  | refuse (lines : List String)
  | run (args : Args)
  deriving Repr

/-- The options a command has read, in order, with their values. -/
abbrev Given := List (Flag × Option String)

/-- Where reading one command stands: the options settled so far, the option whose value is
the next word (with that word once it is read), and whether `--` was passed. -/
structure Reading where
  given : Given := []
  held : Option (Flag × Option String) := none
  trailing : Bool := false

/-- The held option still waits for its word. -/
def Reading.waiting (r : Reading) : Bool :=
  match r.held with
  | some (_, none) => true
  | _ => false

/-- How reading one command ended. -/
inductive ReadEnd where
  | done (given : Given)
  | enter (sub : String) (rest : List String) (given : Given)
  | stop (d : Decision)

/-- The pointer every report ends with. -/
def moreInformation : String := "For more information, try '--help'."

/-- A report: the problem's lines, tips, and the usage line. -/
def report (problem : List String) (tips : List String) (usage : Option String) : Decision :=
  let problem := match problem with
    | first :: more => ("error: " ++ first) :: more
    | [] => []
  let tips := if tips.isEmpty then [] else "" :: tips.map ("  tip: " ++ ·)
  let usage := match usage with
    | some u => ["", "Usage: " ++ u]
    | none => []
  .refuse (problem ++ tips ++ usage ++ ["", moreInformation])

/-- A word in quotes. -/
def quoted (w : String) : String := "'" ++ w ++ "'"

/-- The tip naming similar words. -/
def similarTip (what : String) : List String → String
  | [w] => "a similar " ++ what ++ " exists: " ++ quoted w
  | ws => "some similar " ++ what ++ "s exist: " ++ ", ".intercalate (ws.map quoted)

namespace Spec

/-- An option waiting for a value met no value. -/
def emptyValue (f : Flag) : Decision :=
  report ["a value is required for " ++ quoted f.display ++ " but none was supplied"] [] none

/-- A value that does not read as the option's kind. -/
def invalidValue (f : Flag) (v : String) (e : IntError) : Decision :=
  report ["invalid value " ++ quoted v ++ " for " ++ quoted f.display ++ ": " ++ e.message] [] none

/-- An option given twice. -/
def repeated (s : Spec) (f : Flag) : Decision :=
  report ["the argument " ++ quoted f.display ++ " cannot be used multiple times"] [] (some s.usage)

/-- A value attached to an option that takes none. -/
def unexpectedValue (s : Spec) (f : Flag) (v : String) (used : List Flag) : Decision :=
  report ["unexpected value " ++ quoted v ++ " for " ++ quoted f.display ++
    " found; no more were expected"] [] (some (s.usageNaming used))

/-- A word the command does not take. -/
def unexpected (w : String) (tips : List String) (usage : String) : Decision :=
  report ["unexpected argument " ++ quoted w ++ " found"] tips (some usage)

/-- A word that names no subcommand. -/
def unrecognized (s : Spec) (w : String) (similar : List String) : Decision :=
  report ["unrecognized subcommand " ++ quoted w]
    (if similar.isEmpty then [] else [similarTip "subcommand" similar]) (some s.usage)

/-- A subcommand named after `--`. -/
def afterDoubleDash (s : Spec) (w : String) : Decision :=
  unexpected w ["subcommand " ++ quoted w ++ " exists; to use it, remove the '--' before it"]
    s.usage

/-- A command that needs a subcommand got none. -/
def missingSubcommand (s : Spec) : Decision :=
  report [quoted s.name ++ " requires a subcommand but one was not provided",
    "  [subcommands: " ++ ", ".intercalate s.subcommandNames ++ "]"] [] (some s.usage)

/-- The flags read so far. -/
def usedFlags (g : Given) : List Flag := g.map (·.1)

/-- Settle a value for an option: a second occurrence is refused, then the value is
checked. -/
def accept (s : Spec) (r : Reading) (f : Flag) (v : String) : Except Decision Reading := do
  if r.given.any (·.1.long = f.long) then throw (s.repeated f)
  match f.value with
  | some (_, .int64) =>
    match Text.readInt64 v with
    | .error e => throw (invalidValue f v e)
    | .ok _ => pure ()
  | _ => pure ()
  pure { r with given := r.given ++ [(f, some v)] }

/-- Settle the held option: it fails if it still waits for its value. -/
def settleHeld (s : Spec) (r : Reading) : Except Decision Reading :=
  match r.held with
  | none => .ok r
  | some (f, none) => .error (emptyValue f)
  | some (f, some v) => s.accept { r with held := none } f v

/-- Drop the held option before a refusal: a value that would settle counts as given, an
option given twice counts as not given, and a waiting option is forgotten. -/
def dropHeld (r : Reading) : Reading :=
  match r.held with
  | some (f, some v) =>
    let r := { r with held := none }
    if r.given.any (·.1.long = f.long) then { r with given := r.given.filter (·.1.long ≠ f.long) }
    else { r with given := r.given ++ [(f, some v)] }
  | _ => { r with held := none }

/-- Take an attached value for an option. -/
def takeValue (s : Spec) (r : Reading) (f : Flag) (v : String) : Except Decision Reading := do
  let r ← s.settleHeld r
  s.accept r f v

/-- Take an option that has no value: help and version answer at once. -/
def takeSwitch (s : Spec) (r : Reading) (f : Flag) : Except Decision Reading := do
  let r ← s.settleHeld r
  if f.long = "help" then throw (.print s.helpPage)
  if f.long = "version" then throw (.print [versionLine])
  if r.given.any (·.1.long = f.long) then throw (s.repeated f)
  pure { r with given := r.given ++ [(f, none)] }

/-- An option that takes its value from the next word. -/
def await (s : Spec) (r : Reading) (f : Flag) : Except Decision Reading := do
  let r ← s.settleHeld r
  pure { r with held := some (f, none) }

/-- An unknown long option: suggest the most similar option of this command, or else one
of a subcommand named later on the line. -/
def unknownLong (s : Spec) (r : Reading) (name : String) (rest : List String) : Decision :=
  let used := usedFlags r.given
  match (Text.similarTo name (s.flags.map (·.long))).getLast? with
  | some c =>
    let f := (s.flags.find? (·.long = c)).getD { long := c }
    let used := if used.any (·.long = c) then used else used ++ [f]
    unexpected ("--" ++ name) [similarTip "argument" ["--" ++ c]] (s.usageNaming used)
  | none =>
    let elsewhere := s.subcommandNames.filterMap fun sub =>
      match Spec.find (s.path ++ [sub]) with
      | some t =>
        match (Text.similarTo name (t.flags.map (·.long))).getLast?, rest.idxOf? sub with
        | some c, some pos => some (pos, sub, c)
        | _, _ => none
      | none => none
    let best := elsewhere.foldl (fun b x =>
      match b with
      | some y => if x.1 < y.1 then some x else b
      | none => some x) none
    let tips := match best with
      | some (_, sub, c) => [quoted (sub ++ " --" ++ c) ++ " exists"]
      | none => []
    unexpected ("--" ++ name) tips (s.usageNaming used)

/-- Read a long option, its text after the dashes. -/
def readLong (s : Spec) (r : Reading) (body : String) (rest : List String) :
    Except Decision Reading :=
  let cs := body.toList
  let name := String.ofList (cs.takeWhile (· ≠ '='))
  let attached := match cs.dropWhile (· ≠ '=') with
    | _ :: v => some (String.ofList v)
    | [] => none
  match s.flags.find? (·.long = name) with
  | none => .error (s.unknownLong (dropHeld r) name rest)
  | some f =>
    if f.takesValue then
      match attached with
      | some v => s.takeValue r f v
      | none => s.await r f
    else
      match attached with
      | some v => .error (s.unexpectedValue f v (usedFlags r.given ++ [f]))
      | none => s.takeSwitch r f

/-- Read a cluster of short options. -/
def readShorts (s : Spec) : Reading → List Char → Except Decision Reading
  | r, [] => .ok r
  | r, c :: more =>
    match s.flags.find? (·.short = some c) with
    | none => .error (unexpected ("-" ++ c.toString) [] s.usage)
    | some f =>
      if f.takesValue then
        match more with
        | [] => s.await r f
        | '=' :: v => s.takeValue r f (String.ofList v)
        | v => s.takeValue r f (String.ofList v)
      else do
        let r ← s.takeSwitch r f
        readShorts s r more

/-- A word where an operand would stand. -/
def operand (s : Spec) (r : Reading) (w : String) : Decision :=
  if r.trailing && s.subcommandNames.contains w then s.afterDoubleDash w
  else if s.subcommands.isEmpty || r.trailing then unexpected w [] s.usage
  else s.unrecognized w (Text.similarTo w s.subcommandNames)

/-- The help page of the command the words name below `s`. -/
def helpFor (s : Spec) : List String → Decision
  | [] => .print s.helpPage
  | w :: ws =>
    match (if s.subcommandNames.contains w then Spec.find (s.path ++ [w]) else none) with
    | some t => helpFor t ws
    | none => s.unrecognized w []

/-- Read one command's words. -/
def readWords (s : Spec) : Reading → List String → ReadEnd
  | r, [] =>
    match s.settleHeld r with
    | .ok r => .done r.given
    | .error d => .stop d
  | r, w :: rest =>
    if !r.trailing && !r.waiting && s.subcommandNames.contains w then
      if w = "help" then .stop (s.helpFor rest)
      else
        match s.settleHeld r with
        | .ok r => .enter w rest r.given
        | .error d => .stop d
    else if !r.trailing && w = "--" then
      match s.settleHeld r with
      | .ok r => readWords s { r with trailing := true } rest
      | .error d => .stop d
    else if !r.trailing && w.startsWith "--" then
      match s.readLong r (String.ofList (w.toList.drop 2)) rest with
      | .ok r => readWords s r rest
      | .error d => .stop d
    else if !r.trailing && w.startsWith "-" && w ≠ "-" then
      match s.readShorts r (w.toList.drop 1) with
      | .ok r => readWords s r rest
      | .error d => .stop d
    else if r.waiting then
      readWords s { r with held := r.held.map fun (f, _) => (f, some w) } rest
    else .stop (s.operand (dropHeld r) w)

/-- What a command that read all its words without a subcommand decides, when it needed
one. -/
def settle (s : Spec) (g : Given) : Option Decision :=
  if s.subcommands.isEmpty then none
  else if g.isEmpty then some (.refuse s.helpPage)
  else some s.missingSubcommand

/-- Read the words of a command and of the subcommands they start, at most `depth`
levels: each command with what it read. -/
def readLevels : Nat → Spec → List String → Except Decision (List (Spec × Given))
  | 0, _, _ => .ok []
  | depth + 1, s, words =>
    match s.readWords {} words with
    | .stop d => .error d
    | .done g =>
      match s.settle g with
      | some d => .error d
      | none => .ok [(s, g)]
    | .enter sub rest g =>
      match Spec.find (s.path ++ [sub]) with
      | some t => do
        let deeper ← readLevels depth t rest
        pure ((s, g) :: deeper)
      | none => .ok [(s, g)]

end Spec

/-- The value given to an option. -/
def valueOf (g : Given) (long : String) : Option String :=
  (g.find? (·.1.long = long)).bind (·.2)

/-- The option was given. -/
def hasFlag (g : Given) (long : String) : Bool := g.any (·.1.long = long)

/-- A number given to an option. -/
def numberOf (g : Given) (long : String) : Option Int :=
  (valueOf g long).bind fun v => (Text.readInt64 v).toOption

/-- The command the levels read name. -/
def commandOf (levels : List (Spec × Given)) : Option Command :=
  match levels.getLast? with
  | some (s, g) =>
    match s.path with
    | ["whoami"] => some .whoami
    | ["chat"] => some (.chat (numberOf g "listing") (numberOf g "seller"))
    | ["seller"] => some .seller
    | ["cache", "clear-user-data"] => some (.cache .clearUserData)
    | ["cache", "clear"] => some (.cache .clear)
    | ["cache", "sweep"] => some (.cache .sweep)
    | _ => none
  | none => none

/-- What a command line decides. -/
def readCommandLine (words : List String) : Decision :=
  match Spec.readLevels 3 Spec.root words with
  | .error d => d
  | .ok levels =>
    let top := (levels.head?.map (·.2)).getD []
    match commandOf levels with
    | some command =>
      .run { origin := valueOf top "origin", config := valueOf top "config",
             away := hasFlag top "away", command }
    | none => .refuse Spec.root.helpPage

end Terminal

end MarketChat
