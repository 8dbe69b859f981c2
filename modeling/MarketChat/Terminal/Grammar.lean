/-!
# The terminal client's command line

The command line of `lais`, the terminal client: global options, then one command.

```
lais [--origin <ORIGIN>] [--config <CONFIG>] [--away] <COMMAND>
  whoami
  chat [-l <LISTING>] [-s <SELLER>]
  seller
  cache <clear-user-data | clear | sweep>
  help [COMMAND]...
```

Every command takes `-h`/`--help`; the program itself also takes `-V`/`--version`. A
command with subcommands has a `help` subcommand too.

This module holds the grammar as data, one `Spec` per command, and renders the texts the
grammar determines: the usage line and the help page. A help page is the command's
description, its usage, then sections for its subcommands, operands and options, each
section a table whose first column is as wide as its widest entry.

Main definitions: `Flag`, `Spec`, `Spec.find`, `Spec.usage`, `Spec.helpPage`.
-/

namespace MarketChat

namespace Terminal

/-- The program's name on the command line. -/
def programName : String := "lais"

/-- The package name and version `--version` prints. -/
def versionLine : String := "lais-cli 0.0.1"

/-- What a flag's value is read as. -/
inductive ValueKind where
  | text
  | int64
  deriving Repr, DecidableEq

/-- An option: its short and long names, the placeholder of its value when it takes one,
and its help. -/
structure Flag where
  short : Option Char := none
  long : String
  value : Option (String × ValueKind) := none
  help : String := ""
  deriving Repr, DecidableEq

namespace Flag

/-- The flag takes a value. -/
def takesValue (f : Flag) : Bool := f.value.isSome

/-- The flag as errors name it: `--listing <LISTING>`, `--away`. -/
def display (f : Flag) : String :=
  "--" ++ f.long ++ match f.value with
    | some (v, _) => " <" ++ v ++ ">"
    | none => ""

/-- The flag as its help row names it: `-l, --listing <LISTING>`, `    --away`. -/
def column (f : Flag) : String :=
  let names := match f.short with
    | some c => "-" ++ c.toString ++ ", --" ++ f.long
    | none => "    --" ++ f.long
  names ++ match f.value with
    | some (v, _) => " <" ++ v ++ ">"
    | none => ""

/-- `-h`, `--help`. -/
def helpFlag : Flag := { short := some 'h', long := "help", help := "Print help" }

/-- `-V`, `--version`. -/
def versionFlag : Flag := { short := some 'V', long := "version", help := "Print version" }

/-- Help and version are answered by the parser itself. -/
def isBuiltin (f : Flag) : Bool := f.long = "help" || f.long = "version"

end Flag

/-- A command: its path below the program, description, options, subcommands with their
descriptions, and the operands it takes. -/
structure Spec where
  path : List String
  about : String
  flags : List Flag
  subcommands : List (String × String) := []
  operands : Option (String × String) := none
  deriving Repr

namespace Spec

/-- The description of the `help` subcommand. -/
def helpAbout : String := "Print this message or the help of the given subcommand(s)"

/-- The `help` subcommand below `path`. -/
def helpCommand (path : List String) : Spec where
  path := path ++ ["help"]
  about := helpAbout
  flags := []
  operands := some ("[COMMAND]...", "Print help for the subcommand(s)")

/-- The program itself. -/
def root : Spec where
  path := []
  about := "Terminal client for Lais marketplace chats"
  flags := [
    { long := "origin", value := some ("ORIGIN", .text),
      help := "Backend origin, overrides the config file" },
    { long := "config", value := some ("CONFIG", .text), help := "JSON config file" },
    { long := "away",
      help := "Start away from the terminal so incoming messages raise notifications" },
    Flag.helpFlag, Flag.versionFlag]
  subcommands := [
    ("whoami", "Show who the backend thinks you are"),
    ("chat", "Chat with the seller of a listing"),
    ("seller", "Open the seller panel"),
    ("cache", "Manage the local response cache"),
    ("help", helpAbout)]

/-- The descriptions of the cache subcommands. -/
def cacheActions : List (String × String) := [
  ("clear-user-data", "Drop cached responses holding personal data (run on logout)"),
  ("clear", "Drop every cached response"),
  ("sweep", "Drop expired responses")]

/-- A command taking only `--help`. -/
def plain (path : List String) (about : String) : Spec := { path, about, flags := [Flag.helpFlag] }

/-- The `chat` command. -/
def chat : Spec where
  path := ["chat"]
  about := "Chat with the seller of a listing"
  flags := [
    { short := some 'l', long := "listing", value := some ("LISTING", .int64) },
    { short := some 's', long := "seller", value := some ("SELLER", .int64) },
    Flag.helpFlag]

/-- The `cache` command. -/
def cache : Spec where
  path := ["cache"]
  about := "Manage the local response cache"
  flags := [Flag.helpFlag]
  subcommands := cacheActions ++ [("help", helpAbout)]

/-- The command at a path below the program, if there is one. -/
def find : List String → Option Spec
  | [] => some root
  | ["help"] => some (helpCommand [])
  | ["whoami"] => some (plain ["whoami"] "Show who the backend thinks you are")
  | ["chat"] => some chat
  | ["seller"] => some (plain ["seller"] "Open the seller panel")
  | ["cache"] => some cache
  | ["cache", "help"] => some (helpCommand ["cache"])
  | ["cache", a] => (cacheActions.lookup a).map (plain ["cache", a])
  | _ => none

/-- The subcommand names, `help` included. -/
def subcommandNames (s : Spec) : List String := s.subcommands.map (·.1)

/-- The command's name with the program's: `lais chat`. -/
def name (s : Spec) : String := " ".intercalate (programName :: s.path)

/-- The usage line's body: the name, `[OPTIONS]` when the command has options of its own,
its operands, and `<COMMAND>` when it has subcommands. -/
def usage (s : Spec) : String :=
  s.name ++ (if s.flags.any (!·.isBuiltin) then " [OPTIONS]" else "") ++
    (match s.operands with
     | some (o, _) => " " ++ o
     | none => "") ++
    (if s.subcommands.isEmpty then "" else " <COMMAND>")

/-- The usage line naming the given flags, each once, instead of `[OPTIONS]`. -/
def usageNaming (s : Spec) (used : List Flag) : String :=
  if used.isEmpty then s.usage
  else
    let names := used.foldl (fun acc f => if acc.contains f.display then acc else acc ++ [f.display]) []
    s.name ++ String.join (names.map (" " ++ ·)) ++
      (if s.subcommands.isEmpty then "" else " <COMMAND>")

/-- A text padded with spaces to a width. -/
def padRight (w : Nat) (t : String) : String := t ++ String.ofList (List.replicate (w - t.length) ' ')

/-- A section of the help page: its title, then one row per entry, the first column as wide
as the widest entry. -/
def tableSection (title : String) (rows : List (String × String)) : List String :=
  if rows.isEmpty then []
  else
    let w := rows.foldl (fun m r => max m r.1.length) 0
    ["", title ++ ":"] ++ rows.map fun (n, h) => "  " ++ padRight w n ++ "  " ++ h

/-- The help page, one line per entry. -/
def helpPage (s : Spec) : List String :=
  [s.about, "", "Usage: " ++ s.usage] ++
    tableSection "Commands" s.subcommands ++
    tableSection "Arguments" s.operands.toList ++
    tableSection "Options" (s.flags.map fun f => (f.column, f.help))

end Spec

end Terminal

end MarketChat
