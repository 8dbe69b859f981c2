import MarketChat.Terminal.Run
/-!
# The `lais` program

The terminal client as a program. It reads what a run needs from the machine (the
configuration file the command line names, and the database in the data directory), runs
the client (`Terminal.run`), prints what the run printed, writes the database back and exits
with the run's status.

The program has no network access, so the backend is out of reach: every request fails at
once and every connection is refused, and the client works with what it has stored. The
whole of standard input is read before an interactive command runs. The database is kept in
`lais.db` in the data directory as a JSON object of strings. The runtime offers no calendar
clock, so the monotonic clock stands in for the wall clock; expiry of cached responses across
runs is therefore approximate.
-/

namespace MarketChat

namespace Terminal

/-- What stands at a path, probed by reading it as text: a file with its text, a directory,
or nothing. -/
def probe (path : String) : IO (Option Node) := do
  try
    return some (.file (← IO.FS.readFile path))
  catch
    | .inappropriateType .. => return some .dir
    | .otherError .. => return some .dir
    | _ => return none

/-- A database read from its file: a JSON object whose values are kept as strings. -/
def databaseOf (text : String) : KvStore :=
  match Reader.run Reader.value text with
  | .ok (.obj ms) => { entries := (ms.map fun (kv : String × Json) =>
      (kv.1, match kv.2 with
        | .str s => s
        | other => other.compact)).mergeSort fun a b => decide (a.1 ≤ b.1) }
  | _ => {}

/-- The text a database is written as. -/
def databaseText (s : KvStore) : String :=
  (Json.obj (s.entries.map fun (k, v) => (k, Json.str v))).compact

/-- The machine as far as a command line needs it: the configuration file it names, the data
directory and the database in it. -/
def machineFor (env : Environment) (args : Args) : IO Machine := do
  let mut m : Machine := {}
  if let some path := args.config then
    if let some n ← probe path then m := m.put path n
  if let .ok (_, dir) := loadConfig env m args then
    if let some (.file _) ← probe dir then m := m.put dir (.file "")
    let db := ChatConfig.databaseIn dir
    match ← probe db with
    | some (.file text) => m := m.put db (.database (databaseOf text))
    | some n => m := m.put db n
    | none => pure ()
  return m

/-- All of standard input, as bytes. -/
def typedInput : IO (List UInt8) := do
  return (← (← IO.getStdin).readBinToEnd).data.toList

/-- Run the program on its arguments: its exit status. -/
def runProgram (words : List String) : IO UInt32 := do
  let env : Environment := { home := ← IO.getEnv "HOME", dataHome := ← IO.getEnv "XDG_DATA_HOME" }
  let surroundings : World := { backend := { reachable := false }, sockets := { refuse := true } }
  let startMillis : Int := (← IO.monoMsNow : Nat)
  let (machine, happenings, dbPath) ← match readCommandLine words with
    | .run args => do
      let m ← machineFor env args
      let input ← match args.command with
        | .chat .. | .seller => pure [Happening.typed (← typedInput)]
        | _ => pure []
      let dbPath := (loadConfig env m args).toOption.map fun (_, dir) => (dir, ChatConfig.databaseIn dir)
      pure (m, input, dbPath)
    | _ => pure ({}, [], none)
  let o := run env machine surroundings startMillis words happenings
  for l in o.stdout do IO.println l
  for l in o.stderr do IO.eprintln l
  if let some (dir, db) := dbPath then
    if let some s := o.machine.database? db then
      IO.FS.createDirAll dir
      IO.FS.writeFile db (databaseText s)
  return (o.exitCode.getD 1).toUInt32

end Terminal

end MarketChat

/-- The `lais` command. -/
def main (args : List String) : IO UInt32 := MarketChat.Terminal.runProgram args
