import MarketChat.Store.Basic
/-!
# The machine a terminal run sees

The terminal client touches the file system three ways: it reads its configuration file,
creates its data directory, and opens its database inside it. The machine is modelled as
nodes at paths, each a directory, a text file or a database; every ancestor of a node is a
directory. Paths are compared by their components, so `a//b/./c` and `a/b/c` name the same
node.

The failures are the operating system's:

* reading a missing file fails with "No such file or directory", reading a directory with
  "Is a directory", and reading below a file with "Not a directory";
* creating a directory where a file stands fails with "File exists", and below a file with
  "Not a directory"; an existing directory is fine;
* a database cannot be opened where a directory stands. Opening one where nothing stands
  creates it, empty. An open database holds at most five mebibytes.

Main definitions: `Node`, `Machine`, `Machine.readFile`, `Machine.createDirAll`,
`Machine.openDatabase`, `IoError`.
-/

namespace MarketChat

namespace Terminal

/-- Why a file system call failed. -/
inductive IoError where
  | notFound
  | isADirectory
  | notADirectory
  | alreadyExists
  | invalidData
  deriving Repr, DecidableEq

/-- The operating system's sentence for the failure. -/
def IoError.message : IoError → String
  | .notFound => "No such file or directory (os error 2)"
  | .isADirectory => "Is a directory (os error 21)"
  | .notADirectory => "Not a directory (os error 20)"
  | .alreadyExists => "File exists (os error 17)"
  | .invalidData => "stream did not contain valid UTF-8"

/-- What stands at a path. -/
inductive Node where
  | dir
  | file (text : String)
  | database (store : KvStore)
  deriving Repr

/-- The components of a path: its parts between slashes, without empty and `.` parts. An
absolute path keeps its leading slash as a first component. -/
def pathKey (p : String) : List String :=
  let parts := (p.splitOn "/").filter fun c => c ≠ "" && c ≠ "."
  if p.startsWith "/" then "/" :: parts else parts

/-- The nodes of a machine, keyed by their path's components. -/
structure Machine where
  nodes : List (List String × Node) := []
  deriving Repr

namespace Machine

/-- The node standing exactly at a path. -/
def node? (m : Machine) (p : String) : Option Node := m.nodes.lookup (pathKey p)

/-- A node stands at the key, or below it. -/
def holds (m : Machine) (k : List String) : Bool :=
  m.nodes.any fun (k', _) => k.isPrefixOf k'

/-- The node at a key, counting the ancestors of nodes as directories. -/
def at? (m : Machine) (k : List String) : Option Node :=
  match m.nodes.lookup k with
  | some n => some n
  | none => if !k.isEmpty && m.holds k then some .dir else none

/-- Some proper ancestor of the key is not a directory. -/
def belowFile (m : Machine) (k : List String) : Bool :=
  (List.range k.length).any fun i =>
    i > 0 && match m.at? (k.take i) with
      | some .dir | none => false
      | some _ => true

/-- Put a node at a path, replacing what stood there. -/
def put (m : Machine) (p : String) (n : Node) : Machine :=
  let k := pathKey p
  { nodes := (m.nodes.filter (·.1 ≠ k)) ++ [(k, n)] }

/-- The text of a file. -/
def readFile (m : Machine) (p : String) : Except IoError String :=
  let k := pathKey p
  if p.isEmpty then .error .notFound
  else match m.at? k with
    | some (.file t) => .ok t
    | some .dir => .error .isADirectory
    | some (.database _) => .error .invalidData
    | none => .error (if m.belowFile k then .notADirectory else .notFound)

/-- Create a directory and its missing ancestors. -/
def createDirAll (m : Machine) (p : String) : Except IoError Machine :=
  let k := pathKey p
  if k.isEmpty then .ok m
  else if m.belowFile k then .error .notADirectory
  else match m.at? k with
    | some .dir => .ok m
    | some _ => .error .alreadyExists
    | none => .ok (m.put p .dir)

/-- Why a database could not be opened. -/
inductive OpenError where
  /-- Something that is not a database file stands at the path. -/
  | unableToOpen
  /-- A file that is not a database stands at the path. -/
  | notADatabase
  deriving Repr, DecidableEq

/-- The bytes a database holds at most: five mebibytes of keys and values. -/
def databaseQuota : Nat := 5 * 1024 * 1024

/-- Open the database at a path, creating it empty when nothing stands there. The store
opened keeps within `databaseQuota`. -/
def openDatabase (m : Machine) (p : String) : Except OpenError (KvStore × Machine) :=
  let k := pathKey p
  match m.at? k with
  | some (.database s) => .ok ({ s with quota := some databaseQuota }, m)
  | some .dir => .error .unableToOpen
  | some (.file _) => .error .notADatabase
  | none =>
    if m.belowFile k then .error .unableToOpen
    else .ok ({ quota := some databaseQuota }, m.put p (.database {}))

/-- The database at a path, if one stands there. -/
def database? (m : Machine) (p : String) : Option KvStore :=
  match m.node? p with
  | some (.database s) => some s
  | _ => none

end Machine

end Terminal

end MarketChat
