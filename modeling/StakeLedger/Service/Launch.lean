import StakeLedger.Data.Toml.Reader
import StakeLedger.Exchange.Params
import StakeLedger.Exchange.Settings
import StakeLedger.Service.DatabaseName
import StakeLedger.Service.FileTree
import StakeLedger.Service.Flags
import StakeLedger.Service.Logging
import StakeLedger.Service.Node

/-!
# Launching the Service

The service starts in stages: logging, flags, the file of the parameters, the file of the settings,
the database, and the client of the node. The first stage that fails stops it, with an exit code and
a line on the error output. What was made in the file tree by then is left there.
-/

namespace StakeLedger

/-- Why the service does not run, by the stage that failed. -/
inductive LaunchStop where
  | logging (error : LoggingError)
  | flags (stop : FlagsStop)
  /-- The file at `path` cannot be read. -/
  | unreadable (path : String)
  /-- The file at `path` does not say what it has to. -/
  | unparsable (path : String)
  | dataDirectory (path : String)
  | database (path : String)
  /-- The client of the node cannot be set up; the database was opened by then. -/
  | node (error : ChainError)
  deriving DecidableEq, Repr

namespace LaunchStop

/-- The exit code: `0` where the program was only asked for help or its version. -/
def code : LaunchStop → Nat
  | flags .help | flags .version => 0
  | flags _ => 2
  | _ => 1

/-- The text on the error output, at least its first line. -/
def errorText : LaunchStop → String
  | logging error => s!"Error: {error.message}"
  | flags stop => stop.message
  | unreadable path => s!"Error: failed to read TOML file {path}"
  | unparsable path => s!"Error: failed to parse TOML file {path}"
  | dataDirectory path => s!"Error: could not create datadir {path}"
  | database path => s!"Error: could not connect to {path}"
  | node error => s!"Error: {error.message}"

/-- The first line of `errorText`, as it is shown. -/
def errorLine (stop : LaunchStop) : String := Terminal.firstLine stop.errorText

/-- The output of the program that stops, apart from errors. -/
def output (environment : String → Option String) : LaunchStop → String
  | flags .help => Flags.helpText environment
  | flags .version => Flags.versionText
  | _ => ""

end LaunchStop

/-- Everything a running service needs to know: the staking parameters and the settings. -/
structure Configuration where
  registry : Registry
  settings : Settings

/-- A stage of a launch, which changes the file tree and may stop the launch. -/
abbrev Launching := ExceptT LaunchStop (StateM FileTree)

namespace Launching

/-- The most bytes the place of a database may take, with the ending of its journal. -/
def databaseLimit : Nat := 512

/-- The stage of a `result` that does not depend on the file tree; `stop` tells its failures. -/
def stage {ε α : Type} (stop : ε → LaunchStop) (result : Except ε α) : Launching α :=
  ExceptT.mk (pure (result.mapError stop))

/-- Reads the file at `path`, which has to say a value of type `α` by `read?`. -/
def readFile {α : Type} (path : String) (read? : Value → Option α) : Launching α := do
  match (← get).text? path with
  | none => throw (.unreadable path)
  | some text =>
    match (Toml.read? text).bind read? with
    | some a => return a
    | none => throw (.unparsable path)

/-- The registry that the value `v` stands for, if all its entries can be registered. -/
def registry? (v : Value) : Option Registry := (Form.readRegistry? v true).bind Except.toOption

/-- Starts logging and reads flags and files. -/
def load (environment : String → Option String) (arguments : List String) :
    Launching Configuration := do
  stage .logging (startLogging false (environment collectorVariable))
  let flags ← stage .flags (Flags.parse arguments environment)
  let registry ← readFile flags.params registry?
  let settings ← readFile flags.config Form.settings.read?
  return { registry, settings }

/-- The `tree` with the database at `place`, if there is one or can be one. -/
def database? (tree : FileTree) (place : Place) : Option FileTree :=
  let size := place.foldl (fun size name => size + name.utf8ByteSize + 1) 0
  if databaseLimit < size + "-journal".length then none
  else
    match tree.at? place with
    | none => some (tree.put place .database)
    | some .database => some tree
    -- an empty file is a database without tables
    | some (.text "") => some (tree.put place .database)
    | some _ => none

/-- The `tree` with the database of a `name`, if it can be opened. -/
def opened? (tree : FileTree) (name : String) : Option FileTree := do
  match ← DatabaseName.target? name with
  | .memory => some tree
  | .file path mayMake =>
    match tree.destination path with
    | .found place => database? tree place
    | .free place => if mayMake then database? tree place else none
    | _ => none

/-- Makes the data directory and opens the database in it. -/
def openDatabase (settings : Settings) : Launching Unit := do
  let directory := settings.dataDirectory
  -- anything that is there already passes for a directory until the database is opened
  unless (← get).isFound directory do
    match (← get).makeDirectory? directory with
    | some tree => set tree
    | none => throw (.dataDirectory directory)
  -- without connections no database can be opened
  let tree ← get
  match
      if settings.database.maxConnections = 0 then none
      else opened? tree settings.databasePath with
  | some tree => set tree
  | none => throw (.database settings.databasePath)

/-- Runs all stages, in the order in which they can stop the launch. -/
def launch (environment : String → Option String) (arguments : List String) :
    Launching Configuration := do
  let configuration ← load environment arguments
  openDatabase configuration.settings
  stage .node (Node.connect configuration.settings.node)
  return configuration

end Launching

end StakeLedger
