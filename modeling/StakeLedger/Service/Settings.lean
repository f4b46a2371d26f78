import StakeLedger.Service.Duration

/-!
# Settings

The settings of a deployment: where data are kept, which node to ask for the tip of the chain, how
the database is retried and how often the scanner runs. Sections of settings have defaults.
-/

namespace StakeLedger

/-- How the database is used; each of the fields has a default. -/
structure DatabaseSettings where
  /-- How often a call that met a busy or unreachable database is repeated. -/
  maxRetries : UInt64 := 5
  /-- How long to wait before repeating a call. -/
  backoff : Duration := { seconds := 0, nanos := 500000000 }
  /-- The size of the connection pool. -/
  maxConnections : UInt32 := 8
  deriving DecidableEq

instance : Inhabited DatabaseSettings := ⟨{}⟩

/-- How the expiry scanner runs; each of the fields has a default. -/
structure ScannerSettings where
  /-- The time between two scans. -/
  interval : Duration := { seconds := 10, nanos := 0 }
  /-- The number of markers read at once, which is the `limit` of `Request.dueMarkers`. -/
  pageSize : UInt64 := 100
  deriving DecidableEq

instance : Inhabited ScannerSettings := ⟨{}⟩

/-- How to reach the Bitcoin node: the address of its interface, and the user to authenticate. -/
structure NodeSettings where
  url : String
  user : String
  password : String
  deriving DecidableEq

/-- The settings of a deployment. The sections `database` and `scanner` have defaults. -/
structure Settings where
  /-- The directory data are kept in. -/
  dataDirectory : String
  node : NodeSettings
  database : DatabaseSettings := {}
  scanner : ScannerSettings := {}
  /-- The number of worker threads, if not the default one. -/
  threads : Option UInt64 := none
  /-- How long to wait for the workers on shutdown, if not as long as by default. -/
  shutdownTimeout : Option Duration := none
  deriving DecidableEq

namespace Settings

/-- The path of the database in a `directory`. -/
def databaseIn (directory : String) : String :=
  if directory.isEmpty || directory.endsWith "/" then directory ++ "staking.db"
  else directory ++ "/staking.db"

/-- The path of the database of the deployment, in its data directory. -/
def databasePath (s : Settings) : String := databaseIn s.dataDirectory

end Settings

end StakeLedger
