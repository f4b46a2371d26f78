import StakeLedger.Exchange.Form
import StakeLedger.Service.Settings

/-!
# Forms of Settings

The sections on the database and on the scanner may leave out any field, and the settings as a whole
may leave out these sections. In a file of settings the lists that stand for records are roomy; a
section that is exchanged on its own is given by a list of the right length.
-/

namespace StakeLedger.Form

/-- Durations, as records of whole seconds and of the nanoseconds beyond them. -/
def duration (roomy : Bool := false) : Form Duration := Layout.form {
  names := ["secs", "nanos"]
  closed := true
  roomy
  values := fun d => [word64.write d.seconds, word32.write d.nanos]
  ofFields := fun
    | [seconds, nanos] => do Duration.ofParts? (← word64.required seconds) (← word32.required nanos)
    | _ => none }

/-- The section on the database, every field of which may be left out. -/
def databaseSettings (roomy : Bool := false) : Form DatabaseSettings := Layout.form {
  names := ["max_retry_count", "backoff_period", "max_connections"]
  least := 0
  roomy
  values := fun s => [word64.write s.maxRetries, (duration roomy).write s.backoff,
    word32.write s.maxConnections]
  ofFields := fun
    | [maxRetries, backoff, maxConnections] => do
      let usual : DatabaseSettings := default
      return {
        maxRetries := ← word64.orDefault usual.maxRetries maxRetries
        backoff := ← (duration roomy).orDefault usual.backoff backoff
        maxConnections := ← word32.orDefault usual.maxConnections maxConnections }
    | _ => none }

/-- The section on the scanner, every field of which may be left out. -/
def scannerSettings (roomy : Bool := false) : Form ScannerSettings := Layout.form {
  names := ["interval", "page_size"]
  least := 0
  roomy
  values := fun s => [(duration roomy).write s.interval, word64.write s.pageSize]
  ofFields := fun
    | [interval, pageSize] => do
      let usual : ScannerSettings := default
      return {
        interval := ← (duration roomy).orDefault usual.interval interval
        pageSize := ← word64.orDefault usual.pageSize pageSize }
    | _ => none }

/-- The section on the node, every field of which has to be given. -/
def nodeSettings : Form NodeSettings := Layout.form {
  names := ["url", "user", "pass"]
  roomy := true
  values := fun s => [text.write s.url, text.write s.user, text.write s.password]
  ofFields := fun
    | [url, user, password] => do
      return {
        url := ← text.required url
        user := ← text.required user
        password := ← text.required password }
    | _ => none }

/-- The settings as a whole; the sections `db` and `expiry_checker` and the last two fields may be
left out. -/
def settings : Form Settings := Layout.form {
  names := ["datadir", "btc_client", "db", "expiry_checker", "num_threads", "shutdown_timeout"]
  roomy := true
  values := fun s => [text.write s.dataDirectory, nodeSettings.write s.node,
    (databaseSettings true).write s.database, (scannerSettings true).write s.scanner,
    word64.optional.write s.threads, (duration true).optional.write s.shutdownTimeout]
  ofFields := fun
    | [dataDirectory, node, database, scanner, threads, shutdownTimeout] => do
      return {
        dataDirectory := ← text.required dataDirectory
        node := ← nodeSettings.required node
        database := ← (databaseSettings true).orDefault default database
        scanner := ← (scannerSettings true).orDefault default scanner
        threads := ← word64.orNone threads
        shutdownTimeout := ← (duration true).orNone shutdownTimeout }
    | _ => none }

end StakeLedger.Form
