import StakeLedger.Data.Json.Fault
import StakeLedger.Delegation.State

/-!
# Store Failures

A store fails for causes of its own: the memory store when a signature belongs to no delegation, the
database when its driver fails, when a stored value does not fit, or when data contradict each
other. Failures that come from contention or connectivity are transient: the same call may succeed
later.
-/

namespace StakeLedger

/-- What a text column was expected to hold when it could not be decoded. -/
inductive EncodedValue where
  | txid
  | key
  | signature
  | transaction
  deriving DecidableEq, Repr

/-- The name of the expected value in the message of `ColumnFailure.undecodable`. -/
def EncodedValue.name : EncodedValue → String
  | txid => "Txid"
  | key => "XOnlyPublicKey"
  | signature => "schnorr::Signature"
  | transaction => "Transaction"

/-- What a column of numbers was expected to hold when it held no integer. -/
inductive ExpectedNumber where
  | word
  | amount
  | height
  /-- A height, in a column that may hold nothing. -/
  | optionalHeight
  | version
  deriving DecidableEq, Repr

/-- The name of the expected number in the message of `ColumnFailure.notInteger`. -/
def ExpectedNumber.name : ExpectedNumber → String
  | word => "u32"
  | amount => "staking_db::persistent::types::DbAmount"
  | height => "staking_db::persistent::types::DbHeight"
  | optionalHeight => "core::option::Option<staking_db::persistent::types::DbHeight>"
  | version => "i64"

/-- What a column of numbers holds when it does not hold an integer: an update can make a number in
floating point of an integer that leaves its range. -/
inductive NonInteger where
  | real
  | text
  deriving DecidableEq, Repr

/-- The name of the contents of the column in the message of `ColumnFailure.notInteger`. -/
def NonInteger.name : NonInteger → String
  | real => "REAL"
  | text => "TEXT"

/-- Why the value that is stored in a column cannot be read. -/
inductive ColumnFailure where
  | negativeHeight
  /-- The text in the column is not the form of a `value`. -/
  | undecodable (value : EncodedValue)
  /-- The text in the column is not the name of a state, of a sub state or of an output. -/
  | unknownName (name : UnknownName)
  /-- The number is above the range of its type. -/
  | numberTooLarge
  /-- The number is below the range of its type. -/
  | numberTooSmall
  /-- The text in the column is not a list of keys in JSON. -/
  | malformedKeys (misreading : Json.Misreading)
  /-- The column holds `found` where the `expected` number would be an integer. -/
  | notInteger (expected : ExpectedNumber) (found : NonInteger)
  deriving DecidableEq, Repr

/-- The text shown for a value that cannot be read, without the name of its column. -/
def ColumnFailure.message : ColumnFailure → String
  | negativeHeight => "error occurred while decoding: Failed to decode negative height"
  | undecodable value => s!"error occurred while decoding: Failed to decode {value.name}"
  | unknownName name => name.message
  | numberTooLarge => "number too large to fit in target type"
  | numberTooSmall => "number too small to fit in target type"
  | malformedKeys misreading => misreading.message
  | notInteger expected found =>
    s!"mismatched types; Rust type `{expected.name}` (as SQL type `INTEGER`) is not compatible " ++
      s!"with SQL type `{found.name}`"

/-- A failure of the database driver: of the connection, of a statement, or of a column. -/
inductive DriverFailure where
  /-- No connection became free in time. -/
  | poolTimedOut
  /-- The connection broke, with the system's own `text`. -/
  | inputOutput (text : String)
  /-- A query that has to return a row returned none. -/
  | rowNotFound
  /-- The database reported the result code `code`. -/
  | reported (code : Nat) (text : String)
  /-- The column `name` of a row cannot be read. -/
  | column (name : String) (cause : ColumnFailure)
  deriving DecidableEq, Repr

namespace DriverFailure

/-- The failure of a statement while the database file is locked by another connection. -/
def locked : DriverFailure := reported 5 "database is locked"

/-- The failure of a search in a text that is not in JSON. -/
def malformedJson : DriverFailure := reported 1 "malformed JSON"

/-- The text shown for a driver failure; the one of a column names the column. -/
def message : DriverFailure → String
  | poolTimedOut => "pool timed out while waiting for an open connection"
  | inputOutput text => s!"error communicating with database: {text}"
  | rowNotFound => "no rows returned by a query that expected to return at least one row"
  | reported code text => s!"error returned from database: (code: {code}) {text}"
  | column name cause => s!"error occurred while decoding column \"{name}\": {cause.message}"

/-- Whether a driver failure comes from contention or connectivity. The low byte of a result code
tells a busy database, `5`, and a locked table, `6`. -/
def isTransient : DriverFailure → Bool
  | poolTimedOut | inputOutput _ => true
  | reported code _ => code % 256 == 5 || code % 256 == 6
  | rowNotFound | column _ _ => false

end DriverFailure

/-- A failure of the database store. -/
inductive DatabaseError where
  | driver (failure : DriverFailure)
  /-- A value does not convert to the type expected. -/
  | conversion (text : String)
  /-- The data do not allow the request, such as a signature for a delegation that is not there. -/
  | data (text : String)
  deriving DecidableEq, Repr

namespace DatabaseError

/-- The text shown for a failure of the database store. -/
def message : DatabaseError → String
  | driver failure => s!"sqlite: {failure.message}"
  | conversion text => s!"conversion: {text}"
  | data text => s!"data: {text}"

/-- Whether a failure comes from contention or connectivity, which only a driver failure can. -/
def isTransient : DatabaseError → Bool
  | driver failure => failure.isTransient
  | conversion _ | data _ => false

end DatabaseError

/-- A failure of a store call, in either store. -/
inductive StoreError where
  /-- The memory store has no delegation to sign for. -/
  | notFound
  | database (error : DatabaseError)
  deriving DecidableEq, Repr

namespace StoreError

/-- The text shown for a failed store call, which begins with the kind of store. -/
def message : StoreError → String
  | notFound => "memory: delegation not found"
  | database error => s!"sqlite: {error.message}"

/-- Whether the same call may succeed later. The memory store has only lasting failures. -/
def isTransient : StoreError → Bool
  | notFound => false
  | database error => error.isTransient

end StoreError

end StakeLedger
