import StakeLedger.Database.Row
import StakeLedger.Store.Program

/-!
# The Database

The database holds its rows in the order in which they were inserted. Keys are compared as stored
text, so that a text that reads as the same value is another key all the same. Each request is
answered by one function that either fails, without a change, or answers.

A failing row fails the whole query it belongs to. Where several rows fail, the first one in the
order of the query is reported: delegations by state or insertion, signatures by transaction and
key, markers in their own order.
-/

namespace StakeLedger

/-- The contents of the database: the rows of its four tables, in the order of insertion. -/
structure Database where
  delegations : List DelegationRow
  signatures : List SignatureRow
  markers : List MarkerRow
  cursors : List CursorRow
  deriving DecidableEq, Repr

namespace Database

/-- The database without rows. -/
def empty : Database := ⟨[], [], [], []⟩

instance : Inhabited Database := ⟨empty⟩

/-- What a query gives: a result of type `α`, or a failure. -/
abbrev Outcome (α : Type) := Except DatabaseError α

/-- The row of the delegation whose transaction has the text `txid`. -/
def delegationRow? (db : Database) (txid : String) : Option DelegationRow :=
  db.delegations.find? (·.txid = txid)

/-- The rows of the signatures for the transactions `txids`, by transaction and then by key. -/
def signatureRows (db : Database) (txids : List String) : List SignatureRow :=
  (db.signatures.filter fun r => r.txid ∈ txids).mergeSort fun a b =>
    ((compare a.txid b.txid).then (compare a.key b.key)).isLE

/-- Reads `rows` in turn by `decode`, up to the first that cannot be read. -/
def decodeAll {α β : Type} (decode : α → Except DriverFailure β) (rows : List α) :
    Outcome (List β) :=
  (rows.mapM decode).mapError .driver

/-- Gives each delegation those of `signatures` that are for its transaction. If two delegations
have the same transaction, the first one takes them. -/
def assemble (signatures : List (Txid × XOnlyKey × Signature)) : List Delegation → List Delegation
  | [] => []
  | d :: rest =>
    let (own, others) := signatures.partition (·.1 = d.txid)
    { d with signatures := SortedMap.ofList (own.map (·.2)) } :: assemble others rest

/-- Reads the signatures of `delegations` by one query, and gives them to the delegations. -/
def withSignatures (db : Database) (delegations : List Delegation) : Outcome (List Delegation) := do
  let signatures ← decodeAll SignatureRow.decode (db.signatureRows (delegations.map (·.txid.text)))
  return assemble signatures delegations

/-- Reads the delegations in `rows` together with their signatures. -/
def load (db : Database) (rows : List DelegationRow) : Outcome (List Delegation) :=
  decodeAll DelegationRow.decode rows >>= db.withSignatures

/-- The delegation of the transaction `txid`, with its signatures, if it has a row. -/
def getDelegation (db : Database) (txid : Txid) : Outcome (Option Delegation) :=
  match db.delegationRow? txid.text with
  | none => .ok none
  | some row => do
    let delegation ← (row.decode).mapError .driver
    let signatures ← decodeAll SignatureRow.decode (db.signatureRows [txid.text])
    return some { delegation with signatures := SortedMap.ofList (signatures.map (·.2)) }

/-- Whether the key of `row` has a row among the signatures for its transaction. -/
def hasSignature (db : Database) (row : SignatureRow) : Bool :=
  db.signatures.any fun r => r.txid = row.txid && r.key = row.key

/-- Inserts a signature unless its key has a row for the transaction. -/
def insertSignature (db : Database) (row : SignatureRow) : Database :=
  if db.hasSignature row then db else { db with signatures := db.signatures ++ [row] }

/-- Inserts a marker unless it has the same row already. -/
def insertMarker (db : Database) (row : MarkerRow) : Database :=
  if row ∈ db.markers then db else { db with markers := db.markers ++ [row] }

/-- Inserts the delegation `d` and its signatures unless its transaction has a row. -/
def saveDelegation (db : Database) (d : Delegation) : InsertOutcome × Database :=
  if (db.delegationRow? d.txid.text).isSome then (.alreadyExists, db)
  else
    let db := { db with delegations := db.delegations ++ [.ofDelegation d] }
    (.inserted, d.signatures.entries.foldl
      (fun db e => db.insertSignature (.ofSignature d.txid e.1 e.2)) db)

/-- Whether `row` is the one of the transaction `txid` and in one of `states`. -/
def isQualified (txid : String) (states : List State) (row : DelegationRow) : Bool :=
  row.txid = txid && decide (row.state ∈ states.map (·.name))

/-- Makes the change `u` to a delegation that is in one of the states `u.origins`, and queues the
marker `u.timelock` along with it. -/
def updateState (db : Database) (txid : Txid) (u : StateUpdate) : UpdateOutcome × Database :=
  if db.delegations.any (isQualified txid.text u.origins) then
    let db := { db with
      delegations := db.delegations.map fun r =>
        if isQualified txid.text u.origins r then r.update u else r }
    match u.timelock with
    | some marker => (.applied, db.insertMarker (.ofMarker marker))
    | none => (.applied, db)
  else (.preconditionFailed, db)

/-- Stores a signature under `key` unless this key has signed already, and counts the rows for the
delegation. -/
def saveSignature (db : Database) (txid : Txid) (key : XOnlyKey) (signature : Signature) :
    Outcome SignatureOutcome × Database :=
  let row := SignatureRow.ofSignature txid key signature
  if (db.delegationRow? txid.text).isNone then
    (.error (.data s!"no delegation with staking txid {txid.text}"), db)
  else if db.hasSignature row then (.ok .alreadyExists, db)
  else
    let db := db.insertSignature row
    (.ok (.inserted (db.signatures.countP (·.txid = row.txid))), db)

/-- The delegations that are in one of `states`, by state and then in order of insertion. -/
def delegationsByStates (db : Database) (states : List State) : Outcome (List Delegation) :=
  let names := states.map (·.name)
  -- sorting keeps the order of rows with the same state
  db.load ((db.delegations.filter fun r => r.state ∈ names).mergeSort fun a b =>
    (compare a.state b.state).isLE)

/-- The delegation of `row` if its list of finality providers has the text of the key `provider`. -/
def decodeIfProvided (provider : XOnlyKey) (row : DelegationRow) :
    Except DriverFailure (Option Delegation) :=
  match KeyList.searched? row.providers with
  | none => .error .malformedJson
  | some texts => if provider.text ∈ texts then row.decode.map some else .ok none

/-- The delegations whose list of finality providers has the text of `provider`, in order of
insertion. A row is searched and read before the next one. -/
def delegationsByProvider (db : Database) (provider : XOnlyKey) : Outcome (List Delegation) := do
  let found ← decodeAll (decodeIfProvided provider) db.delegations
  db.withSignatures (found.filterMap id)

/-- The first `limit` markers, in order, that are due at `tip` and come after `after`. -/
def dueMarkers (db : Database) (tip : Height) (after : Option Marker) (limit : Nat) :
    Outcome (List Marker) :=
  let due := db.markers.filter fun r => (compare r.expireHeight (Column.encodeHeight tip)).isLE
  let later := match after with
    | none => due
    | some m => due.filter fun r => (MarkerRow.ofMarker m).compareKey r = Ordering.lt
  -- paths of one rank are unknown ones, listed by their text
  let sorted := later.mergeSort fun a b =>
    ((a.compareKey b).then (compare a.subState b.subState)).isLE
  decodeAll MarkerRow.decode (sorted.take limit)

/-- Removes the marker `m`, if it has a row. -/
def deleteMarker (db : Database) (m : Marker) : DeleteOutcome × Database :=
  let row := MarkerRow.ofMarker m
  if row ∈ db.markers then (.deleted, { db with markers := db.markers.filter (· ≠ row) })
  else (.notFound, db)

/-- The cursor of a name, which stands at height and version zero as long as it has no row. -/
def getCursor (db : Database) (name : String) : Outcome Cursor :=
  match db.cursors.find? (·.name = name) with
  | none => .ok default
  | some row => row.decode

/-- Whether `row` is that of the cursor `name` and has the given `version`. -/
def isAt (name : String) (version : UInt64) (row : CursorRow) : Bool :=
  row.name = name && row.version = .integer version.toInt64

/-- Advances a cursor that is at the version `expected`. At version zero a cursor has no row. -/
def advanceCursor (db : Database) (name : String) (expected : UInt64) (height : Height) :
    Outcome CursorOutcome × Database :=
  let stored := Column.encodeHeight height
  let advanced := Except.ok (.advanced ⟨height, expected + 1⟩)
  let stale := (db.getCursor name).map .stale
  if expected = 0 then
    -- there is nothing to compare with, so only the first writer gets its row in
    if db.cursors.any (·.name = name) then (stale, db)
    else (advanced, { db with cursors := db.cursors ++ [⟨name, stored, .integer 1⟩] })
  else if db.cursors.any (isAt name expected) then
    (advanced, { db with
      cursors := db.cursors.map fun r =>
        if isAt name expected r then
          { r with height := stored, version := r.version.next }
        else r })
  else (stale, db)

/-- Answers the request `r` and gives the database after it, which is the same one if the answer is
a failure. -/
def answer : (r : Request) → Database → Outcome r.Answer × Database
  | .getDelegation txid, db => (db.getDelegation txid, db)
  | .saveDelegation d, db => let (outcome, db') := db.saveDelegation d; (.ok outcome, db')
  | .updateState txid u, db => let (outcome, db') := db.updateState txid u; (.ok outcome, db')
  | .saveSignature txid key signature, db => db.saveSignature txid key signature
  | .delegationsByStates states, db => (db.delegationsByStates states, db)
  | .delegationsByProvider provider, db => (db.delegationsByProvider provider, db)
  | .saveMarker m, db =>
    (.ok (if MarkerRow.ofMarker m ∈ db.markers then .alreadyExists else .inserted),
      db.insertMarker (.ofMarker m))
  | .dueMarkers tip after limit, db => (db.dueMarkers tip after limit, db)
  | .deleteMarker m, db => let (outcome, db') := db.deleteMarker m; (.ok outcome, db')
  | .getCursor name, db => (db.getCursor name, db)
  | .advanceCursor name expected height, db => db.advanceCursor name expected height

end Database

end StakeLedger
