import StakeLedger.Database.Column
import StakeLedger.Delegation.Record
import StakeLedger.Store.Request

/-!
# Rows

The database has four tables: delegations, covenant signatures, timelock markers and cursors. A row
is read column by column in the order of the table, and the first column that cannot be read fails
the row.
-/

namespace StakeLedger

/-- A row of the table of delegations. Its columns are texts and numbers in the order of the table;
those that may hold nothing are optional. Texts are names, digits and, for `providers`, a list in
JSON. -/
structure DelegationRow where
  txid : String
  staker : String
  providers : String
  amount : Datum
  stakingTime : Datum
  unbondingTime : Datum
  paramsVersion : Datum
  state : String
  subState : Option String
  startHeight : Option Datum
  expiryHeight : Option Datum
  slashingOutput : Option String
  slashingTx : Option String
  slashingHeight : Option Datum
  deriving DecidableEq, Repr

/-- A row of the table of covenant signatures: the texts of the transaction, of the `key` that
signed and of its signature. -/
structure SignatureRow where
  txid : String
  key : String
  signature : String
  deriving DecidableEq, Repr

/-- A row of the table of markers: the height, the text of the transaction, and the name of the
spending path in `subState`. -/
structure MarkerRow where
  expireHeight : Datum
  txid : String
  subState : String
  deriving DecidableEq, Repr

/-- A row of the table of cursors. Its `version` may be advanced past the integers of 64 bits. -/
structure CursorRow where
  name : String
  height : Datum
  version : Datum
  deriving DecidableEq, Repr

open Column

namespace SignatureRow

/-- The row of the signature that `key` made for the delegation `txid`. -/
def ofSignature (txid : Txid) (key : XOnlyKey) (signature : Signature) : SignatureRow :=
  ⟨txid.text, key.text, signature.text⟩

/-- Reads a signature with its transaction and its key. -/
def decode (r : SignatureRow) : Except DriverFailure (Txid × XOnlyKey × Signature) := do
  return (← read "staking_txid" (decodeTxid r.txid), ← read "covenant_pk" (decodeKey r.key),
    ← read "signature" (decodeSignature r.signature))

end SignatureRow

namespace DelegationRow

/-- The row of the delegation `d`; its signatures have a table of their own. -/
def ofDelegation (d : Delegation) : DelegationRow where
  txid := d.txid.text
  staker := d.stake.staker.text
  providers := encodeKeys d.stake.providers
  amount := encodeAmount d.stake.amount
  stakingTime := encodeWord d.stake.stakingTime
  unbondingTime := encodeWord d.stake.unbondingTime
  paramsVersion := encodeWord d.stake.paramsVersion
  state := d.state.name
  subState := d.subState.map (·.name)
  startHeight := d.startHeight.map encodeHeight
  expiryHeight := d.expiryHeight.map encodeHeight
  slashingOutput := d.slashing.map (·.output.name)
  slashingTx := d.slashing.map (·.transaction.hex)
  slashingHeight := d.slashing.map fun s => encodeHeight s.spendHeight

/-- Reads a delegation, without signatures. A slashing counts only if all its columns are set. -/
def decode (r : DelegationRow) : Except DriverFailure Delegation := do
  let txid ← read "staking_txid" (decodeTxid r.txid)
  let staker ← read "staker_pk" (decodeKey r.staker)
  let providers ← read "finality_provider_pks" (decodeKeys r.providers)
  let amount ← read "staking_amount" (decodeAmount r.amount)
  let stakingTime ← read "staking_time" (decodeWord r.stakingTime)
  let unbondingTime ← read "unbonding_time" (decodeWord r.unbondingTime)
  let paramsVersion ← read "params_version" (decodeWord r.paramsVersion)
  let state ← read "state" (decodeName State.ofName? r.state)
  let subState ← readOptional "sub_state" (decodeName SubState.ofName?) r.subState
  let startHeight ← readOptional "start_height" (decodeHeight .optionalHeight) r.startHeight
  let expiryHeight ← readOptional "expiry_height" (decodeHeight .optionalHeight) r.expiryHeight
  let output ← readOptional "slashing_output" (decodeName SlashedOutput.ofName?) r.slashingOutput
  let transaction ← readOptional "slashing_tx" decodeTransaction r.slashingTx
  let spendHeight ← readOptional "slashing_height" (decodeHeight .optionalHeight) r.slashingHeight
  return {
    stake := { txid, staker, providers, amount, stakingTime, unbondingTime, paramsVersion }
    state, subState, startHeight, expiryHeight
    signatures := .empty
    slashing := do return ⟨← output, ← transaction, ← spendHeight⟩ }

/-- The row `r` after the change of state `u`; what the change does not mention stays. -/
def update (r : DelegationRow) (u : StateUpdate) : DelegationRow :=
  { r with
    state := u.target.name
    subState := (u.subState.map (·.name)).or r.subState
    startHeight := (u.startHeight.map encodeHeight).or r.startHeight
    expiryHeight := (u.timelock.map fun m => encodeHeight m.expireHeight).or r.expiryHeight
    slashingOutput := (u.slashing.map (·.output.name)).or r.slashingOutput
    slashingTx := (u.slashing.map (·.transaction.hex)).or r.slashingTx
    slashingHeight := (u.slashing.map fun s => encodeHeight s.spendHeight).or r.slashingHeight }

end DelegationRow

namespace MarkerRow

/-- The row of the marker `m`. -/
def ofMarker (m : Marker) : MarkerRow := ⟨encodeHeight m.expireHeight, m.txid.text, m.subState.name⟩

/-- Reads a marker, column by column. -/
def decode (r : MarkerRow) : Except DriverFailure Marker := do
  return ⟨← read "expire_height" (decodeHeight .height r.expireHeight),
    ← read "staking_txid" (decodeTxid r.txid),
    ← read "sub_state" (decodeName SubState.ofName? r.subState)⟩

/-- The rank of a spending path among markers of the same height and transaction: `0` for the name
of the timelock, `1` for any other text. -/
def rank (r : MarkerRow) : Nat := if r.subState = SubState.timelock.name then 0 else 1

/-- The order in which markers are worked off: by height, by the text of the transaction, by
`rank`. -/
def compareKey (a b : MarkerRow) : Ordering :=
  (compare a.expireHeight b.expireHeight).then
    ((compare a.txid b.txid).then (compare a.rank b.rank))

end MarkerRow

namespace CursorRow

/-- Reads a cursor, whose version must not be negative. -/
def decode (r : CursorRow) : Except DatabaseError Cursor := do
  let height ← (read "height" (decodeHeight .height r.height)).mapError .driver
  let version ← (read "version" (decodeInteger .version r.version)).mapError .driver
  if version < 0 then throw (.conversion s!"cursor version: {ColumnFailure.numberTooSmall.message}")
  return ⟨height, version.toUInt64⟩

end CursorRow

end StakeLedger
