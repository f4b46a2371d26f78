import StakeLedger.Bitcoin.Signature
import StakeLedger.Bitcoin.Transaction
import StakeLedger.Bitcoin.XOnlyKey
import StakeLedger.Delegation.Marker
import StakeLedger.Order.SortedMap
import StakeLedger.Order.SortedSet

/-!
# Delegation Records

A stake is what a staking transaction says about a new delegation and never changes. A delegation
adds to it where the stake is in its lifecycle and what has been collected on the way.
-/

namespace StakeLedger

/-- The version of the staking parameters a delegation is bound to. -/
abbrev ParamsVersion := UInt32

/-- A newly seen stake: what its staking transaction says, which never changes. -/
structure Stake where
  /-- The staking transaction, which identifies the delegation. -/
  txid : Txid
  staker : XOnlyKey
  /-- The finality providers the stake is delegated to, each listed once. -/
  providers : SortedSet XOnlyKey
  amount : Amount
  /-- The number of blocks for which the staking output is locked. -/
  stakingTime : Blocks
  /-- The number of blocks for which the unbonding output is locked. -/
  unbondingTime : Blocks
  /-- The version of the parameters in force when the stake was made, which names its committee. -/
  paramsVersion : ParamsVersion
  deriving DecidableEq

/-- A slashing transaction found on the chain, with the output it spent and the height at which it
did. -/
structure Slashing where
  output : SlashedOutput
  transaction : Transaction
  spendHeight : Height
  deriving DecidableEq

/-- The record kept of a delegation: its `stake`, and what was learned about it since. -/
structure Delegation where
  stake : Stake
  state : State
  /-- The spending path that led to the state, or `none` where no path did. -/
  subState : Option SubState
  /-- The height at which the stake was included, recorded when it becomes `active`. -/
  startHeight : Option Height
  /-- The height of the timelock that was opened last. -/
  expiryHeight : Option Height
  /-- The covenant signatures by the key that made them, one for each key. -/
  signatures : SortedMap XOnlyKey Signature
  slashing : Option Slashing
  deriving DecidableEq

namespace Delegation

/-- The transaction identifier that names the delegation: `d.stake.txid`. -/
def txid (d : Delegation) : Txid := d.stake.txid

/-- The record of a stake that has just been seen: `pending`, with nothing collected yet. -/
def ofStake (stake : Stake) : Delegation where
  stake
  state := .pending
  subState := none
  startHeight := none
  expiryHeight := none
  signatures := .empty
  slashing := none

/-- The number of covenant members that have signed, which is compared with the quorum. -/
def signatureCount (d : Delegation) : Nat := d.signatures.size

end Delegation

end StakeLedger
